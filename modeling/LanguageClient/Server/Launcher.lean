import LanguageClient.Definition.Basic
import LanguageClient.Path
import LanguageClient.Server.Basic
import LanguageClient.Task.Store
namespace LanguageClient

/-!
# Launchers

A launcher hands out a provider of local processes for every definition and directory. As long as
it is not released, a pair keeps its provider.
-/

/-- What a provider of local processes starts. -/
structure ProcessProvider where
  command : LaunchCommand
  /-- What is added to the environment of the process. -/
  environment : List (Text × Text)
deriving DecidableEq, Repr

instance : Inhabited ProcessProvider := ⟨⟨⟨[], [], []⟩, []⟩⟩

namespace Launcher

/-- A definition as it is written and the components of a directory. -/
structure Key where
  definition : List Text
  directory : List Path.Component
deriving DecidableEq, Repr

def Key.of (d : ServerDefinition) (directory : Path) : Key := ⟨d.toArray, Path.components directory⟩

end Launcher

structure Launcher where
  resolver : Option ArtifactResolver
  environment : List (Text × Text)
  cached : List (Launcher.Key × ProviderId)
  /-- Every provider that was ever made. -/
  providers : Store ProcessProvider

namespace Launcher

def new (resolver : Option ArtifactResolver) (environment : List (Text × Text)) : Launcher :=
  ⟨resolver, environment, [], Store.empty⟩

/-- The provider of a definition and a directory, made if there is none. -/
def acquire (l : Launcher) (d : ServerDefinition) (directory : Path) :
    Launcher × Except ClientError ProviderId :=
  let key := Key.of d directory
  match l.cached.lookup key with
  | some provider => (l, .ok provider)
  | none =>
    match d.launchCommand directory l.resolver with
    | .error e => (l, .error e)
    | .ok command =>
      let (providers, provider) := l.providers.add ⟨command, l.environment⟩
      ({ l with providers, cached := l.cached ++ [(key, provider)] }, .ok provider)

/-- Forgets the provider of a definition and a directory. -/
def release (l : Launcher) (d : ServerDefinition) (directory : Path) : Launcher :=
  let key := Key.of d directory
  { l with cached := l.cached.filter fun e => e.1 != key }

theorem acquire_of_lookup {l : Launcher} {d : ServerDefinition} {directory : Path} {p : ProviderId}
    (h : l.cached.lookup (Key.of d directory) = some p) : l.acquire d directory = (l, .ok p) := by
  simp [acquire, h]

end Launcher

end LanguageClient
