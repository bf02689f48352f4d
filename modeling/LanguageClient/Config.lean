import LanguageClient.ClientError
import LanguageClient.Definition.Basic
import LanguageClient.LogLevel
import LanguageClient.Timeout
namespace LanguageClient

/-!
# Client configuration

The servers by extension key, the documents pinned to one, timeouts, and the number of crashes in
a row after which a server is given up. What the file leaves out has its standard value.
-/

/-- A document pinned to a definition, whatever its extension. -/
structure ForcedAssociation where
  uri : String
  root : String
  definition : List String
deriving DecidableEq, Repr

structure Config where
  servers : List (String × List String)
  forced : List ForcedAssociation
  timeouts : TimeoutOverrides
  crashThreshold : Nat
  logLevel : Option String
deriving DecidableEq, Repr

namespace ForcedAssociation

def outline : Json.Outline := .ofNames ["uri", "root", "definition"]

def shape : Shape :=
  Shape.record
    [Shape.required "uri" Shape.string, Shape.required "root" Shape.string,
      Shape.required "definition" (Shape.list Shape.string)]

def toJson (f : ForcedAssociation) : Json :=
  Json.object
    [("uri", .str f.uri), ("root", .str f.root), ("definition", .ofStrings f.definition)]

/-- Reads the normal form. -/
def ofNormal (j : Json) : ForcedAssociation :=
  ⟨(j.get "uri").str?.getD "", (j.get "root").str?.getD "", (j.get "definition").strings?.getD []⟩

end ForcedAssociation

namespace Config

def defaultCrashThreshold : Nat := 4

/-- The directory of the configuration, under that of all configurations of the user. -/
def directory : String := "langlink"

/-- The place of the configuration file, under that of all configurations of the user. -/
def defaultFile : String := directory ++ "/langlink.json"

def standard : Config := ⟨[], [], [], defaultCrashThreshold, none⟩

def outline : Json.Outline :=
  .record
    [("servers", .whole), ("forcedAssociations", .items ForcedAssociation.outline),
      ("timeouts", .whole), ("crashThreshold", .whole), ("logLevel", .whole)]

def shape : Shape :=
  Shape.record
    [Shape.standard "servers" (Shape.map (Shape.list Shape.string)) (.obj []),
      Shape.standard "forcedAssociations" (Shape.list ForcedAssociation.shape) (.arr []),
      Shape.standard "timeouts" TimeoutOverrides.shape (.obj []),
      Shape.standard "crashThreshold" Shape.u32 (.ofNat defaultCrashThreshold),
      Shape.standard "logLevel" (Shape.orNull Shape.string) .null]

def ofJson? (j : Json) : Option Config :=
  (shape j).map fun c =>
    ⟨(c.get "servers").members.map fun m => (m.1, m.2.strings?.getD []),
      ((c.get "forcedAssociations").arr?.getD []).map ForcedAssociation.ofNormal,
      (TimeoutOverrides.ofJson? (c.get "timeouts")).getD [],
      (c.get "crashThreshold").nat?.getD 0,
      (c.get "logLevel").str?⟩

def toJson (c : Config) : Json :=
  Json.object
    [("servers", Json.object (c.servers.map fun s => (s.1, .ofStrings s.2))),
      ("forcedAssociations", .arr (c.forced.map ForcedAssociation.toJson)),
      ("timeouts", TimeoutOverrides.toJson c.timeouts),
      ("crashThreshold", .ofNat c.crashThreshold),
      ("logLevel", .ofOption .str c.logLevel)]

/-- Reads the text of a configuration file. -/
def ofText (t : Text) : Except ClientError Config :=
  match (Json.readOutline? outline t).bind ofJson? with
  | some c => .ok c
  | none => .error (.json "")

/-- The configuration of an optional file; one that is missing or invalid gives the standard. -/
def ofFileOrStandard (content : Option Text) : Config :=
  match content.map ofText with
  | some (.ok c) => c
  | _ => standard

def addDefinition (c : Config) (d : ServerDefinition) : Config :=
  let key := String.ofList d.extension
  let value := d.toArray.map String.ofList
  let servers := c.servers.filter fun s => s.1 != key
  { c with servers := servers.takeWhile (fun s => s.1 < key) ++
      (key, value) :: servers.dropWhile (fun s => s.1 < key) }

/-- The definitions that can be read; the others are skipped. -/
def definitions (c : Config) : List ServerDefinition :=
  c.servers.filterMap fun s => (ServerDefinition.ofArray (s.2.map String.toList)).toOption

def level? (c : Config) : Option LogLevel := c.logLevel.bind fun s => LogLevel.ofName? s.toList

end Config

namespace Preset

def executable (extension path : String) (args : List String) : ServerDefinition :=
  ServerDefinition.new extension.toList (.executable path.toList (args.map String.toList))

/-- The built-in definitions. -/
def all : List ServerDefinition :=
  [executable "rs" "rust-analyzer" [],
    { executable "ts;tsx;js;jsx" "typescript-language-server" ["--stdio"] with
      id := "typescript".toList },
    executable "py" "pyright-langserver" ["--stdio"],
    executable "go" "gopls" [],
    executable "c;cpp;cc;cxx;h;hpp" "clangd" []]

/-- The configuration that holds the built-in definitions. -/
def config : Config := all.foldl Config.addDefinition Config.standard

end Preset

end LanguageClient
