import LanguageClient.Glob.Pattern
import LanguageClient.Path
import LanguageClient.Schema.Basic
import LanguageClient.Uri.FilePath
namespace LanguageClient

/-!
# File watchers

A watcher names the files whose changes a server wants to hear of, and the kinds of change: bit 1
for creation, 2 for change, 4 for deletion. A pattern is held against the whole path and against
the file name.
-/

/-- A kind of change of a file, by its number in the protocol. -/
abbrev FileChange := Int

namespace FileChange

def created : FileChange := 1
def changed : FileChange := 2
def deleted : FileChange := 3

/-- The bit of a kind of change; an unknown kind has none. -/
def bit (change : FileChange) : Nat :=
  if change = created then 1 else if change = changed then 2 else if change = deleted then 4 else 0

end FileChange

structure FileWatcher where
  patterns : List Glob.Pattern
  kind : Nat
deriving DecidableEq, Repr

namespace FileWatcher

/-- All three kinds of change. -/
def allKinds : Nat := 7

/-- Invalid patterns are ignored; with no valid one there is no watcher. -/
def new? (pattern : Text) (kind : Nat) : Option FileWatcher :=
  match (Glob.expandBraces pattern).filterMap Glob.parse? with
  | [] => none
  | patterns => some ⟨patterns, kind⟩

def matchesPath (w : FileWatcher) (path : Path) : Bool :=
  let name := (Path.fileName? path).getD []
  w.patterns.any fun p => p.isMatch path || (name ≠ [] && p.isMatch name)

def accepts (w : FileWatcher) (path : Path) (change : FileChange) : Bool :=
  w.kind &&& FileChange.bit change != 0 && w.matchesPath path

/-- The directory that a relative pattern starts from: a URI, or an object with a URI. -/
def base? (base : Json) : Option Path := do
  let uri ← match base with
    | .str s => some s
    | .obj ms => (Json.lookup "uri" ms).bind Json.str?
    | _ => none
  Uri.toPath? uri.toList

/-- A pattern as a text, relative to the base it may come with. -/
def patternText? (glob : Json) : Option Text :=
  match glob with
  | .str p => some p.toList
  | _ => do
    let relative ← Shape.merged
      [Shape.required "baseUri" Shape.any, Shape.required "pattern" Shape.string] glob
    let pattern := ((relative.get "pattern").str?.getD "").toList
    match base? (relative.get "baseUri") with
    | some dir => some ((dir.reverse.dropWhile (· == '/')).reverse ++ '/' :: pattern)
    | none => some pattern

def globShape : Shape := fun j => (patternText? j).map Json.ofText

def optionsShape : Shape :=
  Shape.record
    [Shape.standard "watchers"
      (Shape.list
        (Shape.record
          [Shape.required "globPattern" globShape, Shape.optional "kind" Shape.u8]))
      (.arr [])]

/-- The watchers of registration options; invalid options give none. -/
def ofOptions (options : Json) : List FileWatcher :=
  match optionsShape options with
  | none => []
  | some o =>
    ((o.get "watchers").arr?.getD []).filterMap fun w =>
      let kind := ((w.get? "kind").bind Json.nat?).getD allKinds
      new? ((w.get "globPattern").str?.getD "").toList kind

end FileWatcher

end LanguageClient
