import LanguageClient.Schema.Feature
import LanguageClient.Text.Position
namespace LanguageClient

/-!
# Edits

Text edits and workspace edits of the protocol, with their JSON forms. A reader called `ofNormal`
expects the normal form that the matching shape gives.
-/

namespace Position

def toJson (p : Position) : Json :=
  Json.object [("line", .ofNat p.line), ("character", .ofNat p.character)]

def ofNormal (j : Json) : Position :=
  ⟨(j.get "line").nat?.getD 0, (j.get "character").nat?.getD 0⟩

end Position

namespace Range

def toJson (r : Range) : Json := Json.object [("start", r.start.toJson), ("end", r.stop.toJson)]

def ofNormal (j : Json) : Range :=
  ⟨Position.ofNormal (j.get "start"), Position.ofNormal (j.get "end")⟩

end Range

structure TextEdit where
  range : Range
  newText : Text
deriving DecidableEq, Repr

namespace TextEdit

def toJson (e : TextEdit) : Json :=
  Json.object [("range", e.range.toJson), ("newText", .ofText e.newText)]

def ofNormal (j : Json) : TextEdit :=
  ⟨Range.ofNormal (j.get "range"), ((j.get "newText").str?.getD "").toList⟩

def listOfNormal (j : Json) : List TextEdit := (j.arr?.getD []).map ofNormal

end TextEdit

namespace ContentChange

def toJson (c : ContentChange) : Json :=
  Json.record
    [("range", c.range.map Range.toJson), ("rangeLength", c.rangeLength.map Json.ofNat),
      ("text", some (.ofText c.text))]

end ContentChange

/-- The edits of one document, possibly for one version of it. -/
structure DocumentEdit where
  uri : String
  version : Option Int
  edits : List TextEdit
deriving DecidableEq, Repr

/-- The documents that a workspace edit changes, and whether it also works on files. -/
structure WorkspaceEdit where
  documents : List DocumentEdit
  touchesFiles : Bool
deriving DecidableEq, Repr

namespace DocumentEdit

def ofNormal (j : Json) : DocumentEdit :=
  let id := j.get "textDocument"
  ⟨(id.get "uri").str?.getD "", (id.get "version").int?, TextEdit.listOfNormal (j.get "edits")⟩

end DocumentEdit

namespace WorkspaceEdit

/-- Reads the normal form. The list of document changes wins over the changes by URI; its elements
with a kind work on files. -/
def ofNormal (j : Json) : WorkspaceEdit :=
  match (j.get? "documentChanges").bind Json.arr? with
  | some items =>
    let isOperation (item : Json) : Bool := (item.get? "kind").isSome
    ⟨(items.filter fun i => !isOperation i).map DocumentEdit.ofNormal, items.any isOperation⟩
  | none =>
    ⟨(j.get "changes").members.map fun m => ⟨m.1, none, TextEdit.listOfNormal m.2⟩, false⟩

end WorkspaceEdit

end LanguageClient
