import LanguageClient.Session.Sync
namespace LanguageClient

/-!
# Workspace edits

A workspace edit is made in all documents it names or in none: it is refused if one of them is not
open or is past the version it was meant for, or if files are to be created, renamed or deleted.
-/

namespace WorkspaceEdit

variable {E K : Type}

/-- The edits of one session. -/
structure Target where
  session : SessionId
  version : Option Int
  edits : List TextEdit

/-- The sessions of all documents that the edit names. -/
def targets? (index : DocumentIndex) (e : WorkspaceEdit) : Option (List Target) :=
  if e.touchesFiles then none
  else e.documents.mapM fun d => (index.find? d.uri).map fun x => ⟨x.session, d.version, d.edits⟩

/-- Whether no target is past its version. -/
def areCurrent : List Target → Prog E K Bool
  | [] => return true
  | t :: ts => do
    match t.version with
    | none => areCurrent ts
    | some v => do
      let current ← Session.versionNow t.session
      if v < (current : Int) then return false else areCurrent ts

def applyAll : List Target → Prog E K Bool
  | [] => return true
  | t :: ts => do
    let applied ← Session.applyEdits t.session t.edits t.version
    let others ← applyAll ts
    return applied && others

/-- Makes the edit in all documents or in none. -/
def apply (e : WorkspaceEdit) : Prog E K Bool := do
  match ← Program.read fun c => e.targets? c.index with
  | none => return false
  | some targets => do
    if ← areCurrent targets then applyAll targets else return false

end WorkspaceEdit

end LanguageClient
