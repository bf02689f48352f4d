import LanguageClient.Editor.Buffer
import LanguageClient.Server.Capability
import LanguageClient.Task.Lock
import LanguageClient.Text.Position
namespace LanguageClient

/-!
# Sessions

A session ties an open document to the server it is connected to, for one connection. It counts the
versions of the document that the server was told of.
-/

/-!
## Pending changes

The changes of a document that its server has not been told of. Where the server takes whole texts
they add up to one; where it takes neither, none are kept.
-/

inductive PendingChanges where
  | none
  /-- The whole text, as it will be by then. -/
  | whole
  | parts (changes : List ContentChange)
deriving DecidableEq, Repr

namespace PendingChanges

/-- Adds a change, given the text right after it. -/
def record (p : PendingChanges) (kind : SyncKind) (change : TextChange) (after : Text) :
    PendingChanges :=
  if kind = SyncKind.full then whole
  else if kind = SyncKind.incremental then
    let part := ContentChange.incremental after change
    match p with
    | parts changes => parts (changes ++ [part])
    | _ => parts [part]
  else p

/-- What to tell the server, given the text as it is now. -/
def contents (p : PendingChanges) (text : Text) : List ContentChange :=
  match p with
  | none => []
  | whole => [ContentChange.whole text]
  | parts changes => changes

end PendingChanges

/-! ## The session of a document -/

abbrev SessionId := Nat
abbrev ServerId := Nat

structure Session where
  uri : String
  path : Path
  languageId : Text
  buffer : BufferId
  server : ServerId
  /-- Held while the server is told of the document. -/
  lock : Lock
  version : Nat
  opened : Bool
  /-- A closed session stays closed. -/
  closed : Bool
  pending : PendingChanges
  needSave : Bool
  /-- The diagnostics published last, in normal form. -/
  diagnostics : List Json

namespace Session

/-- The session of a document, before it is opened on the server. -/
def new (d : OpenDocument) (languageId : Text) (server : ServerId) : Session :=
  { uri := d.uri
    path := d.path
    languageId
    buffer := d.buffer
    server
    lock := Lock.free
    version := 0
    opened := false
    closed := false
    pending := .none
    needSave := false
    diagnostics := [] }

instance : Inhabited Session := ⟨new ⟨"", [], [], 0⟩ [] 0⟩

def isOpen (s : Session) : Bool := s.opened && !s.closed

/-- Takes the pending changes out, given the text as it is now, under a new version if there are
any. -/
def takePending (s : Session) (text : Text) : Session × List ContentChange :=
  match s.pending.contents text with
  | [] => ({ s with pending := .none }, [])
  | changes => ({ s with pending := .none, version := s.version + 1 }, changes)

end Session

/-!
## The document index

Where an open document is found: its session and the server it is connected to.
-/

structure DocumentIndex.Entry where
  session : SessionId
  server : ServerId
deriving DecidableEq, Repr

structure DocumentIndex where
  entries : List (String × DocumentIndex.Entry)
deriving DecidableEq, Repr

namespace DocumentIndex

def empty : DocumentIndex := ⟨[]⟩

instance : Inhabited DocumentIndex := ⟨empty⟩

def find? (x : DocumentIndex) (uri : String) : Option Entry := x.entries.lookup uri

/-- Enters a session, in place of another one of the same document. -/
def insert (x : DocumentIndex) (uri : String) (entry : Entry) : DocumentIndex :=
  ⟨(x.entries.filter fun e => e.1 != uri) ++ [(uri, entry)]⟩

/-- Takes a document out if it is still entered with that session. -/
def remove (x : DocumentIndex) (uri : String) (session : SessionId) : DocumentIndex :=
  ⟨x.entries.filter fun e => !(e.1 == uri && e.2.session == session)⟩

def uris (x : DocumentIndex) : List String := x.entries.map (·.1)

def size (x : DocumentIndex) : Nat := x.entries.length

theorem find?_insert_same (x : DocumentIndex) (uri : String) (entry : Entry) :
    (x.insert uri entry).find? uri = some entry := by
  have h : (x.entries.filter fun e => e.1 != uri).lookup uri = none := by
    rw [List.lookup_eq_none_iff]
    intro e he
    simp only [List.mem_filter, bne_iff_ne] at he
    simpa using Ne.symm he.2
  simp [insert, find?, List.lookup_append, h]

end DocumentIndex

end LanguageClient
