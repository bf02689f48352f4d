import LanguageClient.Client.Calls
import LanguageClient.Session.Params
namespace LanguageClient

/-!
# Keeping a server in step with a document

What a session tells its server: that the document is open, every change of it, that it is saved,
and that it is closed. All under the session's lock, so that versions and notifications agree.
-/

namespace Session

variable {E K : Type}

/-- Tells the server that the document is open, once. -/
def tellOpened (s : SessionId) : Prog E K Unit :=
  Program.locked (Client.sessionLock s) do
    let session ← Program.read (·.session s)
    if session.opened || session.closed then return ()
    Program.modify (Client.updateSession s fun x => { x with opened := true })
    match ← Program.read (·.access? s) with
    | none => return ()
    | some a => do
      let text ← Program.read (·.text s)
      a.tell .didOpen (Params.didOpen session.uri session.languageId session.version text)

/-- Tells the server that the document is closed, once; the session is of no use from then on. -/
def tellClosed (s : SessionId) : Prog E K Unit :=
  Program.locked (Client.sessionLock s) do
    let session ← Program.read (·.session s)
    if session.closed then return ()
    Program.modify (Client.updateSession s fun x => { x with closed := true })
    if session.opened then
      match ← Program.read (·.access? s) with
      | none => return ()
      | some a => a.tell .didClose (Params.about session.uri [])

/-- The access to report changes to, while the document is open on the server. -/
def syncAccess? (s : SessionId) (c : Client E) : Option Access :=
  if (c.session s).isOpen then c.access? s else none

/-- Keeps a change that was just made to the buffer. -/
def recordChange (s : SessionId) (a : Access) (change : TextChange) (c : Client E) : Client E :=
  c.updateSession s fun x =>
    { x with pending := x.pending.record a.capabilities.syncKind change (c.text s) }

/-- Tells the server of the changes that were kept, if there are any. -/
def flush (s : SessionId) (a : Access) : Prog E K Unit := do
  let (session, changes) ← Program.act fun c =>
    let r := (c.session s).takePending (c.text s)
    (c.updateSession s fun _ => r.1, r)
  match changes with
  | [] => return ()
  | changes => a.tell .didChange (Params.didChange session.uri session.version changes)

/-- Reports a change that the buffer has gone through. -/
def tellChanged (s : SessionId) (change : TextChange) : Prog E K Unit :=
  Program.locked (Client.sessionLock s) do
    match ← Program.read (syncAccess? s) with
    | none => return ()
    | some a => do
      Program.modify (recordChange s a change)
      flush s a

/-- Edits the buffer of a document, and reports the change to its session if there is one. -/
def edit (d : OpenDocument) (change : TextChange) : Prog E K Unit := do
  Program.modify fun c => c.updateEditor fun e => e.updateBuffer d.buffer fun b =>
    b.replace change.offset (change.offset + Text.byteLength change.removed) change.inserted
  match ← Program.read fun c => c.index.find? d.uri with
  | none => return ()
  | some entry => tellChanged entry.session change

/-- Whether the document is open on the server, once nobody is telling it anything. -/
def isOpenNow (s : SessionId) : Prog E K Bool :=
  Program.locked (Client.sessionLock s) (Program.read fun c => (c.session s).isOpen)

/-- The version of the document, once nobody is telling the server anything. -/
def versionNow (s : SessionId) : Prog E K Nat :=
  Program.locked (Client.sessionLock s) (Program.read fun c => (c.session s).version)

/-- Tells the server that the document was saved. -/
def tellSaved (s : SessionId) : Prog E K Unit := do
  Program.modify (Client.updateSession s fun x => { x with needSave := false })
  if ← isOpenNow s then
    match ← Program.read (·.access? s) with
    | none => return ()
    | some a => do
      let (uri, text) ← Program.read fun c => ((c.session s).uri, c.text s)
      a.tell .didSave
        (Params.didSave uri (if a.capabilities.saveIncludesText then some text else none))

/-! ## Edits -/

/-- Edits with the last one in the text first; those at one place keep their order. -/
def lastFirst (text : Text) (edits : List TextEdit) : List TextEdit :=
  edits.mergeSort fun e f => decide ((text.offsets f.range).1 ≤ (text.offsets e.range).1)

/-- Makes one edit in the buffer and keeps it for the server. -/
def makeEdit (s : SessionId) (access : Option Access) (edit : TextEdit) (c : Client E) : Client E :=
  let text := c.text s
  let (start, stop) := text.offsets edit.range
  let c' := c.updateEditor fun e =>
    e.updateBuffer (c.session s).buffer (·.replace start stop edit.newText)
  match access with
  | none => c'
  | some a => recordChange s a ⟨start, text.slice start stop, edit.newText⟩ c'

/-- Makes edits in the buffer and reports them as one change. They are refused if they are meant for
a version that has passed. -/
def applyEdits (s : SessionId) (edits : List TextEdit) (version : Option Int) : Prog E K Bool :=
  Program.locked (Client.sessionLock s) do
    let current ← Program.read fun c => (c.session s).version
    if version.any fun v => decide (v < (current : Int)) then return false
    let access ← Program.act fun c =>
      let access := syncAccess? s c
      ((lastFirst (c.text s) edits).foldl (fun c e => makeEdit s access e c) c, access)
    match access with
    | none => return true
    | some a => do
      flush s a
      return true

/-- The document is about to be saved. A server that wants to edit it first is asked to, and the
document is saved right away; when that save comes back here, the server is only told of it. -/
def tellWillSave (s : SessionId) (reason : Int) : Prog E K Unit := do
  match ← Program.read (·.access? s) with
  | none => return ()
  | some a => do
    let session ← Program.read (·.session s)
    let params := Params.willSave session.uri reason
    if a.capabilities.willSaveWaitUntil && !session.needSave then
      match ← a.ask .willSave .willSaveWaitUntil params with
      | some edits => do
        let _ ← applyEdits s (TextEdit.listOfNormal edits) none
      | none => pure ()
      Program.modify fun c =>
        (c.updateSession s fun x => { x with needSave := true }).updateEditor fun e =>
          e.updateBuffer session.buffer Buffer.save
    else a.tell .willSave params

end Session

end LanguageClient
