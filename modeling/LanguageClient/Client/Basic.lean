import LanguageClient.Editor.Basic
import LanguageClient.LogLevel
import LanguageClient.Message.Basic
import LanguageClient.Routing.Basic
import LanguageClient.Server.Basic
import LanguageClient.Session.Basic
import LanguageClient.Timeout
namespace LanguageClient

/-!
# Clients

All that a client works on: its servers and sessions, the routes between documents and servers, the
editor, and the connections. What the servers themselves are is outside, in a state of type `E`.
-/

/-- Something a server said that goes into the log. -/
inductive JournalEntry where
  /-- A line of the server's error output. -/
  | output (server : String) (line : Text)
  | message (server : String) (level : LogLevel) (text : String)
deriving DecidableEq, Repr

structure Client (E : Type) where
  wiring : Wiring
  editor : Editor
  /-- The number of the client's process. -/
  process : Nat
  /-- The directory that the client runs in. -/
  directory : Path
  timeouts : TimeoutTable
  /-- The crashes in a row after which a server is given up. -/
  crashThreshold : Nat
  servers : Store Server
  sessions : Store Session
  index : DocumentIndex
  routes : Routes
  journal : List JournalEntry
  outside : E

/-- Who a link belongs to: a server, and its generation at the time. -/
structure LinkOwner where
  server : ServerId
  generation : Nat
deriving DecidableEq, Repr

/-- What tasks of the client do, and those outside it. -/
inductive Job (K : Type) where
  /-- Reads what a server sends. -/
  | readAll (owner : LinkOwner) (link : LinkId)
  /-- Answers a request of a server. -/
  | answer (owner : LinkOwner) (link : LinkId) (id : RequestId) (method : String) (params : Json)
  | handshake (owner : LinkOwner) (link : LinkId) (params : Json)
  /-- Stops a server that could not be initialized. -/
  | abandon (owner : LinkOwner)
  | crash (owner : LinkOwner) (error : ClientError)
  /-- Copies the error output of a server to the log. -/
  | errorLog (server : String) (pipe : PipeId)
  /-- Searches the symbols of one server. -/
  | search (access : Access) (query : String) (promise : PromiseId)
  | outside (job : K)

/-- What a task of the client does. -/
abbrev Prog (E K : Type) := Program (Client E) (Job K)

namespace Client

variable {E : Type}

def new (outside : E) : Client E :=
  { wiring := Wiring.empty
    editor := Editor.new
    process := 1
    directory := ['/']
    timeouts := TimeoutTable.new
    crashThreshold := Config.defaultCrashThreshold
    servers := Store.empty
    sessions := Store.empty
    index := DocumentIndex.empty
    routes := Routes.empty
    journal := []
    outside }

/-- Takes definitions, pins, timeouts and the crash threshold from a configuration. -/
def configure (c : Client E) (config : Config) : Client E :=
  { c with
    timeouts := c.timeouts.apply config.timeouts
    crashThreshold := config.crashThreshold
    routes := Routes.ofConfig config }

instance : HasWiring (Client E) := ⟨Client.wiring, fun w c => { c with wiring := w }⟩

def server (c : Client E) (s : ServerId) : Server := c.servers.get s

def session (c : Client E) (s : SessionId) : Session := c.sessions.get s

/-- Changes a server; a move of its status wakes those who wait for it. -/
def visitServer {β : Type} (s : ServerId) (f : Server → Server × β) (c : Client E) : Client E × β :=
  let r := f (c.server s)
  let moved := r.1.status ≠ (c.server s).status
  let server := if moved then { r.1 with watchers := [] } else r.1
  let c := { c with servers := c.servers.update s fun _ => server }
  (if moved then HasAgenda.wakeAll r.1.watchers c else c, r.2)

def updateServer (s : ServerId) (f : Server → Server) (c : Client E) : Client E :=
  (c.visitServer s fun server => (f server, ())).1

def updateSession (s : SessionId) (f : Session → Session) (c : Client E) : Client E :=
  { c with sessions := c.sessions.update s f }

def addServer (server : Server) (c : Client E) : Client E × ServerId :=
  let r := c.servers.add server
  ({ c with servers := r.1 }, r.2)

def addSession (session : Session) (c : Client E) : Client E × SessionId :=
  let r := c.sessions.add session
  ({ c with sessions := r.1 }, r.2)

def updateEditor (f : Editor → Editor) (c : Client E) : Client E := { c with editor := f c.editor }

def updateIndex (f : DocumentIndex → DocumentIndex) (c : Client E) : Client E :=
  { c with index := f c.index }

def updateRoutes (f : Routes → Routes) (c : Client E) : Client E := { c with routes := f c.routes }

/-- Shows something in the editor. -/
def show_ (d : Display) (c : Client E) : Client E := c.updateEditor (·.show_ d)

def log (entry : JournalEntry) (c : Client E) : Client E :=
  { c with journal := c.journal ++ [entry] }

/-- The text of a session's document. -/
def text (c : Client E) (s : SessionId) : Text := c.editor.text (c.session s).buffer

def lifecycleLock (s : ServerId) : Lock.Place (Client E) where
  read c := (c.server s).lifecycle
  write lock := updateServer s fun server => { server with lifecycle := lock }

def sessionLock (s : SessionId) : Lock.Place (Client E) where
  read c := (c.session s).lock
  write lock := updateSession s fun session => { session with lock := lock }

end Client

namespace Prog

variable {E K : Type}

/-- Gives a request as long as its kind may take, and counts how it went. -/
def limit {α : Type} (kind : RequestKind) (body : Prog E K α) :
    Prog E K (Except ClientError α) := do
  let millis ← Program.read fun c => c.timeouts.millis kind
  match ← Program.timeout millis body with
  | some a => do
    Program.modify fun c => { c with timeouts := c.timeouts.record kind true }
    return .ok a
  | none => do
    Program.modify fun c => { c with timeouts := c.timeouts.record kind false }
    return .error .timeout

/-- The same for a request that may have no answer, which a timeout counts as. -/
def limited {α : Type} (kind : RequestKind) (body : Prog E K (Option α)) : Prog E K (Option α) := do
  match ← limit kind body with
  | .ok a => return a
  | .error _ => return none

end Prog

end LanguageClient
