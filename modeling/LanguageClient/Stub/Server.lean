import LanguageClient.Client.Requests
import LanguageClient.Message.Basic
import LanguageClient.Task.Scheduler
namespace LanguageClient

/-!
# Stub servers

A stub server talks over pipes like a real one and keeps a record of what it receives. Every start
opens a fresh connection; script and record outlast it. A connection has three tasks: one reads and
answers until the client exits or goes away, one writes what is put into the outbox until it is
told to close, and one carries what is written on to the client, so that bytes of another kind can
be put in between.
-/

/-!
## Scripts

What a stub server says: nothing to the methods it is silent on, an error or a response from its
tables to others, and null to the rest. It answers the handshake with its capabilities.
-/

structure StubScript where
  capabilities : Json
  responses : List (String × Json)
  errors : List (String × (Int × String))
  silent : List String
  /-- Whether the server cannot be started. -/
  refuses : Bool
  /-- What every connection finds on the error output, if there is one. -/
  errorOutput : Option Text

namespace StubScript

def new (capabilities : Json) : StubScript := ⟨capabilities, [], [], [], false, none⟩

instance : Inhabited StubScript := ⟨new (Json.object [])⟩

/-- Responds to a method from now on. -/
def respond (s : StubScript) (method : String) (result : Json) : StubScript :=
  { s with responses := (method, result) :: s.responses }

/-- Fails a method from now on. -/
def fail (s : StubScript) (method : String) (code : Int) (message : String) : StubScript :=
  { s with errors := (method, (code, message)) :: s.errors }

/-- Never answers a method from now on. -/
def silence (s : StubScript) (method : String) : StubScript :=
  { s with silent := method :: s.silent }

/-- The answer to a request, if there is one. -/
def answer? (s : StubScript) (method : String) : Option RpcOutcome :=
  if s.silent.contains method then none
  else
    match s.errors.lookup method with
    | some (code, message) => some (.error (RpcError.new code message))
    | none =>
      if method = "initialize" then some (.ok (Json.object [("capabilities", s.capabilities)]))
      else some (.ok ((s.responses.lookup method).getD .null))

theorem answer?_silence (s : StubScript) (method : String) :
    (s.silence method).answer? method = none := by
  simp [answer?, silence]

end StubScript

/-! ## Servers -/

abbrev MailboxId := Nat

/-- What goes into an outbox. -/
inductive Letter where
  | message (body : Text)
  | close

structure StubServer where
  name : String
  script : StubScript
  /-- Every request and notification with its parameters, in order. -/
  received : List (String × Json)
  /-- The outbox of the connection, until it is dropped. -/
  outbox : Option MailboxId
  /-- The promises of its own requests, by their ids. -/
  pending : List (Int × PromiseId)
  nextId : Nat
  starts : Nat
  acquired : Nat
  released : Nat
  stops : Nat
  /-- The pipes of every connection, oldest first. -/
  connections : List Streams

namespace StubServer

def new (name : String) (script : StubScript) : StubServer :=
  { name
    script
    received := []
    outbox := none
    pending := []
    nextId := 1
    starts := 0
    acquired := 0
    released := 0
    stops := 0
    connections := [] }

instance : Inhabited StubServer := ⟨new "" default⟩

def record (s : StubServer) (method : String) (params : Json) : StubServer :=
  { s with received := s.received ++ [(method, params)] }

/-- How many requests and notifications of a method were received. -/
def calls (s : StubServer) (method : String) : Nat :=
  (s.received.filter fun r => r.1 == method).length

/-- The parameters of every message of a method. -/
def paramsOf (s : StubServer) (method : String) : List Json :=
  (s.received.filter fun r => r.1 == method).map (·.2)

/-- Takes the promise of a request out. -/
def takePending (s : StubServer) (id : Int) : StubServer × Option PromiseId :=
  ({ s with pending := s.pending.filter fun e => e.1 != id }, s.pending.lookup id)

/-- Enters a request. -/
def enter (s : StubServer) (promise : PromiseId) : StubServer × Int :=
  ({ s with nextId := s.nextId + 1, pending := s.pending ++ [((s.nextId : Int), promise)] },
    s.nextId)

end StubServer

abbrev StubId := Nat

/-- Which stub server a definition gets. -/
inductive StubPlan where
  /-- The one with its id, or else one for all others. -/
  | shared (named : List (String × StubId)) (other : Option StubId)
  /-- One for each id and root, made from the script of the two, of the id, or of `*`. -/
  | perProject (scripts : List (String × StubScript))

/-- All stub servers of a client. -/
structure Stubs where
  servers : Store StubServer
  outboxes : Store (Mailbox Letter)
  plan : StubPlan
  /-- How often a connection was acquired. -/
  acquired : Nat
  released : Nat

inductive StubJob where
  | read (server : StubId) (input : PipeId) (outbox : MailboxId)
  | write (output : PipeId) (outbox : MailboxId)
  | carry (source target : PipeId)

namespace Stubs

abbrev Script := Prog Stubs StubJob

def new (plan : StubPlan) : Stubs := ⟨Store.empty, Store.empty, plan, 0, 0⟩

def server (s : Stubs) (n : StubId) : StubServer := s.servers.get n

def visitServer {β : Type} (n : StubId) (f : StubServer → StubServer × β) (c : Client Stubs) :
    Client Stubs × β :=
  let r := c.outside.servers.visit n f
  ({ c with outside := { c.outside with servers := r.1 } }, r.2)

def updateServer (n : StubId) (f : StubServer → StubServer) (c : Client Stubs) : Client Stubs :=
  (visitServer n (fun s => (f s, ())) c).1

/-! ## Outboxes -/

def visitOutbox {β : Type} (m : MailboxId) (f : Mailbox Letter → Mailbox Letter × β)
    (c : Client Stubs) : Client Stubs × β :=
  let r := c.outside.outboxes.visit m f
  ({ c with outside := { c.outside with outboxes := r.1 } }, r.2)

/-- Puts a letter into an outbox; whether it was taken. -/
def post (m : MailboxId) (letter : Letter) (c : Client Stubs) : Client Stubs × Bool :=
  let r := visitOutbox m
    (fun box =>
      let r := box.post letter
      (r.1, r.2)) c
  (HasAgenda.wakeAll r.2.1.toList r.1, r.2.2)

/-- Puts a letter into the outbox of the connection, if there is one. -/
def send (n : StubId) (letter : Letter) (c : Client Stubs) : Client Stubs × Bool :=
  match (c.outside.server n).outbox with
  | none => (c, false)
  | some m => post m letter c

def isConnected (n : StubId) (c : Client Stubs) : Bool :=
  match (c.outside.server n).outbox with
  | none => false
  | some m => !(c.outside.outboxes.get m).closed

/-- Drops the connection, as a process that crashes would. -/
def drop (n : StubId) (c : Client Stubs) : Client Stubs :=
  updateServer n (fun s => { s with outbox := none }) (send n .close c).1

/-! ## The tasks of a connection -/

/-- Takes a message in; whether the client exits. -/
def take (n : StubId) (m : MailboxId) (message : IncomingMessage) : Script Bool :=
  match message with
  | .request id method params => do
    Program.modify (updateServer n (·.record method params))
    match ← Program.read fun c => (c.outside.server n).script.answer? method with
    | none => return false
    | some outcome => do
      let _ ← Program.act (post m (.message (OutgoingMessage.response id outcome).body))
      return false
  | .notification method params => do
    Program.modify (updateServer n (·.record method params))
    return method == "exit"
  | .response (.number id) outcome => do
    match ← Program.act (visitServer n (·.takePending id)) with
    | none => return false
    | some promise => do
      Program.modify (HasWiring.modify (·.keep promise (.ok (outcome.toOption.getD .null))))
      return false
  | .response (.string _) _ => return false

def readStep (n : StubId) (input : PipeId) (m : MailboxId) (inbox : Link.Inbox) :
    Script (Link.Inbox ⊕ Unit) :=
  match Frame.next inbox.bytes inbox.ended with
  | .incomplete => do
    match ← Program.receive input with
    | some bytes => return .inl ⟨inbox.bytes ++ bytes, false⟩
    | none => return .inl ⟨inbox.bytes, true⟩
  | .ended | .failed _ => return .inr ()
  | .frame body rest =>
    match IncomingMessage.parse body with
    | .error _ => return .inl ⟨rest, inbox.ended⟩
    | .ok message => do
      if ← take n m message then return .inr () else return .inl ⟨rest, inbox.ended⟩

/-- Reads until the client exits or goes away. -/
def readAll (n : StubId) (input : PipeId) (m : MailboxId) : Script Unit := do
  Program.iterate (Link.Inbox.mk [] false) (readStep n input m)
  let _ ← Program.act (post m .close)
  Program.modify (HasWiring.modify (·.closeReader input))

/-- Awaits a letter. -/
def receiveLetter (m : MailboxId) : Script Letter :=
  .await (fun t => visitOutbox m (·.receive t)) (fun _ c => c) .done

/-- Writes the letters of an outbox until it is to be closed. -/
def writeAll (output : PipeId) (m : MailboxId) : Script Unit := do
  Program.iterate () fun _ => do
    match ← receiveLetter m with
    | .close => return .inr ()
    | .message body =>
      match ← Program.write output (Utf8.encode (Frame.encode body)) with
      | .ok () => return .inl ()
      | .error _ => return .inr ()
  Program.modify fun c =>
    (visitOutbox m (fun box => (box.close, ())) (HasWiring.modify (·.closeWriter output) c)).1

/-- Carries bytes from one pipe to another until either ends. -/
def carryAll (source target : PipeId) : Script Unit := do
  Program.iterate () fun _ => do
    match ← Program.receive source with
    | none => return .inr ()
    | some bytes =>
      match ← Program.write target bytes with
      | .ok () => return .inl ()
      | .error _ => return .inr ()
  Program.modify (HasWiring.modify fun w => (w.closeWriter target).closeReader source)

def perform : StubJob → Script Unit
  | .read server input outbox => readAll server input outbox
  | .write output outbox => writeAll output outbox
  | .carry source target => carryAll source target

/-! ## Connections -/

def openPipe (p : Pipe) : Script PipeId := Program.act (HasWiring.visit (·.openPipe p))

/-- The error output of a new connection, all written already. -/
def openErrors (text : Text) : Script PipeId :=
  openPipe { Pipe.open_ with content := Utf8.encode text, writerClosed := true }

/-- Opens a connection in place of an older one. -/
def connect (n : StubId) : Script Streams := do
  let script ← Program.read fun c => (c.outside.server n).script
  let input ← openPipe Pipe.open_
  let output ← openPipe Pipe.open_
  let m ← Program.act fun c =>
    let r := c.outside.outboxes.add Mailbox.new
    ({ c with outside := { c.outside with outboxes := r.1 } }, r.2)
  let _ ← Program.act (send n .close)
  let _ ← Program.start (Job.outside (.write output m))
  let _ ← Program.start (Job.outside (.read n input m))
  let toClient ← openPipe Pipe.open_
  let _ ← Program.start (Job.outside (.carry output toClient))
  let errors ← match script.errorOutput with
    | none => pure none
    | some text => some <$> openErrors text
  let streams : Streams := ⟨toClient, input, errors⟩
  Program.modify (updateServer n fun s =>
    { s with outbox := some m, starts := s.starts + 1, connections := s.connections ++ [streams] })
  return streams

/-- Starts a server, unless it cannot be started. -/
def start (n : StubId) : Script (Except ClientError Streams) := do
  if ← Program.read fun c => (c.outside.server n).script.refuses then
    return .error (.launch "Failed to start server: not found")
  return .ok (← connect n)

def stop (n : StubId) : Script Unit :=
  Program.modify fun c => updateServer n (fun s => { s with stops := s.stops + 1 }) (drop n c)

/-! ## What a server says by itself -/

/-- Tells the client something; whether there is a connection. -/
def tell (n : StubId) (method : String) (params : Json) : Script Bool :=
  Program.act (send n (.message (OutgoingMessage.notification method (some params)).body))

/-- How long a server waits for an answer. -/
def patience : Nat := 5000

/-- Asks the client something: the result, null for an error, nothing without an answer. -/
def ask (n : StubId) (method : String) (params : Json) : Script (Option Json) := do
  let promise ← Program.act (HasWiring.visit Wiring.newPromise)
  let id ← Program.act (visitServer n (·.enter promise))
  if ← Program.act (send n
      (.message (OutgoingMessage.request (.number id) method (some params)).body)) then
    match ← Program.timeout patience (Program.outcome promise) with
    | some (.ok value) => return some value
    | _ => return none
  else
    let _ ← Program.act (visitServer n (·.takePending id))
    return none

/-- Writes bytes to the client over the connection opened last; whether it takes them. -/
def inject (n : StubId) (bytes : Bytes) : Script Bool := do
  match ← Program.read fun c => (c.outside.server n).connections.getLast? with
  | none => return false
  | some streams => return (← Program.write streams.output bytes).toOption.isSome

end Stubs

/-!
## Networks of stub servers

A client whose connections all go to stub servers.
-/

namespace Stubs

/-- The name of the server of an id and a root. -/
def nameOf (id : String) (root : Path) : String := s!"{id}@{String.ofList root}"

/-- The number of the server of a name. -/
def find? (name : String) (s : Stubs) : Option StubId :=
  s.servers.entries.findIdx? fun server => server.name == name

/-- Adds a server. -/
def add (name : String) (script : StubScript) (c : Client Stubs) : Client Stubs × StubId :=
  let r := c.outside.servers.add (StubServer.new name script)
  ({ c with outside := { c.outside with servers := r.1 } }, r.2)

/-- The script that a server of an id and a root is made from. -/
def scriptFor? (scripts : List (String × StubScript)) (id : String) (root : Path) :
    Option StubScript :=
  ((scripts.lookup (nameOf id root)).or (scripts.lookup id)).or (scripts.lookup "*")

/-- The server of an id and a root, made if there is none yet. -/
def serverFor (id : String) (root : Path) (c : Client Stubs) : Client Stubs × Option StubId :=
  match c.outside.plan with
  | .shared named other => (c, (named.lookup id).or other)
  | .perProject scripts =>
    match find? (nameOf id root) c.outside with
    | some n => (c, some n)
    | none =>
      match scriptFor? scripts id root with
      | none => (c, none)
      | some script =>
        let (c, n) := add (nameOf id root) script c
        (c, some n)

/-- Counts a server as acquired. -/
def countAcquired (n : StubId) (c : Client Stubs) : Client Stubs :=
  let c := updateServer n (fun s => { s with acquired := s.acquired + 1 }) c
  { c with outside := { c.outside with acquired := c.outside.acquired + 1 } }

/-- Counts the server of a definition as released; a shared one only in all. -/
def countReleased (id : String) (root : Path) (c : Client Stubs) : Client Stubs :=
  let c := { c with outside := { c.outside with released := c.outside.released + 1 } }
  match find? (nameOf id root) c.outside with
  | some n => updateServer n (fun s => { s with released := s.released + 1 }) c
  | none => c

def acquire (id : String) (root : Path) (c : Client Stubs) :
    Client Stubs × Except ClientError ProviderId :=
  match serverFor id root c with
  | (c, some n) => (countAcquired n c, .ok n)
  | (c, none) => (c, .error (.unknownServer id))

def providers : Providers (Client Stubs) (Job StubJob) where
  acquire definition root := Program.act (acquire (String.ofList definition.id) root)
  start := start
  stop := stop
  release definition root := Program.modify (countReleased (String.ofList definition.id) root)

/-- A client of stub servers. -/
def client (plan : StubPlan) : Client Stubs := Client.new (new plan)

/-- Keeps settings for the servers of an id, the same in every project. -/
def setSettings (id : String) (settings : ServerSettings) (e : Editor) : Editor :=
  { e with settings := fun root i => if i = id then some settings else e.settings root i }

/-- Keeps the settings of the servers of an id in one file from now on. -/
def setSettingsPath (id : String) (path : Path) (e : Editor) : Editor :=
  { e with settingsPath := fun root i => if i = id then some path else e.settingsPath root i }

/-- Adds a document that is not open. -/
def addDocument (uri : String) (path root : Path) (text : Text) (c : Client Stubs) :
    Client Stubs × OpenDocument :=
  let (buffers, buffer) := c.editor.buffers.add (Buffer.new text)
  (c.updateEditor fun e => { e with buffers }, ⟨uri, path, root, buffer⟩)

/-- A client of stub servers that serve every definition of their name, and one that serves the
others. -/
def sharedClient (other : Option String) (names : List String) : Client Stubs :=
  let make (c : Client Stubs) (name : String) : Client Stubs × StubId :=
    add name (StubScript.new (Json.object [])) c
  let c := client (.shared [] none)
  let (c, standard) : Client Stubs × Option StubId := match other with
    | none => (c, none)
    | some name => let (c, n) := make c name; (c, some n)
  let (c, named) := names.foldl
    (fun (c, named) name => let (c, n) := make c name; (c, (name, n) :: named))
    (c, ([] : List (String × StubId)))
  { c with outside := { c.outside with plan := .shared named standard } }

/-- Acquires a server, starts it and stops it again. -/
def tryOut (d : ServerDefinition) (root : Path) : Script (Except ClientError Unit) := do
  match ← providers.acquire d root with
  | .error e => return .error e
  | .ok n => do
    let streams ← providers.start n
    providers.stop n
    return streams.map fun _ => ()

def runtime (c : Client Stubs) : Runtime (Client Stubs) (Job StubJob) :=
  Runtime.start c (Job.perform providers perform)

/-- Logs error output that is there from the start: whether the log comes to an end, and its
entries. -/
def readErrors (server : String) (output : Bytes) : Bool × List JournalEntry :=
  let c := client (.shared [] none)
  let (wiring, p) := c.wiring.openPipe { Pipe.open_ with content := output, writerClosed := true }
  let rt := runtime { c with wiring }
  let done := (rt.addTask (ErrorLog.run server p)).settle
  (!done.isRunning rt.nextId, done.world.journal)

end Stubs

end LanguageClient
