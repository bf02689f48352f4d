import LanguageClient.Client.Calls
import LanguageClient.Routing.Workspace
import LanguageClient.Stub.Server
namespace LanguageClient

/-!
# Observers and trials

An observer looks at a client of stub servers from time to time and reports what has changed since
the last look: servers, documents, messages to the servers, and what was shown and logged. Servers
are numbered in the order they were first seen.
-/

/-- What an observer sees of a server. -/
structure ServerView where
  name : String
  status : ServerStatus
  /-- The names of the connected documents. -/
  connected : List String
  connectedCount : Nat
  /-- The names of the documents that wait. -/
  pending : List String
  crashes : Nat
  /-- Whether the server is initialized. -/
  hasAccess : Bool
  /-- Whether the server is in use. -/
  listed : Bool
deriving DecidableEq, Repr

/-- What an observer sees of the session of a document. -/
structure SessionView where
  version : Nat
  isOpen : Bool
  needSave : Bool
deriving DecidableEq, Repr

structure DocumentView where
  text : Text
  saves : Nat
  session : Option SessionView
deriving DecidableEq, Repr

namespace ServerView

def toJson (s : ServerView) : Json :=
  Json.object
    [("server", .str s.name), ("status", .str s.status.name),
      ("connected", .ofStrings s.connected), ("connected_uris", .ofNat s.connectedCount),
      ("pending", .ofStrings s.pending), ("crashes", .ofNat s.crashes),
      ("manager", .bool s.hasAccess), ("listed", .bool s.listed)]

end ServerView

namespace DocumentView

def toJson (d : DocumentView) : Json :=
  Json.object
    [("text", .ofText d.text), ("saves", .ofNat d.saves),
      ("session", .ofOption
        (fun s => .arr [.ofNat s.version, .bool s.isOpen, .bool s.needSave]) d.session)]

end DocumentView

namespace StubServer

/-- What became of a stub server so far. -/
def toJson (s : StubServer) (connected : Bool) : Json :=
  Json.object
    [("starts", .ofNat s.starts), ("connected", .bool connected), ("acquired", .ofNat s.acquired),
      ("released", .ofNat s.released), ("stopped", .ofNat s.stops),
      ("methods", .ofNat s.received.length), ("hovers", .ofNat (s.calls "textDocument/hover")),
      ("exits", .arr (s.paramsOf "exit"))]

end StubServer

/-- What changed. -/
structure ChangeReport where
  /-- Servers by their numbers, and the moves of their status. -/
  servers : List (Nat × ServerView × List (ServerStatus × ServerStatus))
  documents : List (String × DocumentView)
  /-- The messages to each server. -/
  messages : List (String × List Json)
  shown : List Display
  journal : List JournalEntry

structure Observer where
  /-- The documents to look at, by name. -/
  documents : List (String × OpenDocument)
  seen : List ServerId
  serverViews : List (ServerId × ServerView)
  moves : List (ServerId × Nat)
  documentViews : List (String × DocumentView)
  /-- The last session of each document. -/
  sessions : List (String × SessionId)
  /-- How much of the traffic was read. -/
  trafficRead : Nat
  /-- The beginning of a message that came through a pipe. -/
  unfinished : List (PipeId × Bytes)
  shown : Nat
  logged : Nat

namespace Observer

/-- Puts a value into a table, in place of an older one. -/
def put {κ ν : Type} [BEq κ] (table : List (κ × ν)) (key : κ) (value : ν) : List (κ × ν) :=
  (key, value) :: table.filter fun e => !(e.1 == key)

def nameOf (c : Client Stubs) (s : ServerId) : String :=
  Stubs.nameOf (c.server s).id (c.server s).root

/-- Sees the servers in use. -/
def notice (o : Observer) (c : Client Stubs) : Observer :=
  { o with
    seen := c.routes.servers.foldl
      (fun seen s => if seen.contains s then seen else seen ++ [s]) o.seen }

/-- The server that was seen last under a name. -/
def find? (o : Observer) (c : Client Stubs) (name : String) : Option ServerId :=
  o.seen.reverse.find? fun s => nameOf c s == name

/-! ## Servers -/

def serverView (o : Observer) (c : Client Stubs) (s : ServerId) : ServerView :=
  let server := c.server s
  let names (p : String → Bool) : List String := (o.documents.filter fun d => p d.2.uri).map (·.1)
  { name := nameOf c s
    status := server.status
    connected := names server.isConnectedTo
    connectedCount := server.connected.length
    pending := names server.isPending
    crashes := server.crashes
    hasAccess := server.access.isSome
    listed := c.routes.servers.contains s }

/-- Whether a server crashed since the last look. -/
def hasCrashed (o : Observer) (c : Client Stubs) (s : ServerId) : Bool :=
  ((o.serverViews.lookup s).map (·.crashes)).getD 0 < (c.server s).crashes

/-- Looks at the servers. -/
def lookAtServers (o : Observer) (c : Client Stubs) :
    Observer × List (Nat × ServerView × List (ServerStatus × ServerStatus)) :=
  o.seen.zipIdx.foldl
    (fun (o, out) (s, n) =>
      let view := o.serverView c s
      let moves := (c.server s).moves
      let new := moves.drop ((o.moves.lookup s).getD 0)
      let isSame := new.isEmpty && o.serverViews.lookup s == some view
      ({ o with
          serverViews := put o.serverViews s view
          moves := put o.moves s moves.length },
        if isSame then out else out ++ [(n, view, new)]))
    (o, [])

/-! ## Documents -/

def documentView (c : Client Stubs) (d : OpenDocument) : DocumentView :=
  let buffer := c.editor.buffers.get d.buffer
  { text := buffer.text
    saves := buffer.saves
    session := (c.index.find? d.uri).map fun e =>
      let session := c.session e.session
      ⟨session.version, session.isOpen, session.needSave⟩ }

/-- Looks at the documents. -/
def lookAtDocuments (o : Observer) (c : Client Stubs) : Observer × List (String × DocumentView) :=
  o.documents.foldl
    (fun (o, out) (name, d) =>
      let view := documentView c d
      let isSame := o.documentViews.lookup name == some view
      let sessions := match c.index.find? d.uri with
        | some e => put o.sessions name e.session
        | none => o.sessions
      ({ o with documentViews := put o.documentViews name view, sessions },
        if isSame then out else out ++ [(name, view)]))
    (o, [])

/-! ## Messages -/

/-- Leaves out why parameters were found invalid. -/
def withoutReason (e : Json) : Json :=
  if (e.get "code").int? == some RpcError.invalidParamsCode then
    Json.object (e.members ++ [("message", .str "")])
  else e

/-- A message as an object, without the version that all of them carry. -/
def messageOf (body : Text) : Json :=
  match Json.read? body with
  | some (.obj members) =>
    Json.object ((members.filter fun m => m.1 != "jsonrpc").map fun m =>
      if m.1 = "error" then (m.1, withoutReason m.2) else m)
  | _ => .ofText body

/-- The URI of the document that a message is about. -/
def uriOf (m : Json) : String :=
  (((m.get "params").get "textDocument").get "uri").str?.getD ""

/-- Sorts each run of messages of one method by URI, for methods whose messages have no order among
each other. -/
def sortRuns (methods : List String) : (fuel : Nat) → List Json → List Json
  | 0, ms => ms
  | _, [] => []
  | fuel + 1, m :: ms =>
    let method := (m.get "method").str?
    if method.any methods.contains then
      let isSame (x : Json) : Bool := (x.get "method").str? == method
      (m :: ms.takeWhile isSame).mergeSort (fun a b => decide (uriOf a ≤ uriOf b)) ++
        sortRuns methods fuel (ms.dropWhile isSame)
    else m :: sortRuns methods fuel ms

/-- The methods whose messages come in no order: closing and changing many documents, and opening
them again after a crash. -/
def unordered (afterCrash : Bool) : List String :=
  ["textDocument/didClose", "textDocument/didChange"] ++
    if afterCrash then ["textDocument/didOpen"] else []

/-- Puts together the messages of some traffic, in the order in which they came to their ends. -/
def readTraffic (o : Observer) (traffic : List (PipeId × Bytes)) : Observer × List Json :=
  traffic.foldl
    (fun (o, out) (p, bytes) =>
      let bytes := (o.unfinished.lookup p).getD [] ++ bytes
      let (bodies, read) := Frame.complete bytes
      ({ o with unfinished := put o.unfinished p (bytes.drop read) },
        out ++ bodies.map messageOf))
    (o, [])

/-- Reads the messages to a server in some traffic. -/
def readServer (o : Observer) (c : Client Stubs) (traffic : List (PipeId × Bytes))
    (s : StubServer) : Observer × List Json :=
  let (o, messages) := o.readTraffic (traffic.filter fun e => s.connections.any (·.input == e.1))
  let afterCrash := o.seen.any fun n => nameOf c n == s.name && o.hasCrashed c n
  (o, sortRuns (unordered afterCrash) messages.length messages)

/-- Reads the messages to all servers since the last look. -/
def readServers (o : Observer) (c : Client Stubs) : Observer × List (String × List Json) :=
  let traffic := c.wiring.traffic.drop o.trafficRead
  c.outside.servers.entries.foldl
    (fun (o, out) s =>
      let (o, messages) := o.readServer c traffic s
      (o, if messages.isEmpty then out else out ++ [(s.name, messages)]))
    ({ o with trafficRead := c.wiring.traffic.length }, [])

/-! ## Looking -/

def look (o : Observer) (c : Client Stubs) : Observer × ChangeReport :=
  let o := o.notice c
  let (o, messages) := o.readServers c
  let (o, servers) := o.lookAtServers c
  let (o, documents) := o.lookAtDocuments c
  ({ o with shown := c.editor.shown.length, logged := c.journal.length },
    { servers
      documents
      messages
      shown := c.editor.shown.drop o.shown
      journal := c.journal.drop o.logged })

/-- An observer that has seen the documents but no server. -/
def new (documents : List (String × OpenDocument)) (c : Client Stubs) : Observer :=
  let o : Observer :=
    { documents
      seen := []
      serverViews := []
      moves := []
      documentViews := []
      sessions := []
      trafficRead := 0
      unfinished := []
      shown := 0
      logged := 0 }
  (o.lookAtDocuments c).1

end Observer

/-!
## Trials

A trial is a running client of stub servers together with its documents and an observer. Programs
are tried on it one by one, or one while others run.
-/

structure Trial where
  runtime : Runtime (Client Stubs) (Job StubJob)
  observer : Observer
  /-- The completion entries that were offered last. -/
  entries : List CompletionEntry

namespace Trial

def client (t : Trial) : Client Stubs := t.runtime.world

def setClient (t : Trial) (c : Client Stubs) : Trial :=
  { t with runtime := { t.runtime with world := c } }

/-- A trial of a client with documents. -/
def start (c : Client Stubs) (documents : List (String × OpenDocument)) : Trial :=
  ⟨Stubs.runtime c, Observer.new (documents.mergeSort fun a b => decide (a.1 ≤ b.1)) c, []⟩

def document? (t : Trial) (name : String) : Option OpenDocument :=
  t.observer.documents.lookup name

/-- Sees the servers in use. -/
def notice (t : Trial) : Trial := { t with observer := t.observer.notice t.client }

/-- The server that was seen last under a name. -/
def server? (t : Trial) (name : String) : Option ServerId := t.observer.find? t.client name

/-- The session of a URI. -/
def session? (t : Trial) (uri : String) : Option SessionId :=
  (t.client.index.find? uri).map (·.session)

/-- The last session of a document, even if it is gone. -/
def lastSession? (t : Trial) (name : String) : Option SessionId := t.observer.sessions.lookup name

/-- The stub server of a name, made if it has a script. -/
def stub (t : Trial) (name : String) : Trial × Option StubId :=
  match Text.cut? '@' name.toList with
  | none => (t, none)
  | some (id, root) =>
    let (c, n) := Stubs.serverFor (String.ofList id) root t.client
    (t.setClient c, n)

/-- Makes a server that is not in use. -/
def newServer (t : Trial) (d : ServerDefinition) (root : Path) : Trial :=
  let t := t.notice
  let (c, s) := t.client.addServer (Server.new d root)
  { t.setClient c with observer := { t.observer with seen := t.observer.seen ++ [s] } }

/-- Runs a program to its end. -/
def run {α : Type} (t : Trial) (p : Stubs.Script α) : Trial × Option α :=
  let (runtime, a) := t.runtime.run p
  ({ t with runtime }, a)

/-- Lets all tasks run until none can go on. -/
def settle (t : Trial) : Trial := { t with runtime := t.runtime.settle }

/-- Starts a program whose value keeps a promise. -/
def begin_ (t : Trial) (p : Stubs.Script Json) : Trial × PromiseId :=
  let (wiring, promise) := t.client.wiring.newPromise
  let t := t.setClient { t.client with wiring }
  let task : Stubs.Script Unit := do
    let value ← p
    Program.modify (HasWiring.modify (·.keep promise (.ok value)))
  ({ t with runtime := t.runtime.addTask task }, promise)

/-- Awaits the value of a program that was begun. -/
def finish (t : Trial) (promise : PromiseId) : Trial × Json :=
  let (t, outcome) := t.run (Program.outcome promise)
  (t, (outcome.bind Except.toOption).getD .null)

/-- Settles, and reports what has changed. -/
def look (t : Trial) : Trial × ChangeReport :=
  let t := t.settle
  let (observer, report) := t.observer.look t.client
  ({ t with observer }, report)

end Trial

end LanguageClient
