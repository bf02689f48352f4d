import LanguageClient.Schema.Capability
import LanguageClient.Server.Basic
import LanguageClient.Server.Welcome
import LanguageClient.Session.Sync
namespace LanguageClient

/-!
# The life of a server

Starting, initializing, stopping and restarting a server, what happens when it crashes, and how
documents are connected to it. Starts, stops and crashes are handled one at a time.
-/

namespace Server

variable {E K : Type}

def languageOf (d : OpenDocument) : Text := (LanguageId.ofExtension? d.extension).getD d.extension

/-! ## Settings -/

/-- Takes the settings of a server from the editor. -/
def loadSettings (s : ServerId) (c : Client E) : Client E :=
  c.updateServer s fun server =>
    { server with settings := c.editor.settingsOf server.root server.id }

/-- Tells a server its global settings, if there are any. -/
def pushSettings (s : ServerId) (a : Access) : Prog E K Unit := do
  let settings ← Program.read fun c => (c.server s).settings.toJson
  if settings.isNull then return ()
  a.tell .didChangeConfiguration (Json.object [("settings", settings)])

/-! ## Failures -/

def errorTitle : String := "LSP Error"

/-- Shows why a server could not be started, once. -/
def showFailure (s : ServerId) (text : String) (c : Client E) : Client E :=
  if (c.server s).failureShown then c
  else
    (c.updateServer s fun server => { server with failureShown := true }).show_
      (.error errorTitle text)

/-- Shows that a server keeps crashing, once. -/
def showCrash (s : ServerId) (e : ClientError) (c : Client E) : Client E :=
  let server := c.server s
  if server.crashShown then c
  else
    let who := s!"Language server {server.id} for {String.ofList server.root}"
    (c.updateServer s fun server => { server with crashShown := true }).show_
      (.error errorTitle s!"{who} keeps crashing due to\n{e.message}\nCheck settings.")

/-- Why a server could not be initialized, given how many seconds it had. -/
def handshakeFailure (id : String) (seconds : Nat) : ClientError → String
  | .timeout => s!"Language server {id} not initialized after {seconds}s\nCheck settings"
  | e => s!"Language server {id} failed to initialize: {e.message}"

/-! ## Sessions -/

/-- Connects a document by a new session, unless it is connected already. -/
def enter (s : ServerId) (d : OpenDocument) (c : Client E) : Client E × Option SessionId :=
  if (c.server s).isConnectedTo d.uri then (c, none)
  else
    let (c, session) := c.addSession (Session.new d (languageOf d) s)
    let c := c.updateServer s fun server =>
      { server with connected := server.connected ++ [(d.uri, session)] }
    (c.updateIndex (·.insert d.uri ⟨session, s⟩), some session)

/-- Opens a document on a started server, unless it is connected already. -/
def openSession (s : ServerId) (d : OpenDocument) : Prog E K Unit := do
  match ← Program.act (enter s d) with
  | none => return ()
  | some session => Session.tellOpened session

/-- Takes a session out of the index and closes it on the server. -/
def closeSession (session : SessionId) : Prog E K Unit := do
  Program.modify fun c => c.updateIndex (·.remove (c.session session).uri session)
  Session.tellClosed session

/-- What to do with a document that is to be connected. -/
def takeIn (s : ServerId) (d : OpenDocument) (c : Client E) : Client E × Bool :=
  let server := c.server s
  if server.isConnectedTo d.uri then (c, false)
  else
    match server.status with
    | .starting => (c.updateServer s (·.enqueue d), false)
    | .started => (c, true)
    | .stopped | .failed => (c, false)

/-- Connects a document to a server that was started: at once, or once it is initialized. A server
that does not run takes no documents. -/
def connectStarted (s : ServerId) (d : OpenDocument) : Prog E K Unit := do
  if ← Program.act (takeIn s d) then openSession s d

/-- The connected documents and those that wait. -/
def documents (s : ServerId) (c : Client E) : List OpenDocument :=
  let server := c.server s
  let connected := server.connected.map fun e =>
    let session := c.session e.2
    (⟨session.uri, session.path, server.root, session.buffer⟩ : OpenDocument)
  connected ++ server.queue.filter fun d => !server.isConnectedTo d.uri

/-! ## Stopping -/

/-- Asks an initialized server to shut down, and to exit once it has answered. -/
def shutDown (link : LinkId) : Prog E K Unit := do
  match ← Prog.limit .shutdown (Link.ask link "shutdown" .null) with
  | .ok (.ok _) => do
    let _ ← Link.tell link "exit" .null
  | _ => return ()

/-- Ends a connection. -/
def disconnectLink (access : Option Access) (link : LinkId) : Prog E K Unit := do
  if access.isSome then
    if ← Link.isConnected link then shutDown link
  Link.close link

/-- Stops a server while its lifecycle is held. Sessions are closed first, so that a live server
still hears of it. -/
def stopHeld (net : Providers (Client E) (Job K)) (s : ServerId) : Prog E K Unit := do
  let sessions ← Program.act (Client.visitServer s takeSessions)
  Program.each closeSession sessions
  let (connection, access) ← Program.act (Client.visitServer s beginStop)
  match connection with
  | none => Program.modify (Client.updateServer s endStop)
  | some connection => do
    Program.stop connection.handshake
    disconnectLink access connection.link
    net.stop connection.provider
    let (definition, root) ← Program.read fun c => ((c.server s).definition, (c.server s).root)
    net.release definition root
    Program.modify (Client.updateServer s endStop)
    match connection.errorLog with
    | none => return ()
    | some task => Program.stop task

/-- Stops a server and disconnects its documents; a failed server stays failed. -/
def stop (net : Providers (Client E) (Job K)) (s : ServerId) : Prog E K Unit :=
  Program.locked (Client.lifecycleLock s) (stopHeld net s)

/-- Stops a server if no other generation has begun. -/
def abandon (net : Providers (Client E) (Job K)) (owner : LinkOwner) : Prog E K Unit :=
  Program.locked (Client.lifecycleLock owner.server) do
    if ← Program.read fun c => (c.server owner.server).generation == owner.generation then
      stopHeld net owner.server

/-! ## Starting -/

/-- Opens a connection and begins to initialize the server over it. -/
def launch (net : Providers (Client E) (Job K)) (owner : LinkOwner) :
    Prog E K (Except ClientError Unit) := do
  let s := owner.server
  let server ← Program.read (·.server s)
  match ← net.acquire server.definition server.root with
  | .error e => return .error e
  | .ok provider =>
    match ← net.start provider with
    | .error e => return .error e
    | .ok streams => do
      let errorLog ← match streams.errors with
        | none => pure none
        | some pipe => some <$> Program.start (Job.errorLog server.id pipe)
      Program.modify (loadSettings s)
      let link ← Link.start (Job.readAll owner) streams.output streams.input
      match ← Program.read fun c => server.initializeParams c.process c.directory with
      | .error e => do
        Link.discard link
        return .error e
      | .ok params => do
        let handshake ← Program.start (Job.handshake owner link params)
        Program.modify fun c => c.updateServer s fun server =>
          { server with
            connection := some ⟨provider, link, errorLog, handshake, HasAgenda.now c⟩ }
        return .ok ()

/-- Starts a server while its lifecycle is held, unless it runs already. -/
def startHeld (net : Providers (Client E) (Job K)) (s : ServerId) : Prog E K Unit := do
  match ← Program.act (Client.visitServer s beginStart) with
  | none => return ()
  | some generation =>
    match ← launch net ⟨s, generation⟩ with
    | .ok () => return ()
    | .error e => do
      Program.modify fun c =>
        (showFailure s s!"Can't start server, please check settings\n{e.message}" c).updateServer s
          (·.move .failed)
      stopHeld net s

/-- Starts a server; it is initialized in the background. -/
def start (net : Providers (Client E) (Job K)) (s : ServerId) : Prog E K Unit :=
  Program.locked (Client.lifecycleLock s) (startHeld net s)

/-- The server answered that it is initialized: it is started, told so, and the documents that
waited are connected. The lifecycle is held all the while, so that no stop comes in between. -/
def initialized (owner : LinkOwner) (link : LinkId) (capabilities : Capabilities) :
    Prog E K Unit :=
  let s := owner.server
  let access : Access := ⟨s, owner.generation, link, capabilities⟩
  Program.locked (Client.lifecycleLock s) do
    let server ← Program.read (·.server s)
    if server.generation ≠ owner.generation ∨ server.status ≠ .starting then return ()
    Program.modify (Client.updateServer s (·.becomeStarted access))
    let _ ← Link.tell link "initialized" (Json.object [])
    pushSettings s access
    let waiting ← Program.act (Client.visitServer s takeQueue)
    Program.each (openSession s) waiting

/-- What an answer to `initialize` comes to. -/
def capabilitiesOf? (answer : Except ClientError (Except ClientError Json)) :
    Except ClientError Capabilities := do
  match Shape.initializeResult (← ← answer) with
  | some result => return ⟨result.get "capabilities"⟩
  | none => .error (.handshake "")

/-- Initializes a server. When that fails, the server has failed and is stopped by another task,
because a stop ends this one. -/
def handshake (owner : LinkOwner) (link : LinkId) (params : Json) : Prog E K Unit := do
  let s := owner.server
  match capabilitiesOf? (← Prog.limit .handshake (Link.ask link "initialize" params)) with
  | .ok capabilities => initialized owner link capabilities
  | .error e => do
    let server ← Program.read (·.server s)
    if server.generation ≠ owner.generation then return ()
    Program.modify fun c =>
      (showFailure s (handshakeFailure server.id (c.timeouts.millis .handshake / 1000) e)
        c).updateServer s (·.move .failed)
    let _ ← Program.start (Job.abandon owner)

/-! ## Crashes -/

/-- Counts a crash. -/
def countCrash (s : Server) : Server × Nat := ({ s with crashes := s.crashes + 1 }, s.crashes + 1)

/-- The connection of a generation broke. Below the threshold the server is started again with all
its documents; at the threshold it has failed. -/
def crashed (net : Providers (Client E) (Job K)) (owner : LinkOwner) (e : ClientError) :
    Prog E K Unit :=
  let s := owner.server
  Program.locked (Client.lifecycleLock s) do
    if ← Program.read fun c => (c.server s).generation != owner.generation then return ()
    let count ← Program.act (Client.visitServer s countCrash)
    if count < (← Program.read (·.crashThreshold)) then
      let waiting ← Program.read (documents s)
      stopHeld net s
      if waiting.isEmpty then return ()
      startHeld net s
      Program.each (connectStarted s) waiting
    else
      Program.modify (Client.updateServer s (·.move .failed))
      stopHeld net s
      Program.modify (showCrash s e)

/-- The same of the live connection, as seen from outside. -/
def reportCrash (net : Providers (Client E) (Job K)) (s : ServerId) (e : ClientError) :
    Prog E K Unit := do
  crashed net ⟨s, ← Program.read fun c => (c.server s).generation⟩ e

/-- The open documents of the editor that a server handles. -/
def handled (s : ServerId) (c : Client E) : List OpenDocument :=
  let server := c.server s
  c.editor.documents.filter fun d =>
    Path.same d.root server.root && server.definition.handlesExtension d.extension

/-- Stops a server that runs, forgives its crashes, and connects all documents it handles again. -/
def restart (net : Providers (Client E) (Job K)) (s : ServerId) : Prog E K Unit := do
  Program.locked (Client.lifecycleLock s) do
    match ← Program.read fun c => (c.server s).status with
    | .started | .starting => stopHeld net s
    | _ => pure ()
    Program.modify (Client.updateServer s forgive)
  let waiting ← Program.read (handled s)
  if waiting.isEmpty then return ()
  start net s
  Program.each (connectStarted s) waiting

/-! ## Documents -/

/-- Connects a document, starting the server if need be; but a failed server is left alone. -/
def connect (net : Providers (Client E) (Job K)) (s : ServerId) (d : OpenDocument) :
    Prog E K Unit := do
  if ← Program.read fun c => (c.server s).status == .failed then return ()
  start net s
  connectStarted s d

/-- Takes a document out of a server: its session, whether it was there at all, and whether no
document is left. -/
def takeDocument (uri : String) (server : Server) : Server × (Option SessionId × Bool × Bool) :=
  let left := server.remove uri
  (left,
    (server.session? uri, server.isConnectedTo uri || server.isPending uri,
      left.connected.isEmpty && left.queue.isEmpty))

/-- Disconnects a document; the server is stopped after the last one. -/
def disconnect (net : Providers (Client E) (Job K)) (s : ServerId) (uri : String) :
    Prog E K Unit := do
  let (session, wasHere, nothingLeft) ← Program.act (Client.visitServer s (takeDocument uri))
  match session with
  | none => pure ()
  | some session => closeSession session
  if wasHere && nothingLeft then stop net s

/-- A watched file changed: the settings are loaded again if it is where they are kept, and the
server is told of the change if it watches the file. -/
def fileChanged (s : ServerId) (uri : String) (change : FileChange) : Prog E K Unit := do
  let path := Uri.toPath? uri.toList
  let server ← Program.read (·.server s)
  let settingsPath ← Program.read fun c => c.editor.settingsPath server.root server.id
  if (path.bind fun p => settingsPath.map (Path.same p)).getD false then
    Program.modify (loadSettings s)
    match server.access with
    | none => pure ()
    | some a => pushSettings s a
  let forward ← Program.read fun c =>
    match path with
    | some p => (c.server s).registrations.shouldForward p change
    | none => !(c.server s).registrations.isRegistered .didChangeWatchedFiles
  if forward then
    match server.access with
    | none => return ()
    | some a => a.tell .didChangeWatchedFiles (Params.watchedFile uri change)

end Server

end LanguageClient
