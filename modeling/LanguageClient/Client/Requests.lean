import LanguageClient.Server.ErrorLog
import LanguageClient.Server.Lifecycle
import LanguageClient.Session.Language
namespace LanguageClient

/-!
# Requests of the server

What the client answers a server that asks for settings, wants an edit made, or registers and
unregisters what it can do, and how it takes diagnostics and messages.
-/

namespace LinkOwner

variable {E K : Type}

/-- Reads parameters of a shape. -/
def params (shape : Shape) (j : Json) : Except RpcError Json :=
  match shape j with
  | some j => .ok j
  | none => .error (RpcError.invalidParams "")

/-- The settings that a server asks for, item by item. -/
def configuration (settings : ServerSettings) (items : List Json) : Json :=
  .arr (items.map fun item =>
    let scope := settings.scopeForUri ((item.get "scopeUri").str?.getD "")
    settings.section_ ((item.get "section").str?.getD "") scope)

def editRefused : String := "Edit targets a document that is not open or has changed"

/-- The answer to a request for an edit. -/
def editAnswer (applied : Bool) : Json :=
  Json.record
    [("applied", some (.bool applied)),
      ("failureReason", if applied then none else some (.str editRefused))]

def registration (j : Json) : Registration :=
  ⟨(j.get "id").str?.getD "", (j.get "method").str?.getD "", j.get? "registerOptions"⟩

def unregistration (j : Json) : Unregistration :=
  ⟨(j.get "id").str?.getD "", (j.get "method").str?.getD ""⟩

def updateTable (s : ServerId) (f : RegistrationTable → RegistrationTable) : Prog E K Unit :=
  Program.modify (Client.updateServer s fun server =>
    { server with registrations := f server.registrations })

/-- The log level of a kind of message. -/
def levelOf (kind : Int) : LogLevel :=
  match kind with
  | 1 => .error
  | 2 => .warn
  | 3 => .info
  | _ => .debug

def logMessage (s : ServerId) (j : Json) (c : Client E) : Client E :=
  c.log (.message (c.server s).id (levelOf ((j.get "type").int?.getD 0))
    ((j.get "message").str?.getD ""))

/-- Logs and shows a message. -/
def showMessage (s : ServerId) (j : Json) (c : Client E) : Client E :=
  (logMessage s j c).show_
    (.message ((j.get "type").int?.getD 0) ((j.get "message").str?.getD ""))

def list (j : Json) (name : String) : List Json := (j.get name).arr?.getD []

/-- Answers a request. -/
def onRequest (owner : LinkOwner) (method : String) (value : Json) : Prog E K RpcOutcome := do
  let s := owner.server
  match method with
  | "workspace/configuration" =>
    match params Shape.configurationParams value with
    | .error e => return .error e
    | .ok j => do
      let settings ← Program.read fun c => (c.server s).settings
      return .ok (configuration settings (list j "items"))
  | "workspace/applyEdit" =>
    match params Shape.applyEditParams value with
    | .error e => return .error e
    | .ok j => do
      return .ok (editAnswer (← (WorkspaceEdit.ofNormal (j.get "edit")).apply))
  | "client/registerCapability" =>
    match params Shape.registrationParams value with
    | .error e => return .error e
    | .ok j => do
      updateTable s fun t => ((list j "registrations").map registration).foldl (·.register ·) t
      return .ok .null
  | "client/unregisterCapability" =>
    match params Shape.unregistrationParams value with
    | .error e => return .error e
    | .ok j => do
      updateTable s fun t =>
        ((list j "unregisterations").map unregistration).foldl (·.unregister ·) t
      return .ok .null
  | "window/showMessageRequest" =>
    match params Shape.showMessageRequestParams value with
    | .error e => return .error e
    | .ok j => do
      Program.modify (showMessage s j)
      return .ok .null
  | "window/workDoneProgress/create" => return .ok .null
  | _ => return .error (RpcError.methodNotFound method)

/-- Gives diagnostics to the session of their document, if it is connected. -/
def publishDiagnostics (s : ServerId) (j : Json) (c : Client E) : Client E :=
  match (c.server s).session? ((j.get "uri").str?.getD "") with
  | some session => Session.publish session (list j "diagnostics") c
  | none => c

/-- Takes a notification; one that cannot be read is dropped. -/
def onNotification (owner : LinkOwner) (method : String) (value : Json) : Prog E K Unit :=
  let act (shape : Shape) (f : Json → Client E → Client E) : Prog E K Unit :=
    match shape value with
    | some j => Program.modify (f j)
    | none => return ()
  match method with
  | "textDocument/publishDiagnostics" =>
    act Shape.publishDiagnosticsParams (publishDiagnostics owner.server)
  | "window/showMessage" => act Shape.showMessageParams (showMessage owner.server)
  | "window/logMessage" => act Shape.showMessageParams (logMessage owner.server)
  | _ => return ()

/-- The handler of the links of one generation of a server. -/
def handler (owner : LinkOwner) : Handler (Client E) (Job K) where
  onRequest := owner.onRequest
  onNotification := owner.onNotification
  onDisconnect e := do
    let _ ← Program.start (Job.crash owner e)

end LinkOwner

/-!
## Jobs

What the tasks of a client do, given the providers of its connections and the tasks outside.
-/

namespace Job

variable {E K : Type}

def perform (net : Providers (Client E) (Job K)) (outside : K → Prog E K Unit) :
    Job K → Prog E K Unit
  | .readAll owner link => Link.readAll owner.handler (.answer owner link) link
  | .answer owner link id method params => Link.answer owner.handler link id method params
  | .handshake owner link params => Server.handshake owner link params
  | .abandon owner => Server.abandon net owner
  | .crash owner e => Server.crashed net owner e
  | .errorLog server pipe => ErrorLog.run server pipe
  | .search access query promise => do
    let answer ← access.ask .symbols .workspaceSymbol (Json.object [("query", .str query)])
    Program.modify (HasWiring.modify (·.keep promise (.ok (answer.getD .null))))
  | .outside job => outside job

end Job

end LanguageClient
