import LanguageClient.Message.Basic
import LanguageClient.Message.Frame
import LanguageClient.Transport.Wiring
namespace LanguageClient

/-!
# Exchanges over a link

Programs that write to pipes, read from them and await promises. From these are made the client's
requests, notifications and answers, the end of a link, and the loop that reads what the server
sends. A message is written while the link is held, so that no other comes between its bytes. A
request that is given up is forgotten, and its answer is then ignored.
-/

/-! ## Streams -/

namespace Program

variable {W J : Type} [HasWiring W]

/-- Writes all bytes, in as many pieces as the pipe asks for. -/
def write (p : PipeId) (bytes : Bytes) : Program W J (Except ClientError Unit) :=
  iterate bytes fun rest =>
    await
      (fun t =>
        HasWiring.visit fun w =>
          let r := w.offer p rest t
          (r.1, match r.2 with
            | .broken => some (Sum.inr (.error (.transfer "broken pipe")))
            | .waits => none
            | .took _ [] => some (Sum.inr (.ok ()))
            | .took _ rest => some (Sum.inl rest)))
      (fun _ w => w)
      done

/-- The most bytes that are read at once. -/
def readSize : Nat := 8192

/-- Reads some bytes; nothing at the end. -/
def receive (p : PipeId) : Program W J (Option Bytes) :=
  await
    (fun t =>
      HasWiring.visit fun w => w.visitPipe p fun pipe =>
        let r := pipe.take readSize t
        (r.1, r.2.1, match r.2.2 with
          | .ended => some none
          | .waits => none
          | .got bytes => some (some bytes)))
    (fun _ w => w)
    done

/-- Awaits the outcome of a promise. -/
def outcome (promise : PromiseId) : Program W J (Except ClientError Json) :=
  await
    (fun t =>
      HasWiring.visit fun w =>
        let r := w.promises.visit promise (·.await t)
        ({ w with promises := r.1 }, r.2))
    (fun _ w => w)
    done

end Program

/-! ## Links -/

/-- What a client does with what its server sends. -/
structure Handler (W J : Type) where
  onRequest : String → Json → Program W J RpcOutcome
  onNotification : String → Json → Program W J Unit
  /-- The connection ended and the client did not end it. -/
  onDisconnect : ClientError → Program W J Unit

namespace Link

variable {W J : Type} [HasWiring W]

def writingLock (l : LinkId) : Lock.Place W where
  read w := ((HasWiring.wiring w).link l).writing
  write lock := HasWiring.modify (·.updateLink l fun link => { link with writing := lock })

def closedError : ClientError := .disconnected "Transport closed"

def isConnected (l : LinkId) : Program W J Bool :=
  Program.read fun w => ((HasWiring.wiring w).link l).connected

/-- Writes the frame of a message. -/
def send (l : LinkId) (m : OutgoingMessage) : Program W J (Except ClientError Unit) :=
  Program.locked (writingLock l) do
    match ← Program.read fun w => ((HasWiring.wiring w).link l).output with
    | none => return .error closedError
    | some p => Program.write p (Utf8.encode (Frame.encode m.body))

/-- Sends a request and awaits its outcome. -/
def request (l : LinkId) (method : String) (params : Json) :
    Program W J (Except ClientError Json) := do
  match ← Program.act (HasWiring.visit (·.enterRequest l)) with
  | none => return .error closedError
  | some (id, promise) =>
    Program.holding (HasWiring.modify (·.updateLink l (·.forget id))) do
      match ← send l (.request (.number id) method (some params)) with
      | .error e => return .error e
      | .ok () => Program.outcome promise

/-- Sends a notification. -/
def notify (l : LinkId) (method : String) (params : Json) :
    Program W J (Except ClientError Unit) := do
  if ← isConnected l then send l (.notification method (some params))
  else return .error closedError

/-- Sends a request, and notes it and its outcome. -/
def ask (l : LinkId) (method : String) (params : Json) :
    Program W J (Except ClientError Json) := do
  Program.modify (HasWiring.modify (·.note l (.asked method params)))
  let outcome ← request l method params
  Program.modify (HasWiring.modify (·.note l (.answered method outcome)))
  return outcome

/-- Sends a notification and notes it. -/
def tell (l : LinkId) (method : String) (params : Json) :
    Program W J (Except ClientError Unit) := do
  Program.modify (HasWiring.modify (·.note l (.told method params)))
  notify l method params

/-- Answers a request of the server. -/
def answer (handler : Handler W J) (l : LinkId) (id : RequestId) (method : String)
    (params : Json) : Program W J Unit := do
  let outcome ← handler.onRequest method params
  let _ ← send l (.response id outcome)

/-- Takes the writing end out and closes it. -/
def closeOutput (l : LinkId) (w : Wiring) : Wiring :=
  match (w.link l).output with
  | none => w
  | some p => (w.updateLink l fun link => { link with output := none }).closeWriter p

/-- Takes the reading task out. -/
def takeReader (l : LinkId) (w : Wiring) : Wiring × Option TaskId :=
  (w.updateLink l fun link => { link with reader := none }, (w.link l).reader)

def stopReader (l : LinkId) : Program W J Unit := do
  match ← Program.act (HasWiring.visit (takeReader l)) with
  | none => return ()
  | some task => Program.stop task

/-- Ends a link: no more messages either way, and what waits for an answer fails. -/
def close (l : LinkId) : Program W J Unit := do
  Program.modify (HasWiring.modify (·.updateLink l fun link =>
    { link with closing := true, connected := false }))
  Program.locked (writingLock l) (Program.modify (HasWiring.modify (closeOutput l)))
  stopReader l
  Program.modify (HasWiring.modify (·.failPending l "Transport closed"))

/-- Lets go of a link that nobody uses yet. -/
def discard (l : LinkId) : Program W J Unit := do
  Program.modify (HasWiring.modify fun w =>
    closeOutput l (w.updateLink l fun link => { link with closing := true }))
  stopReader l

/-- What has been read and not yet taken apart, and whether more can come. -/
structure Inbox where
  bytes : Bytes
  ended : Bool

/-- Acts on one message; `job` names the task that answers a request. -/
def accept (handler : Handler W J) (job : RequestId → String → Json → J) (l : LinkId)
    (body : Text) : Program W J Unit :=
  match IncomingMessage.parse body with
  | .ok (.response (.number id) outcome) =>
    Program.modify (HasWiring.modify (·.complete l id (outcome.mapError RpcError.toClientError)))
  | .ok (.response (.string _) _) => return ()
  | .ok (.notification method params) => handler.onNotification method params
  | .ok (.request id method params) => do
    let _ ← Program.start (job id method params)
  | .error _ => return ()

/-- Takes the next frame, or reads on; gives the reason at the end. -/
def readStep (handler : Handler W J) (job : RequestId → String → Json → J) (l : LinkId)
    (input : PipeId) (inbox : Inbox) : Program W J (Inbox ⊕ ClientError) :=
  match Frame.next inbox.bytes inbox.ended with
  | .incomplete => do
    match ← Program.receive input with
    | some bytes => return .inl ⟨inbox.bytes ++ bytes, false⟩
    | none => return .inl ⟨inbox.bytes, true⟩
  | .ended => return .inr (.disconnected "Server closed connection")
  | .failed e => return .inr e
  | .frame body rest => do
    accept handler job l body
    return .inl ⟨rest, inbox.ended⟩

/-- Reads until the server's output ends. -/
def readAll (handler : Handler W J) (job : RequestId → String → Json → J) (l : LinkId) :
    Program W J Unit := do
  let input ← Program.read fun w => ((HasWiring.wiring w).link l).input
  Program.holding (HasWiring.modify (·.closeReader input)) do
    let reason ← Program.iterate (Inbox.mk [] false) (readStep handler job l input)
    Program.modify (HasWiring.modify fun w =>
      (w.updateLink l fun link => { link with connected := false }).failPending l
        "Server closed connection")
    let closing ← Program.read fun w => ((HasWiring.wiring w).link l).closing
    if closing then return () else handler.onDisconnect reason

/-- Makes a link of two pipes; `job` names the task that reads. -/
def start (job : LinkId → J) (input output : PipeId) : Program W J LinkId := do
  let l ← Program.act (HasWiring.visit (·.addLink (Link.new input output)))
  let task ← Program.start (job l)
  Program.modify (HasWiring.modify (·.updateLink l fun link => { link with reader := some task }))
  return l

end Link

end LanguageClient
