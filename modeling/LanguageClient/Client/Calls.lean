import LanguageClient.Client.Basic
import LanguageClient.Server.Gate
import LanguageClient.Transport.Exchange
namespace LanguageClient

/-!
# Calls of the client

The gate of each connection: calls go over its link, it is open while the server is started and its
generation has not passed, and a call that broke the connection is a crash of that generation.
-/

namespace Access

variable {E K : Type}

/-- The status as the connection sees it: once its generation has passed, the server is stopped. -/
def status (a : Access) (c : Client E) : ServerStatus :=
  let s := c.server a.server
  if s.generation = a.generation then s.status else .stopped

def gate (a : Access) : Gate (Client E) (Job K) where
  caller := ⟨Link.ask a.link, Link.tell a.link⟩
  capabilities := a.capabilities
  monitor :=
    { standing := fun c => some ⟨a.status c, (c.server a.server).isRegistered⟩
      reportCrash := fun e => do
        let _ ← Program.start (Job.crash ⟨a.server, a.generation⟩ e) }

def tell (a : Access) (f : Feature) (params : Json) : Prog E K Unit := a.gate.tell f params

/-- Asks the server something, as long as the kind of request may take. -/
def ask (a : Access) (kind : RequestKind) (f : Feature) (params : Json) :
    Prog E K (Option Json) :=
  Prog.limited kind (a.gate.ask f params)

end Access

namespace Client

variable {E : Type}

/-- The access to the server of a session, while it is initialized. -/
def access? (c : Client E) (s : SessionId) : Option Access := (c.server (c.session s).server).access

end Client

/-!
## Waiting

Waiting for a status of a server, and for anything else, but not for ever.
-/

namespace Client

variable {E K : Type}

/-- How long a wait lasts at most. -/
def longestWait : Nat := 5000

/-- How often a condition is looked at. -/
def lookInterval : Nat := 5

def addWatcher (t : TaskId) (s : Server) : Server :=
  if t ∈ s.watchers then s else { s with watchers := s.watchers ++ [t] }

def removeWatcher (t : TaskId) (s : Server) : Server :=
  { s with watchers := s.watchers.filter fun u => u != t }

/-- Waits until a server has a status. -/
def awaitStatus (s : ServerId) (status : ServerStatus) : Prog E K Unit :=
  .await
    (fun t c =>
      if (c.server s).status = status then (c, some ())
      else (c.updateServer s (addWatcher t), none))
    (fun t c => c.updateServer s (removeWatcher t))
    .done

/-- Whether a server comes to have a status. -/
def reachesStatus (s : ServerId) (status : ServerStatus) : Prog E K Bool := do
  return (← Program.timeout longestWait (awaitStatus s status)).isSome

/-- Whether a condition comes to hold. -/
def comesToHold (p : Client E → Bool) : Prog E K Bool := do
  let deadline ← Program.read fun c => HasAgenda.now c + longestWait
  Program.iterate () fun _ => do
    if ← Program.read p then return .inr true
    if ← Program.read fun c => decide (HasAgenda.now c < deadline) then
      Program.sleep lookInterval
      return .inl ()
    else return .inr false

end Client

end LanguageClient
