import LanguageClient.Server.Gate
import LanguageClient.Task.Scheduler
namespace LanguageClient

/-!
# Stub gates

A gate whose calls are recorded and answered from tables, and whose server is a status to be set.
-/

structure StubGate where
  agenda : Agenda
  /-- Every call with its parameters, in order. -/
  calls : List (String × Json)
  responses : List (String × Json)
  errors : List (String × (Int × String))
  connected : Bool
  status : ServerStatus
  registered : List DynamicMethod
  crashes : List ClientError
  /-- Whether the server is gone. -/
  dropped : Bool

namespace StubGate

def new (responses : List (String × Json)) (errors : List (String × (Int × String)))
    (status : ServerStatus) (registered : List DynamicMethod) : StubGate :=
  ⟨Agenda.start, [], responses, errors, true, status, registered, [], false⟩

instance : HasAgenda StubGate := ⟨agenda, fun a s => { s with agenda := a }⟩

/-- A gate starts no tasks. -/
inductive Job

abbrev Script := Program StubGate Job

/-- Records a call; it fails once the connection is gone. -/
def record (method : String) (params : Json) : Script (Except ClientError Unit) :=
  Program.act fun s =>
    ({ s with calls := s.calls ++ [(method, params)] },
      if s.connected then .ok () else .error (.disconnected "Transport closed"))

/-- The answer of the tables: an error, a response, or else null. -/
def answerTo (s : StubGate) (method : String) : Except ClientError Json :=
  match s.errors.lookup method with
  | some (code, message) => .error (.rpc code message)
  | none => .ok ((s.responses.lookup method).getD .null)

def caller : Caller StubGate Job where
  request method params := do
    match ← record method params with
    | .ok () => Program.read (·.answerTo method)
    | .error e => return .error e
  notify := record

def monitor : Monitor StubGate Job where
  standing s := if s.dropped then none else some ⟨s.status, s.registered.elem⟩
  reportCrash e := Program.modify fun s => { s with crashes := s.crashes ++ [e] }

def gate (capabilities : Capabilities) : Gate StubGate Job := ⟨caller, capabilities, monitor⟩

def start (s : StubGate) : Runtime StubGate Job := Runtime.start s fun job => nomatch job

end StubGate

end LanguageClient
