import LanguageClient.Server.Feature
import LanguageClient.Task.Program
namespace LanguageClient

/-!
# Gates

All that a session asks of a server goes through the gate of the connection. The gate lets a call
through while the server is started and takes the feature, and reports a call that broke the
connection.
-/

/-- How calls reach a server. -/
structure Caller (W J : Type) where
  request : String → Json → Program W J (Except ClientError Json)
  notify : String → Json → Program W J (Except ClientError Unit)

/-- What a gate sees of its server. -/
structure Standing where
  status : ServerStatus
  registered : DynamicMethod → Bool

structure Monitor (W J : Type) where
  /-- Nothing once the server is gone. -/
  standing : W → Option Standing
  reportCrash : ClientError → Program W J Unit

structure Gate (W J : Type) where
  caller : Caller W J
  capabilities : Capabilities
  monitor : Monitor W J

namespace Gate

variable {W J : Type}

/-- Whether the server is there and registered a method. -/
def isRegistered (g : Gate W J) (w : W) (method : DynamicMethod) : Bool :=
  match g.monitor.standing w with
  | some s => s.registered method
  | none => false

/-- Whether a call goes through. -/
def admits (g : Gate W J) (f : Feature) (params : Json) (w : W) : Bool :=
  match g.monitor.standing w with
  | some s => s.status == .started && f.isSupported g.capabilities s.registered params
  | none => false

/-- Reports a failure that means a broken connection, while the server is there. -/
def report (g : Gate W J) (f : Feature) (e : ClientError) : Program W J Unit := do
  if f.isCrash e then
    if ← Program.read fun w => (g.monitor.standing w).isSome then g.monitor.reportCrash e

/-- Calls the server if the gate admits the call. -/
def call (g : Gate W J) (f : Feature) (params : Json) : Program W J Feature.Result := do
  if ← Program.read (g.admits f params) then
    if f.isNotification then
      match ← g.caller.notify f.method params with
      | .ok () => return .none
      | .error e => do
        g.report f e
        return .none
    else
      match ← g.caller.request f.method params with
      | .ok answer => return f.ofAnswer answer
      | .error e => do
        g.report f e
        return f.ofFailure e
  else return .none

/-- Tells the server something. -/
def tell (g : Gate W J) (f : Feature) (params : Json) : Program W J Unit := do
  let _ ← g.call f params

/-- Asks the server something; nothing if there is no answer. -/
def ask (g : Gate W J) (f : Feature) (params : Json) : Program W J (Option Json) :=
  (fun r => r.value?) <$> g.call f params

end Gate

end LanguageClient
