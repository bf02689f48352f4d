namespace LanguageClient

/-!
# Server status

A server is stopped, starting, started or failed. It can be stopped at any time, started when it
does not run, and only what runs can fail.
-/

inductive ServerStatus where
  | stopped
  | starting
  | started
  | failed
deriving DecidableEq, Repr, Inhabited

namespace ServerStatus

def canMove : ServerStatus → ServerStatus → Bool
  | _, stopped => true
  | stopped, starting => true
  | failed, starting => true
  | starting, started => true
  | starting, failed => true
  | started, failed => true
  | _, _ => false

def name : ServerStatus → String
  | stopped => "stopped"
  | starting => "starting"
  | started => "started"
  | failed => "failed"

def all : List ServerStatus := [stopped, starting, started, failed]

def ofName? (s : String) : Option ServerStatus := all.find? fun v => v.name == s

theorem canMove_stopped (s : ServerStatus) : s.canMove stopped = true := by
  cases s <;> rfl

theorem ofName?_name (s : ServerStatus) : ofName? s.name = some s := by
  cases s <;> decide

end ServerStatus

end LanguageClient
