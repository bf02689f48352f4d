namespace LanguageClient

/-!
# Agendas

The virtual clock, the tasks that are ready to go on, first come first served, and the tasks to be
woken at a time. Waking a ready task changes nothing.
-/

abbrev TaskId := Nat

structure Agenda where
  /-- Milliseconds since the start. -/
  now : Nat
  ready : List TaskId
  alarms : List (Nat × TaskId)
deriving DecidableEq, Repr, Inhabited

namespace Agenda

def start : Agenda := ⟨0, [], []⟩

def wake (a : Agenda) (t : TaskId) : Agenda :=
  if t ∈ a.ready then a else { a with ready := a.ready ++ [t] }

def wakeAll (a : Agenda) (ts : List TaskId) : Agenda := ts.foldl wake a

def setAlarm (a : Agenda) (time : Nat) (t : TaskId) : Agenda :=
  { a with alarms := a.alarms ++ [(time, t)] }

/-- Takes back one alarm. -/
def dropAlarm (a : Agenda) (time : Nat) (t : TaskId) : Agenda :=
  { a with alarms := a.alarms.erase (time, t) }

/-- The time of the next alarm. -/
def nextAlarm? (a : Agenda) : Option Nat := (a.alarms.map (·.1)).min?

/-- Turns the clock to a time and wakes the tasks whose alarms it reaches, earliest first. -/
def turnTo (a : Agenda) (time : Nat) : Agenda :=
  let due := (a.alarms.filter fun e => e.1 ≤ time).mergeSort fun x y => x.1 ≤ y.1
  let rest := a.alarms.filter fun e => !(e.1 ≤ time)
  wakeAll { a with now := max a.now time, alarms := rest } (due.map (·.2))

/-- Takes the first ready task that satisfies a condition. -/
def take? (a : Agenda) (p : TaskId → Bool) : Option (TaskId × Agenda) :=
  (a.ready.find? p).map fun t => (t, { a with ready := a.ready.erase t })

@[simp] theorem now_wake (a : Agenda) (t : TaskId) : (a.wake t).now = a.now := by
  unfold wake; split <;> rfl

theorem mem_ready_wake (a : Agenda) (t : TaskId) : t ∈ (a.wake t).ready := by
  unfold wake; split <;> simp_all

@[simp] theorem now_wakeAll (a : Agenda) (ts : List TaskId) : (a.wakeAll ts).now = a.now := by
  induction ts generalizing a with
  | nil => rfl
  | cons t ts ih => simpa [wakeAll] using ih (a.wake t)

end Agenda

/-- A state of which an agenda is a part. -/
class HasAgenda (W : Type) where
  agenda : W → Agenda
  setAgenda : Agenda → W → W

namespace HasAgenda

variable {W : Type} [HasAgenda W]

def modify (f : Agenda → Agenda) (w : W) : W := setAgenda (f (agenda w)) w

def now (w : W) : Nat := (agenda w).now

def wake (t : TaskId) (w : W) : W := modify (·.wake t) w

def wakeAll (ts : List TaskId) (w : W) : W := modify (·.wakeAll ts) w

end HasAgenda

end LanguageClient
