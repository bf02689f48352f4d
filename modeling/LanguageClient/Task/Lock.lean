import LanguageClient.Task.Program
namespace LanguageClient

/-!
# Locks

A lock has one holder. A lock that is given back goes to the task that has waited longest, which
has it from then on even before its next turn.
-/

inductive Lock.Owner where
  | nobody
  /-- Handed over to a task that has not gone on yet. -/
  | promised (task : TaskId)
  | taken
deriving DecidableEq, Repr

structure Lock where
  owner : Lock.Owner
  waiting : List TaskId
deriving DecidableEq, Repr

namespace Lock

def free : Lock := ⟨.nobody, []⟩

instance : Inhabited Lock := ⟨free⟩

/-- Tries to take the lock; a task that cannot waits in line. -/
def acquire (l : Lock) (t : TaskId) : Lock × Option Unit :=
  match l.owner with
  | .nobody => ({ l with owner := .taken }, some ())
  | .promised u =>
    if u = t then ({ l with owner := .taken }, some ())
    else (if t ∈ l.waiting then l else { l with waiting := l.waiting ++ [t] }, none)
  | .taken => (if t ∈ l.waiting then l else { l with waiting := l.waiting ++ [t] }, none)

/-- Gives the lock back; the task to wake. -/
def release (l : Lock) : Lock × Option TaskId :=
  match l.waiting with
  | [] => (⟨.nobody, []⟩, none)
  | t :: rest => (⟨.promised t, rest⟩, some t)

/-- Takes a task out of the line, and passes on a lock that was promised to it. -/
def giveUp (l : Lock) (t : TaskId) : Lock × Option TaskId :=
  if l.owner = .promised t then l.release
  else ({ l with waiting := l.waiting.erase t }, none)

theorem acquire_free (t : TaskId) : free.acquire t = (⟨.taken, []⟩, some ()) := rfl

theorem acquire_eq_some_iff (l : Lock) (t : TaskId) :
    (l.acquire t).2 = some () ↔ l.owner = .nobody ∨ l.owner = .promised t := by
  unfold acquire
  cases h : l.owner with
  | nobody => simp
  | promised u => by_cases hu : u = t <;> simp [hu]
  | taken => simp

theorem owner_release (l : Lock) :
    l.release.1.owner = (match l.waiting with | [] => .nobody | t :: _ => .promised t) := by
  cases h : l.waiting <;> simp [release, h]

theorem owner_release_ne_taken (l : Lock) : l.release.1.owner ≠ .taken := by
  rw [owner_release]
  split <;> exact nofun

end Lock

/-- The place of a lock in a world. -/
structure Lock.Place (W : Type) where
  read : W → Lock
  write : Lock → W → W

namespace Lock.Place

variable {W : Type} [HasAgenda W]

def release (place : Lock.Place W) (w : W) : W :=
  let r := (place.read w).release
  HasAgenda.wakeAll r.2.toList (place.write r.1 w)

def giveUp (place : Lock.Place W) (t : TaskId) (w : W) : W :=
  let r := (place.read w).giveUp t
  HasAgenda.wakeAll r.2.toList (place.write r.1 w)

def acquire (place : Lock.Place W) (t : TaskId) (w : W) : W × Option Unit :=
  let r := (place.read w).acquire t
  (place.write r.1 w, r.2)

end Lock.Place

namespace Program

variable {W J : Type} [HasAgenda W] {α : Type}

/-- Runs `body` while a lock is held. -/
def locked (place : Lock.Place W) (body : Program W J α) : Program W J α :=
  await place.acquire place.giveUp fun _ => holding place.release body

end Program

end LanguageClient
