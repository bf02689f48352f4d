import LanguageClient.ClientError
import LanguageClient.Json.Basic
import LanguageClient.Task.Agenda
namespace LanguageClient

/-!
# Promises and mailboxes

A promise is kept once and awaited by one task. A mailbox holds letters for the one task that
reads it, until that task closes it.
-/

structure Promise where
  outcome : Option (Except ClientError Json)
  waiter : Option TaskId

namespace Promise

def new : Promise := ⟨none, none⟩

instance : Inhabited Promise := ⟨new⟩

/-- Keeps the promise, unless it is kept already; the task to wake. -/
def keep (p : Promise) (outcome : Except ClientError Json) : Promise × Option TaskId :=
  match p.outcome with
  | some _ => (p, none)
  | none => (⟨some outcome, none⟩, p.waiter)

def await (p : Promise) (t : TaskId) : Promise × Option (Except ClientError Json) :=
  match p.outcome with
  | some o => (p, some o)
  | none => ({ p with waiter := some t }, none)

theorem keep_of_kept {p : Promise} {o : Except ClientError Json} (h : p.outcome = some o)
    (outcome : Except ClientError Json) : p.keep outcome = (p, none) := by
  simp [keep, h]

theorem outcome_keep_new (outcome : Except ClientError Json) :
    (new.keep outcome).1.outcome = some outcome := rfl

end Promise

structure Mailbox (α : Type) where
  letters : List α
  closed : Bool
  reader : Option TaskId
deriving Repr

namespace Mailbox

variable {α : Type}

def new : Mailbox α := ⟨[], false, none⟩

instance : Inhabited (Mailbox α) := ⟨new⟩

/-- Puts a letter in; the task to wake, and whether the mailbox took it. -/
def post (m : Mailbox α) (letter : α) : Mailbox α × Option TaskId × Bool :=
  if m.closed then (m, none, false)
  else ({ m with letters := m.letters ++ [letter], reader := none }, m.reader, true)

def receive (m : Mailbox α) (t : TaskId) : Mailbox α × Option α :=
  match m.letters with
  | a :: rest => ({ m with letters := rest }, some a)
  | [] => ({ m with reader := some t }, none)

def close (m : Mailbox α) : Mailbox α := { m with closed := true, letters := [] }

theorem letters_post {m : Mailbox α} (h : m.closed = false) (letter : α) :
    (m.post letter).1.letters = m.letters ++ [letter] := by
  simp [post, h]

theorem letters_receive {m : Mailbox α} {t : TaskId} {a : α} (h : (m.receive t).2 = some a) :
    m.letters = a :: (m.receive t).1.letters := by
  unfold receive at h ⊢
  split <;> simp_all

end Mailbox

end LanguageClient
