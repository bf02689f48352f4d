import LanguageClient.Task.Agenda
import LanguageClient.Text.Utf8
namespace LanguageClient

/-!
# Pipes

A pipe carries bytes one way and holds a limited number of them. A write is taken in pieces as
room appears; a read waits for bytes or for the end of the writing side.
-/

structure Pipe where
  /-- The bytes on their way. -/
  content : Bytes
  capacity : Nat
  writerClosed : Bool
  readerClosed : Bool
  /-- The task that waits for bytes. -/
  reader : Option TaskId
  /-- The task that waits for room. -/
  writer : Option TaskId
deriving DecidableEq, Repr

namespace Pipe

def standardCapacity : Nat := 64 * 1024

def open_ : Pipe := ⟨[], standardCapacity, false, false, none, none⟩

instance : Inhabited Pipe := ⟨open_⟩

inductive Write where
  /-- The reading side is gone. -/
  | broken
  | waits
  /-- Taken in part; the others are left. -/
  | took (taken rest : Bytes)

/-- Offers bytes; the task to wake. -/
def offer (p : Pipe) (bytes : Bytes) (t : TaskId) : Pipe × Option TaskId × Write :=
  if p.readerClosed || p.writerClosed then (p, none, .broken)
  else
    let room := p.capacity - p.content.length
    if room = 0 ∧ bytes ≠ [] then ({ p with writer := some t }, none, .waits)
    else
      ({ p with content := p.content ++ bytes.take room, reader := none }, p.reader,
        .took (bytes.take room) (bytes.drop room))

inductive Read where
  | ended
  | waits
  | got (bytes : Bytes)

/-- Takes at most `n` bytes; the task to wake. -/
def take (p : Pipe) (n : Nat) (t : TaskId) : Pipe × Option TaskId × Read :=
  if p.content = [] then
    if p.writerClosed then (p, none, .ended) else ({ p with reader := some t }, none, .waits)
  else
    ({ p with content := p.content.drop n, writer := none }, p.writer, .got (p.content.take n))

/-- Ends the writing side; the task to wake. -/
def closeWriter (p : Pipe) : Pipe × Option TaskId :=
  ({ p with writerClosed := true, reader := none }, p.reader)

/-- Ends the reading side; the task to wake. -/
def closeReader (p : Pipe) : Pipe × Option TaskId :=
  ({ p with readerClosed := true, writer := none }, p.writer)

theorem offer_took {p q : Pipe} {bytes taken rest : Bytes} {t : TaskId} {woken : Option TaskId}
    (h : p.offer bytes t = (q, woken, .took taken rest)) :
    taken ++ rest = bytes ∧ q.content = p.content ++ taken := by
  simp only [offer] at h
  split at h
  · simp at h
  · split at h
    · simp at h
    · simp only [Prod.mk.injEq, Write.took.injEq] at h
      obtain ⟨rfl, _, rfl, rfl⟩ := h
      exact ⟨List.take_append_drop _ _, rfl⟩

theorem take_got {p q : Pipe} {bytes : Bytes} {n : Nat} {t : TaskId} {woken : Option TaskId}
    (h : p.take n t = (q, woken, .got bytes)) : bytes ++ q.content = p.content := by
  simp only [take] at h
  split at h
  · split at h <;> simp at h
  · simp only [Prod.mk.injEq, Read.got.injEq] at h
    obtain ⟨rfl, _, rfl⟩ := h
    exact List.take_append_drop _ _

end Pipe

end LanguageClient
