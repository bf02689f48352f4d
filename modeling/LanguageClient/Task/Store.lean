namespace LanguageClient

/-!
# Stores

Things that tasks share are kept in stores and known by their numbers, counted from zero.
-/

structure Store (α : Type) where
  entries : List α
deriving Repr

namespace Store

variable {α : Type}

def empty : Store α := ⟨[]⟩

instance : Inhabited (Store α) := ⟨empty⟩

def get? (s : Store α) (n : Nat) : Option α := s.entries[n]?

/-- The entry of a number, a standard one where there is none. -/
def get [Inhabited α] (s : Store α) (n : Nat) : α := (s.get? n).getD default

/-- Adds an entry under the next number. -/
def add (s : Store α) (a : α) : Store α × Nat := (⟨s.entries ++ [a]⟩, s.entries.length)

def update (s : Store α) (n : Nat) (f : α → α) : Store α := ⟨s.entries.modify n f⟩

/-- Changes an entry and gives something back; a missing entry counts as a standard one. -/
def visit [Inhabited α] {β : Type} (s : Store α) (n : Nat) (f : α → α × β) : Store α × β :=
  let r := f (s.get n)
  (s.update n fun _ => r.1, r.2)

@[simp] theorem get?_update_same (s : Store α) (n : Nat) (f : α → α) :
    (s.update n f).get? n = (s.get? n).map f := by
  simp [update, get?]

@[simp] theorem get?_update_ne (s : Store α) {n m : Nat} (f : α → α) (h : n ≠ m) :
    (s.update n f).get? m = s.get? m := by
  simp [update, get?, h]

@[simp] theorem get?_add_new (s : Store α) (a : α) : (s.add a).1.get? (s.add a).2 = some a := by
  simp [add, get?]

end Store

end LanguageClient
