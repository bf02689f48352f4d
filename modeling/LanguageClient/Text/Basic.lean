namespace LanguageClient

/-!
# Text

Documents, snippets and wire bodies are lists of characters, measured in UTF-8 bytes for the
editor and in UTF-16 units for the protocol. A byte offset inside a character stands for the
start of that character; `takeBytes` and `dropBytes` cut there, and lose nothing between them.
-/

abbrev Text := List Char

namespace Text

/-- The number of UTF-8 bytes. -/
def byteLength : Text → Nat
  | [] => 0
  | c :: r => c.utf8Size + byteLength r

/-- The number of UTF-16 units of one character. -/
def charUnits (c : Char) : Nat := if c.val < 0x10000 then 1 else 2

/-- The number of UTF-16 units. -/
def units : Text → Nat
  | [] => 0
  | c :: r => charUnits c + units r

/-- The longest initial piece of at most `n` bytes. -/
def takeBytes : Text → Nat → Text
  | [], _ => []
  | c :: r, n => if c.utf8Size ≤ n then c :: takeBytes r (n - c.utf8Size) else []

/-- What `takeBytes` leaves. -/
def dropBytes : Text → Nat → Text
  | [], _ => []
  | c :: r, n => if c.utf8Size ≤ n then dropBytes r (n - c.utf8Size) else c :: r

/-- The greatest character boundary that is at most `n`. -/
def clampOffset (t : Text) (n : Nat) : Nat := byteLength (takeBytes t n)

/-- An offset is a boundary when it lies between two characters or at an end. -/
def IsBoundary (t : Text) (n : Nat) : Prop := clampOffset t n = n

instance (t : Text) (n : Nat) : Decidable (IsBoundary t n) :=
  inferInstanceAs (Decidable (clampOffset t n = n))

/-- The characters between two byte offsets. -/
def slice (t : Text) (start stop : Nat) : Text := takeBytes (dropBytes t start) (stop - start)

/-- Puts `s` in place of the bytes from `start` to `stop`. -/
def splice (t : Text) (start stop : Nat) (s : Text) : Text :=
  takeBytes t start ++ s ++ dropBytes t stop

@[simp] theorem byteLength_nil : byteLength [] = 0 := rfl

@[simp] theorem byteLength_cons (c : Char) (t : Text) :
    byteLength (c :: t) = c.utf8Size + byteLength t := rfl

@[simp] theorem byteLength_append (s t : Text) :
    byteLength (s ++ t) = byteLength s + byteLength t := by
  induction s with
  | nil => simp
  | cons c s ih => simp [ih, Nat.add_assoc]

@[simp] theorem units_nil : units [] = 0 := rfl

@[simp] theorem units_cons (c : Char) (t : Text) : units (c :: t) = charUnits c + units t := rfl

@[simp] theorem units_append (s t : Text) : units (s ++ t) = units s + units t := by
  induction s with
  | nil => simp
  | cons c s ih => simp [ih, Nat.add_assoc]

@[simp] theorem takeBytes_append_dropBytes (t : Text) (n : Nat) :
    takeBytes t n ++ dropBytes t n = t := by
  induction t generalizing n with
  | nil => rfl
  | cons c t ih =>
    by_cases h : c.utf8Size ≤ n
    · simp [takeBytes, dropBytes, h, ih]
    · simp [takeBytes, dropBytes, h]

theorem byteLength_takeBytes_le (t : Text) (n : Nat) : byteLength (takeBytes t n) ≤ n := by
  induction t generalizing n with
  | nil => exact Nat.zero_le n
  | cons c t ih =>
    by_cases h : c.utf8Size ≤ n
    · have := ih (n - c.utf8Size)
      simp only [takeBytes, h, if_true, byteLength_cons]
      omega
    · simp [takeBytes, h]

theorem clampOffset_le (t : Text) (n : Nat) : clampOffset t n ≤ n :=
  byteLength_takeBytes_le t n

theorem clampOffset_le_byteLength (t : Text) (n : Nat) : clampOffset t n ≤ byteLength t := by
  have h := congrArg byteLength (takeBytes_append_dropBytes t n)
  rw [byteLength_append] at h
  unfold clampOffset
  omega

@[simp] theorem takeBytes_append (s t : Text) :
    takeBytes (s ++ t) (byteLength s) = s ++ takeBytes t 0 := by
  induction s with
  | nil => simp
  | cons c s ih => simp [takeBytes, ih]

@[simp] theorem dropBytes_append (s t : Text) :
    dropBytes (s ++ t) (byteLength s) = dropBytes t 0 := by
  induction s with
  | nil => simp
  | cons c s ih => simp [dropBytes, ih]

end Text

end LanguageClient
