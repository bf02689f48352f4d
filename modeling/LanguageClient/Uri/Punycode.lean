import LanguageClient.Text.Basic
namespace LanguageClient

/-!
# Punycode

Host names carry letters beyond ASCII in labels that start with `xn--`. After the plain characters
of the label and a hyphen, numbers of variable length tell which characters to insert and where;
the weight of each digit adapts to the numbers before (RFC 3492).
-/

namespace Uri.Punycode

def digit? (c : Char) : Option Nat :=
  if 'a' ≤ c ∧ c ≤ 'z' then some (c.toNat - 97)
  else if c.isDigit then some (c.toNat - 48 + 26)
  else none

/-- The least digit that goes on with a number, by its place. -/
def threshold (place bias : Nat) : Nat := max 1 (min 26 (place - bias))

/-- Divides until the rest is small; each division moves the bias. -/
def settle (delta k : Nat) : Nat :=
  if 455 < delta then settle (delta / 35) (k + 36) else k + 36 * delta / (delta + 38)
termination_by delta
decreasing_by exact Nat.div_lt_self (by omega) (by omega)

/-- The bias after a number, when the text has come to `count` characters. -/
def adapt (delta count : Nat) (isFirst : Bool) : Nat :=
  let delta := if isFirst then delta / 700 else delta / 2
  let delta := delta + delta / count
  settle delta 0

/-- Adds a number of variable length, least digit first, to a total. -/
def number? (bias : Nat) : (place weight total : Nat) → Text → Option (Nat × Text)
  | _, _, _, [] => none
  | place, weight, total, c :: r =>
    match digit? c with
    | none => none
    | some d =>
      let bound := threshold place bias
      if UInt32.size ≤ total + d * weight then none
      else if d < bound then some (total + d * weight, r)
      else if UInt32.size ≤ weight * (36 - bound) then none
      else number? bias (place + 36) (weight * (36 - bound)) (total + d * weight) r

theorem length_number? {bias place weight total n : Nat} {t r : Text}
    (h : number? bias place weight total t = some (n, r)) : r.length < t.length := by
  induction t generalizing place weight total with
  | nil => simp [number?] at h
  | cons c t ih =>
    rw [number?] at h
    split at h
    · simp at h
    · simp only at h
      split at h
      · simp at h
      · split at h
        · simp only [Option.some.injEq, Prod.mk.injEq] at h
          simp [h.2]
        · split at h
          · simp at h
          · have := ih h
            simp only [List.length_cons]
            omega

/--
Inserts the characters that numbers stand for. Each number moves on from `index` in the text, and
past its end to the start for the next code point.
-/
def insertAll (code bias index : Nat) (done : Text) (t : Text) : Option Text :=
  if t.isEmpty then some done
  else
    match _h : number? bias 36 1 index t with
    | none => none
    | some (place, r) =>
      let count := done.length + 1
      let next := code + place / count
      let at_ := place % count
      if next.isValidChar then
        insertAll next (adapt (place - index) count (index == 0)) (at_ + 1)
          (done.take at_ ++ Char.ofNat next :: done.drop at_) r
      else none
termination_by t.length
decreasing_by exact length_number? _h

/-- The plain characters before the last hyphen, and the numbers after it. -/
def cut (t : Text) : Text × Text :=
  let numbers := (t.reverse.takeWhile (· ≠ '-')).reverse
  if numbers.length + 1 < t.length then (t.take (t.length - numbers.length - 1), numbers)
  else ([], t)

/-- The text that a label without its `xn--` stands for. -/
def decode? (t : Text) : Option Text :=
  let (plain, numbers) := cut t
  insertAll 128 72 0 plain numbers

end Uri.Punycode

end LanguageClient
