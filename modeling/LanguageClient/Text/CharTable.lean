import LanguageClient.Text.Blank
namespace LanguageClient

/-!
# Tables of characters

A table lists characters in increasing order, and what each goes to. It is written as words of
hexadecimal code points: `41` is one character, `41-5A` a range, and `100-12E/2` every second one
of a range. After `>` stand the code points that each of them goes to, divided by full stops;
after `~` stands what the first one goes to, and the others keep their distance from it.
-/

namespace Text

/-- One word of a table. -/
structure CharRow where
  first : Nat
  last : Nat
  step : Nat
  /-- Whether the characters go to different ones, at the same distances. -/
  shifts : Bool
  target : List Nat
deriving DecidableEq, Repr, Inhabited

namespace CharRow

def digit (c : Char) : Nat := if c.isDigit then c.toNat - 48 else c.toNat - 55

def number (t : Text) : Nat := t.foldl (fun n c => n * 16 + digit c) 0

/-- The text before a character, and after it if it is there. -/
def cutAt (sep : Char) (t : Text) : Text × Option Text :=
  match cut? sep t with
  | some (before, after) => (before, some after)
  | none => (t, none)

/-- The code points of a list divided by full stops. -/
def numbers (t : Text) : List Nat :=
  if t.isEmpty then [] else (splitOnChar '.' t).map number

def ofWord (word : Text) : CharRow :=
  let (fixed, target) := cutAt '>' word
  let (codes, moving) := cutAt '~' fixed
  let (first, range) := cutAt '-' codes
  let (last, step) := cutAt '/' (range.getD first)
  { first := number first
    last := number last
    step := number (step.getD ['1'])
    shifts := moving.isSome
    target := numbers ((target.or moving).getD []) }

def contains (r : CharRow) (n : Nat) : Bool :=
  r.first ≤ n && n ≤ r.last && (n - r.first) % r.step == 0

/-- What a code point of the row goes to. -/
def targetOf (r : CharRow) (n : Nat) : List Nat :=
  if r.shifts then r.target.map (· + (n - r.first)) else r.target

end CharRow

structure CharTable where
  rows : Array CharRow

namespace CharTable

/-- The words of each line are divided by single blanks. -/
def ofLines (lines : List String) : CharTable :=
  ⟨(lines.flatMap fun line => (splitOnChar ' ' line.toList).map CharRow.ofWord).toArray⟩

/-- The last row from `low` to below `high` that starts at `n` or before, halving `fuel` times. -/
def search (t : CharTable) (n : Nat) : (fuel low high : Nat) → Option CharRow
  | 0, _, _ => none
  | fuel + 1, low, high =>
    if high ≤ low then none
    else
      let mid := (low + high) / 2
      match t.rows[mid]? with
      | none => none
      | some row =>
        if n < row.first then t.search n fuel low mid
        else (t.search n fuel (mid + 1) high).or (some row)

/-- The row of a character. -/
def row? (t : CharTable) (c : Char) : Option CharRow :=
  (t.search c.toNat (t.rows.size + 1) 0 t.rows.size).filter fun r => r.contains c.toNat

def contains (t : CharTable) (c : Char) : Bool := (t.row? c).isSome

/-- What a character goes to, if the table has it. -/
def target? (t : CharTable) (c : Char) : Option (List Nat) :=
  (t.row? c).map fun r => r.targetOf c.toNat

end CharTable

end Text

end LanguageClient
