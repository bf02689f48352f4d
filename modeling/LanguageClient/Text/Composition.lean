import LanguageClient.Text.Composition.Table
namespace LanguageClient

/-!
# Canonical composition

Several sequences of characters can stand for one letter with its marks. `Text.compose` picks one:
composed characters are taken apart, marks are put in the order of their classes, and what can be
composed is composed again. This is the normal form C of Unicode.
-/

namespace Text

namespace Composition

/-- The canonical combining class: zero for a character that starts a group. -/
def combiningClass (c : Char) : Nat :=
  match combiningClasses.target? c with
  | some (k :: _) => k
  | _ => 0

def firstLead : Nat := 0x1100
def firstVowel : Nat := 0x1161
def firstSyllable : Nat := 0xAC00

/-- The code point before the first trailing consonant; a syllable may do without one. -/
def noTrail : Nat := 0x11A7

def leadCount : Nat := 19
def vowelCount : Nat := 21
def trailCount : Nat := 28

def isSyllable (n : Nat) : Bool :=
  firstSyllable ≤ n && n < firstSyllable + leadCount * vowelCount * trailCount

/-- The letters of a Hangul syllable, which is numbered by them. -/
def syllableParts? (c : Char) : Option Text :=
  if isSyllable c.toNat then
    let i := c.toNat - firstSyllable
    let lead := Char.ofNat (firstLead + i / (vowelCount * trailCount))
    let vowel := Char.ofNat (firstVowel + i / trailCount % vowelCount)
    if i % trailCount = 0 then some [lead, vowel]
    else some [lead, vowel, Char.ofNat (noTrail + i % trailCount)]
  else none

/-- The syllable of a leading consonant and a vowel, or of those and a trailing consonant. -/
def syllable? (a b : Char) : Option Char :=
  let m := a.toNat
  let n := b.toNat
  if firstLead ≤ m ∧ m < firstLead + leadCount ∧ firstVowel ≤ n ∧ n < firstVowel + vowelCount then
    some (Char.ofNat
      (firstSyllable + ((m - firstLead) * vowelCount + (n - firstVowel)) * trailCount))
  else if isSyllable m ∧ (m - firstSyllable) % trailCount = 0 ∧ noTrail < n ∧
      n < noTrail + trailCount then
    some (Char.ofNat (m + (n - noTrail)))
  else none

/-- The character composed of two. -/
def pair? (a b : Char) : Option Char :=
  match composites.rows.find? fun r => r.target == [a.toNat, b.toNat] with
  | some r => some (Char.ofNat r.first)
  | none => syllable? a b

/-- A character taken apart; its parts are taken apart at most `depth` times. -/
def parts : (depth : Nat) → Char → Text
  | 0, c => [c]
  | depth + 1, c =>
    match composites.target? c with
    | some codes => codes.flatMap fun n => parts depth (Char.ofNat n)
    | none => (syllableParts? c).getD [c]

/-- Puts a mark in its place at the end of a text, which is given last character first. -/
def placeMark (k : Nat) (c : Char) : Text → Text
  | [] => [c]
  | d :: r => if k < combiningClass d then d :: placeMark k c r else c :: d :: r

/-- Puts the marks of each group in the order of their classes. -/
def orderMarks (t : Text) : Text :=
  (t.foldl
    (fun done c =>
      let k := combiningClass c
      if k = 0 then c :: done else placeMark k c done)
    []).reverse

/-- A group that is being composed: its first character and the marks it keeps, last mark first. -/
structure Group where
  starter : Char
  marks : Text

def Group.text (g : Group) : Text := g.starter :: g.marks.reverse

/-- Whether no kept mark stands between the first character and one of class `k`. -/
def Group.reaches (g : Group) (k : Nat) : Bool :=
  match g.marks with
  | [] => true
  | d :: _ => decide (combiningClass d < k)

/-- Composes what follows a group. -/
def composeFrom (g : Group) : Text → Text
  | [] => g.text
  | c :: r =>
    let k := combiningClass c
    match if g.reaches k then pair? g.starter c else none with
    | some whole => composeFrom { g with starter := whole } r
    | none =>
      if k = 0 then g.text ++ composeFrom ⟨c, []⟩ r
      else composeFrom { g with marks := c :: g.marks } r

/-- Marks before the first group stay as they are. -/
def composeMarked : Text → Text
  | [] => []
  | c :: r => if combiningClass c = 0 then composeFrom ⟨c, []⟩ r else c :: composeMarked r

/-- A composed character holds no more than this many others within each other. -/
def maxDepth : Nat := 8

end Composition

/-- The normal form C of a text. -/
def compose (t : Text) : Text :=
  Composition.composeMarked
    (Composition.orderMarks (t.flatMap (Composition.parts Composition.maxDepth)))

end Text

end LanguageClient
