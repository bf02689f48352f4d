import LanguageClient.Text.Blank
import LanguageClient.Text.Composition
import LanguageClient.Text.Direction
import LanguageClient.Text.Joining
import LanguageClient.Uri.Domain.Table
import LanguageClient.Uri.Punycode
namespace LanguageClient

/-!
# Internationalised host names

A host name is brought to one form before it is looked at: letters in lower case, plain and
composed, labels in Punycode decoded. `Uri.Domain.labels?` gives the labels of that form, for the
names that UTS #46 accepts.
-/

namespace Uri.Domain

/-- The plain characters that no host name may hold. -/
def isDenied (c : Char) : Bool :=
  c.toNat ≤ 0x20 || c.toNat == 0x7F ||
    ['#', '%', '/', ':', '<', '>', '?', '@', '[', '\\', ']', '^', '|'].elem c

def isPermitted (c : Char) : Bool := !isDenied c && permitted.contains c

/-- A name with each character replaced, and composed. -/
def plainForm (t : Text) : Text :=
  Text.compose (t.flatMap fun c =>
    match replacements.target? c with
    | some codes => codes.map Char.ofNat
    | none => [c])

/-- What follows the `xn--` of a label is no longer than this. -/
def maxEncodedLength : Nat := 2000

/-- A label that needs the encoding is no longer than this. -/
def maxLength : Nat := 1000

def isPlain (t : Text) : Bool := t.all (·.val < 128)

/-- What a label in Punycode stands for: text in its plain form that needs the encoding. -/
def decodeLabel? (t : Text) : Option Text :=
  match t with
  | 'x' :: 'n' :: '-' :: '-' :: r =>
    if maxEncodedLength < r.length then none
    else
      match Punycode.decode? r with
      | none => none
      | some label =>
        if isPlain label || r.getLast? == some '-' || Text.compose label != label then none
        else some label
  | _ => some t

def zeroWidthNonJoiner : Char := '\u200C'
def zeroWidthJoiner : Char := '\u200D'

/-- The combining class of the signs that mute the vowel of a consonant. -/
def virama : Nat := 9

/-- Whether each joiner stands after a virama or, if it parts letters, between letters that would
join. The text before is given last character first. -/
def joinersFit (before : Text) : Text → Bool
  | [] => true
  | c :: r =>
    let afterVirama := (before.head?.map Text.Composition.combiningClass) == some virama
    (if c = zeroWidthJoiner then afterVirama
      else if c = zeroWidthNonJoiner then afterVirama || Text.Joining.joinsAcross before r
      else true) && joinersFit (c :: before) r

def isLabel (t : Text) : Bool :=
  t.all isPermitted && !(t.head?.map Text.isMark).getD false && joinersFit [] t &&
    (isPlain t || decide (t.length ≤ maxLength))

open Text (Direction)

/-- A name with such a character is written in both directions. -/
def runsRightToLeft (d : Direction) : Bool :=
  d == .rightToLeft || d == .arabicLetter || d == .arabicNumber

/-- The classes that may stand in any label. -/
def isInner (d : Direction) : Bool :=
  [.europeanNumber, .europeanSeparator, .commonSeparator, .europeanTerminator, .otherNeutral,
    .boundaryNeutral, .nonspacingMark].elem d

/-- Whether a label can be shown in a name that is written in both directions (RFC 5893). -/
def isOrderly (t : Text) : Bool :=
  let ds := t.map Direction.ofChar
  let last := (ds.reverse.dropWhile (· == .nonspacingMark)).head?
  match ds with
  | [] => true
  | .leftToRight :: _ =>
    ds.all (fun d => isInner d || d == .leftToRight) &&
      (last == some .leftToRight || last == some .europeanNumber)
  | first :: _ =>
    (first == .rightToLeft || first == .arabicLetter) &&
      ds.all (fun d => isInner d || runsRightToLeft d) &&
      (last.map fun d => runsRightToLeft d || d == .europeanNumber).getD false &&
      !(ds.elem .europeanNumber && ds.elem .arabicNumber)

/-- The labels of a name, decoded; none if the name is not valid. -/
def labels? (name : Text) : Option (List Text) := do
  let labels ← (Text.splitOnChar '.' (plainForm name)).mapM decodeLabel?
  if labels.all isLabel &&
      (!(labels.any fun t => t.any fun c => runsRightToLeft (Direction.ofChar c)) ||
        labels.all isOrderly) then
    some labels
  else none

end Uri.Domain

end LanguageClient
