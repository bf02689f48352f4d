import LanguageClient.Text.Basic
namespace LanguageClient

/-!
# Positions

A position is a line and a column in UTF-16 units. Reading a character advances it, so the
position of an offset is what the characters before it advance the origin to. Lines past the end
stand for the last line and columns past the end of a line for that end.
-/

structure Position where
  line : Nat
  character : Nat
deriving DecidableEq, Repr, Inhabited

structure Range where
  start : Position
  stop : Position
deriving DecidableEq, Repr, Inhabited

namespace Position

def origin : Position := ⟨0, 0⟩

/-- A newline starts the next line; any other character moves right by its UTF-16 units. -/
def advance (p : Position) (c : Char) : Position :=
  if c = '\n' then ⟨p.line + 1, 0⟩ else ⟨p.line, p.character + Text.charUnits c⟩

/-- Document order: by line, then by column. -/
def before (p q : Position) : Bool :=
  p.line < q.line || (p.line == q.line && p.character < q.character)

instance : LT Position := ⟨fun p q => p.before q⟩
instance : LE Position := ⟨fun p q => ¬ q.before p⟩
instance (p q : Position) : Decidable (p < q) := inferInstanceAs (Decidable (p.before q = true))
instance (p q : Position) : Decidable (p ≤ q) :=
  inferInstanceAs (Decidable (¬ q.before p = true))

end Position

namespace Text

/-- The position of a byte offset. -/
def position (t : Text) (offset : Nat) : Position :=
  (takeBytes t offset).foldl Position.advance Position.origin

/-- What follows the first newline. -/
def afterNewline? : Text → Option Text
  | [] => none
  | c :: r => if c = '\n' then some r else afterNewline? r

/-- The text from the start of the given line on, or of the last line if there are fewer. -/
def fromLine (t : Text) : Nat → Text
  | 0 => t
  | n + 1 =>
    match afterNewline? t with
    | none => t
    | some r => fromLine r n

/-- The bytes of the current line before the first character that starts at or past a column. -/
def columnOffset : Text → Nat → Nat
  | [], _ => 0
  | c :: r, column =>
    if c = '\n' ∨ column = 0 then 0 else c.utf8Size + columnOffset r (column - charUnits c)

/-- The byte offset of a position. -/
def offset (t : Text) (p : Position) : Nat :=
  let rest := fromLine t p.line
  byteLength t - byteLength rest + columnOffset rest p.character

/-- The byte offsets of a range, the smaller first. -/
def offsets (t : Text) (r : Range) : Nat × Nat :=
  let start := offset t r.start
  let stop := offset t r.stop
  (min start stop, max start stop)

/-- The range between two byte offsets. -/
def range (t : Text) (start stop : Nat) : Range := ⟨position t start, position t stop⟩

@[simp] theorem position_append (s t : Text) :
    position (s ++ t) (byteLength s) =
      (takeBytes t 0).foldl Position.advance (s.foldl Position.advance Position.origin) := by
  simp [position]

end Text

/-!
## Changes of a text

The editor reports a change after the fact: at `offset`, `removed` gave way to `inserted`. The
server wants the range that `removed` took up before. Both texts agree before `offset`, so that
range starts at the position of `offset`, and its end is counted from there on in what was removed.
-/

structure TextChange where
  offset : Nat
  removed : Text
  inserted : Text
deriving DecidableEq, Repr

namespace Text

/-- What follows the last newline. -/
def openLine (t : Text) : Text := (t.reverse.takeWhile (· ≠ '\n')).reverse

/-- The column that a removed text ends in, from the one it starts in: within a line it moves on,
and a newline makes it start anew. -/
def endColumn (removed : Text) (start : Nat) : Nat :=
  if removed.getLast? = some '\n' then 0
  else if removed.count '\n' = 0 then start + units removed
  else units (openLine removed)

/-- The range taken up by `removed` before it gave way at `offset`, found in the text after. -/
def replacedRange (after : Text) (offset : Nat) (removed : Text) : Range :=
  let start := position after offset
  if removed = [] then ⟨start, start⟩
  else ⟨start, ⟨start.line + removed.count '\n', endColumn removed start.character⟩⟩

end Text

/-- One change of a document as a server is told of it: of a range, or of the whole text. -/
structure ContentChange where
  range : Option Range
  /-- The UTF-16 length of the replaced text. -/
  rangeLength : Option Nat
  text : Text
deriving DecidableEq, Repr

namespace ContentChange

/-- Replaces the whole text. -/
def whole (text : Text) : ContentChange := ⟨none, none, text⟩

/-- Describes a change of the editor, given the text after it. -/
def incremental (after : Text) (change : TextChange) : ContentChange :=
  ⟨some (after.replacedRange change.offset change.removed), some change.removed.units,
    change.inserted⟩

/-- What a server that follows the changes makes of its copy. -/
def replay (copy : Text) (change : ContentChange) : Text :=
  match change.range with
  | none => change.text
  | some r => copy.splice (copy.offset r.start) (copy.offset r.stop) change.text

end ContentChange

end LanguageClient
