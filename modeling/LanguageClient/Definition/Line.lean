import LanguageClient.Text.Blank
namespace LanguageClient

/-!
# Command lines

Arguments are set apart by spaces outside quotes. Quotes stay in the arguments; a backslash is
dropped and takes the meaning off the next character. A quote or a backslash that is open at the
end of an element goes on in the next one, across a space. `escape` guards an argument so that
it is read back as it was.
-/

namespace Arguments

structure State where
  /-- The arguments read so far, last first. -/
  done : List Text
  /-- The characters of the current one, last first. -/
  current : Text
  quote : Option Char
  escaped : Bool
deriving DecidableEq, Repr

namespace State

def start : State := ⟨[], [], none, false⟩

/-- Ends the current argument, unless it is empty. -/
def cut (s : State) : State :=
  if s.current = [] then s else { s with done := s.current.reverse :: s.done, current := [] }

def keep (s : State) (c : Char) : State := { s with current := c :: s.current }

def step (s : State) (c : Char) : State :=
  if s.escaped then { s.keep c with escaped := false }
  else if c = '\\' then { s with escaped := true }
  else if c = '\'' ∨ c = '"' then
    match s.quote with
    | none => { s.keep c with quote := some c }
    | some q => if q = c then { s.keep c with quote := none } else s.keep c
  else if c = ' ' ∧ s.quote = none then s.cut
  else s.keep c

/-- The end of an element: an open quote or backslash goes on after a space. -/
def endElement (s : State) : State :=
  if s.quote ≠ none ∨ s.escaped = true then { s.keep ' ' with escaped := false } else s.cut

def element (s : State) (t : Text) : State := (t.foldl step s).endElement

/-- The arguments; one left open loses its trailing white space. -/
def finish (s : State) : List Text :=
  if s.current = [] then s.done.reverse
  else s.done.reverse ++ [Text.trimEnd s.current.reverse]

end State

/-- The arguments of a command line given in elements. -/
def parse (elements : List Text) : List Text :=
  (elements.foldl State.element State.start).finish

def isSpecial (c : Char) : Bool := c == ' ' || c == '\'' || c == '"' || c == '\\'

/-- Puts a backslash before every character that `parse` treats specially. -/
def escape (t : Text) : Text := t.flatMap fun c => if isSpecial c then ['\\', c] else [c]

end Arguments

/-!
## CSV records

One record on one line: a field that holds a comma, a quote or a line end stands in quotes, with
its own quotes doubled. Reading drops line ends after the record, takes a quote at the start of a
field as an opening one, and refuses a record whose last quote stays open.
-/

namespace Csv

def isLineEnd (c : Char) : Bool := c == '\r' || c == '\n'

def isSpecial (c : Char) : Bool := c == ',' || c == '"' || isLineEnd c

/-- Writes every quote twice. -/
def doubleQuotes (t : Text) : Text := t.flatMap fun c => if c = '"' then ['"', '"'] else [c]

def encodeField (t : Text) : Text :=
  if t.any isSpecial then '"' :: (doubleQuotes t ++ ['"']) else t

def encode (fields : List Text) : Text := Text.joinWith [','] (fields.map encodeField)

/-- Reads the fields from inside one, whose characters so far stand last first; nothing when a
quote stays open. -/
def fields? : Text → (quoted : Bool) → (current : Text) → Option (List Text)
  | [], true, _ => none
  | [], false, current => some [current.reverse]
  | '"' :: '"' :: r, true, current => fields? r true ('"' :: current)
  | c :: r, true, current =>
    if c = '"' then fields? r false current else fields? r true (c :: current)
  | c :: r, false, current =>
    if c = '"' ∧ current = [] then fields? r true current
    else if c = ',' then (fields? r false []).map (current.reverse :: ·)
    else fields? r false (c :: current)

def decode? (line : Text) : Option (List Text) :=
  fields? (line.reverse.dropWhile isLineEnd).reverse false []

end Csv

end LanguageClient
