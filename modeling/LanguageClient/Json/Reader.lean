import LanguageClient.Json.Basic
import LanguageClient.Json.Binary64
namespace LanguageClient

/-!
# Reading JSON

`Json.read?` reads exactly one value, with white space around it. It refuses control characters
and lone surrogates in strings, numbers too large to keep, and values nested deeper than
`Json.maxDepth`. A reader that needs only some members of a record says so by an outline: the
others are held against the grammar alone.
-/

namespace Json

/-- The deepest nesting of arrays and objects that is read. -/
def maxDepth : Nat := 127

namespace Reader

def isSpace (c : Char) : Bool := c == ' ' || c == '\n' || c == '\t' || c == '\r'

def skipSpace (t : Text) : Text := t.dropWhile isSpace

def hexDigit? (c : Char) : Option Nat :=
  if '0' ≤ c ∧ c ≤ '9' then some (c.toNat - 48)
  else if 'a' ≤ c ∧ c ≤ 'f' then some (c.toNat - 87)
  else if 'A' ≤ c ∧ c ≤ 'F' then some (c.toNat - 55)
  else none

/-- Four hexadecimal digits. -/
def unit? : Text → Option (Nat × Text)
  | a :: b :: c :: d :: r => do
    let a ← hexDigit? a
    let b ← hexDigit? b
    let c ← hexDigit? c
    let d ← hexDigit? d
    some (((a * 16 + b) * 16 + c) * 16 + d, r)
  | _ => none

/-- The character of one or two UTF-16 units; a surrogate alone has none. -/
def escapedUnits? (t : Text) : Option (Char × Text) := do
  let (high, r) ← unit? t
  if 0xD800 ≤ high ∧ high < 0xDC00 then
    match r with
    | '\\' :: 'u' :: r =>
      let (low, r) ← unit? r
      if 0xDC00 ≤ low ∧ low < 0xE000 then
        some (Char.ofNat (0x10000 + (high - 0xD800) * 0x400 + (low - 0xDC00)), r)
      else none
    | _ => none
  else if 0xDC00 ≤ high ∧ high < 0xE000 then none
  else some (Char.ofNat high, r)

/-- What follows a backslash. -/
def escape? : Text → Option (Char × Text)
  | '"' :: r => some ('"', r)
  | '\\' :: r => some ('\\', r)
  | '/' :: r => some ('/', r)
  | 'b' :: r => some ('\x08', r)
  | 'f' :: r => some ('\x0c', r)
  | 'n' :: r => some ('\n', r)
  | 'r' :: r => some ('\r', r)
  | 't' :: r => some ('\t', r)
  | 'u' :: r => escapedUnits? r
  | _ => none

/-- The rest of a string after its opening quote. -/
def string? : Nat → Text → Option (Text × Text)
  | 0, _ => none
  | _ + 1, [] => none
  | fuel + 1, c :: r =>
    if c = '"' then some ([], r)
    else if c = '\\' then do
      let (c, r) ← escape? r
      let (s, r) ← string? fuel r
      some (c :: s, r)
    else if c.val < 0x20 then none
    else do
      let (s, r) ← string? fuel r
      some (c :: s, r)

def isDigit (c : Char) : Bool := '0' ≤ c && c ≤ '9'

def decimal (digits : Text) : Nat := digits.foldl (fun n c => n * 10 + (c.toNat - 48)) 0

/-- One or more digits. -/
def digits? (t : Text) : Option (Text × Text) :=
  match t.takeWhile isDigit with
  | [] => none
  | ds => some (ds, t.dropWhile isDigit)

/-- The digits before the point: no zero stands before another digit. -/
def whole? (t : Text) : Option (Text × Text) := do
  let (ds, r) ← digits? t
  match ds with
  | '0' :: _ :: _ => none
  | _ => some (ds, r)

/-- The digits after the point, if there is one. -/
def fraction? : Text → Option (Text × Text)
  | '.' :: r => digits? r
  | t => some ([], t)

/-- The exponent, if there is one. -/
def exponent? : Text → Option (Option Int × Text)
  | c :: r =>
    if c = 'e' ∨ c = 'E' then
      match r with
      | '+' :: r => (digits? r).map fun p => (some (decimal p.1 : Int), p.2)
      | '-' :: r => (digits? r).map fun p => (some (-(decimal p.1 : Int)), p.2)
      | r => (digits? r).map fun p => (some (decimal p.1 : Int), p.2)
    else some (none, c :: r)
  | [] => some (none, [])

/-- Appends digits to a number of 64 bits as long as it stays one; gives how many it took. -/
def appendDigits (n : Nat) : Text → Nat × Nat
  | [] => (n, 0)
  | c :: r =>
    let next := n * 10 + (c.toNat - 48)
    if next < UInt64.size then
      let (m, count) := appendDigits next r
      (m, count + 1)
    else (n, 0)

/-- A number with a fraction or an exponent, or beyond 64 bits, from its digits before and after
the point. Only so many digits count as 64 bits hold. -/
def real? (negative : Bool) (whole fraction : Text) (exponent : Int) : Option Json := do
  let (n, count) := appendDigits 0 whole
  let (n, places) := appendDigits n fraction
  let magnitude ← Binary64.ofDecimal? n (exponent + (whole.length - count : Nat) - places)
  let text := Binary64.write magnitude
  some (real (String.ofList (if negative then '-' :: text else text)))

/-- A number: an integer of 64 bits exactly, any other rounded. -/
def number? (t : Text) : Option (Json × Text) := do
  let (negative, u) := match t with
    | '-' :: r => (true, r)
    | _ => (false, t)
  let (ws, u) ← whole? u
  let (fs, u) ← fraction? u
  let (e, u) ← exponent? u
  let n := decimal ws
  if fs = [] ∧ e = none ∧ (if negative then 0 < n ∧ n ≤ UInt64.size / 2 else n < UInt64.size) then
    some (int (if negative then -(n : Int) else n), u)
  else (real? negative ws fs (e.getD 0)).map fun v => (v, u)

/-- What follows a fixed word. -/
def word? : Text → Text → Option Text
  | [], t => some t
  | c :: w, d :: t => if c = d then word? w t else none
  | _ :: _, [] => none

/-- What follows a string after its opening quote, if it is well formed. -/
def skipString? : Text → Option Text
  | [] => none
  | '"' :: r => some r
  | '\\' :: 'u' :: a :: b :: c :: d :: r =>
    if [a, b, c, d].all fun x => (hexDigit? x).isSome then skipString? r else none
  | '\\' :: c :: r =>
    if ['"', '\\', '/', 'b', 'f', 'n', 'r', 't'].elem c then skipString? r else none
  | c :: r => if c.val < 0x20 then none else skipString? r

/-- What follows a key in quotes and its colon. -/
def skipKey? (t : Text) : Option Text :=
  match skipSpace t with
  | '"' :: r => do
    match skipSpace (← skipString? r) with
    | ':' :: r => some r
    | _ => none
  | _ => none

/-- What follows a value that is no array and no object. -/
def skipScalar? (t : Text) : Option Text :=
  match t with
  | 'n' :: r => word? ['u', 'l', 'l'] r
  | 't' :: r => word? ['r', 'u', 'e'] r
  | 'f' :: r => word? ['a', 'l', 's', 'e'] r
  | '"' :: r => skipString? r
  | _ => do
    let u := match t with
      | '-' :: r => r
      | r => r
    let (_, u) ← whole? u
    let (_, u) ← fraction? u
    let (_, u) ← exponent? u
    some u

/-- What follows a value that ended, and the brackets to be closed before the next one starts. -/
def skipEnds? : (closers : List Char) → Text → Option (List Char × Text)
  | [], t => some ([], t)
  | closer :: rest, t =>
    match skipSpace t with
    | ',' :: r =>
      if closer = ']' then some (closer :: rest, r)
      else (skipKey? r).map fun r => (closer :: rest, r)
    | c :: r => if c = closer then skipEnds? rest r else none
    | [] => none

/-- What follows a value, and the closing of the given brackets, which it stands in. The value is
held against the grammar only, at any depth. -/
def skip? : (fuel : Nat) → (closers : List Char) → Text → Option Text
  | 0, _, _ => none
  | fuel + 1, closers, t => do
    let (closers, r) ← match skipSpace t with
      | '[' :: r =>
        match skipSpace r with
        | ']' :: r => skipEnds? closers r
        | _ => some (']' :: closers, r)
      | '\x7b' :: r =>
        match skipSpace r with
        | '\x7d' :: r => skipEnds? closers r
        | _ => (skipKey? r).map fun r => ('\x7d' :: closers, r)
      | r => (skipScalar? r).bind (skipEnds? closers)
    if closers.isEmpty then some r else skip? fuel closers r

end Reader

/-- What of a value matters to its reader. -/
inductive Outline where
  | whole
  /-- The members of these names; in an array they stand in this order. -/
  | record (fields : List (String × Outline))
  | items (each : Outline)

namespace Outline

/-- The record of members that matter as a whole. -/
def ofNames (names : List String) : Outline := record (names.map fun name => (name, whole))

/-- What matters of a member; none if it does not. -/
def member? : Outline → String → Option Outline
  | record fields, name => (fields.find? fun f => f.1 == name).map (·.2)
  | _, _ => some whole

/-- What matters of the item at a place. -/
def item : Outline → Nat → Outline
  | whole, _ => whole
  | record fields, place => (fields[place]?.map (·.2)).getD whole
  | items each, _ => each

end Outline

namespace Reader

/-- The items of an array from a place on, up to the closing bracket. -/
def items? (value? : Nat → Text → Option (Json × Text)) :
    (fuel place : Nat) → Text → Option (List Json × Text)
  | 0, _, _ => none
  | fuel + 1, place, t => do
    let (v, r) ← value? place t
    match skipSpace r with
    | ',' :: r =>
      let (vs, r) ← items? value? fuel (place + 1) r
      some (v :: vs, r)
    | ']' :: r => some ([v], r)
    | _ => none

/-- A key in quotes, a colon and a value; none in place of a member that does not matter. -/
def member? (value? : String → Option (Text → Option (Json × Text))) (t : Text) :
    Option (Option (String × Json) × Text) := do
  match skipSpace t with
  | '"' :: r =>
    let (k, r) ← string? (r.length + 1) r
    match skipSpace r with
    | ':' :: r =>
      match value? (String.ofList k) with
      | some value? =>
        let (v, r) ← value? r
        some (some (String.ofList k, v), r)
      | none =>
        let r ← skip? (r.length + 1) [] r
        some (none, r)
    | _ => none
  | _ => none

/-- The members of an object after its brace, up to the closing one. -/
def members? (value? : String → Option (Text → Option (Json × Text))) :
    Nat → Text → Option (List (String × Json) × Text)
  | 0, _ => none
  | fuel + 1, t => do
    let (m, r) ← member? value? t
    match skipSpace r with
    | ',' :: r =>
      let (ms, r) ← members? value? fuel r
      some (m.toList ++ ms, r)
    | '\x7d' :: r => some (m.toList, r)
    | _ => none

/-- What matters of a value that nests at most `depth` deep, and what follows it. -/
def value? : Nat → Outline → Text → Option (Json × Text)
  | depth, outline, t =>
    match skipSpace t with
    | 'n' :: r => (word? ['u', 'l', 'l'] r).map fun r => (null, r)
    | 't' :: r => (word? ['r', 'u', 'e'] r).map fun r => (bool true, r)
    | 'f' :: r => (word? ['a', 'l', 's', 'e'] r).map fun r => (bool false, r)
    | '"' :: r => (string? (r.length + 1) r).map fun p => (str (String.ofList p.1), p.2)
    | '[' :: r =>
      match depth with
      | 0 => none
      | depth + 1 =>
        match skipSpace r with
        | ']' :: r => some (arr [], r)
        | r =>
          (items? (fun place => value? depth (outline.item place)) (r.length + 1) 0 r).map
            fun p => (arr p.1, p.2)
    | '\x7b' :: r =>
      match depth with
      | 0 => none
      | depth + 1 =>
        match skipSpace r with
        | '\x7d' :: r => some (obj [], r)
        | r =>
          (members? (fun name => (outline.member? name).map (value? depth)) (r.length + 1) r).map
            fun p => (obj p.1, p.2)
    | r => number? r

end Reader

/-- Reads what matters of a text that holds one value, the members in the order and number they are
written. -/
def readOutline? (outline : Outline) (t : Text) : Option Json := do
  let (v, r) ← Reader.value? maxDepth outline t
  match Reader.skipSpace r with
  | [] => some v
  | _ => none

/-- Reads a text that holds one value. -/
def read? (t : Text) : Option Json := (readOutline? .whole t).map canonical

end Json

end LanguageClient
