import LanguageClient.Text.Basic
namespace LanguageClient

/-!
# Snippets

A snippet template is literal text with tab stops: bare `$n`, empty `${n}` and placeholders
`${n:body}` whose body is a template again. `Template.render` writes one,
`Template.expand` gives the text to insert and the tab stops in order of appearance, an
outer one before those inside it.
-/

/-- A tab stop, with byte offsets into the text of its snippet. -/
structure TabStop where
  start : Nat
  stop : Nat
  number : Nat
  placeholder : Text
deriving DecidableEq, Repr

/-- The text to insert and its tab stops, in order of appearance. -/
structure Snippet where
  text : Text
  stops : List TabStop
deriving DecidableEq, Repr

namespace Snippet

inductive Piece where
  | literal (c : Char)
  | bare (number : Nat)
  | empty (number : Nat)
  | placeholder (number : Nat) (body : List Piece)

abbrev Template := List Piece

/-- The text shown for a bare tab stop: the final stop 0 shows none. -/
def bareText (number : Nat) : Text := if number = 0 then [] else ['.', '.', '.']

mutual

/-- The text of a piece that is inserted at a byte offset, and its tab stops. -/
def Piece.expand : Piece → Nat → Snippet
  | .literal c, _ => ⟨[c], []⟩
  | .bare n, at_ =>
    ⟨bareText n, [⟨at_, at_ + (bareText n).byteLength, n, bareText n⟩]⟩
  | .empty n, at_ => ⟨[], [⟨at_, at_, n, []⟩]⟩
  | .placeholder n body, at_ =>
    let inner := expandAll body at_
    ⟨inner.text, ⟨at_, at_ + inner.text.byteLength, n, inner.text⟩ :: inner.stops⟩

/-- The text of consecutive pieces, and their tab stops. -/
def expandAll : List Piece → Nat → Snippet
  | [], _ => ⟨[], []⟩
  | p :: ps, at_ =>
    let first := p.expand at_
    let rest := expandAll ps (at_ + first.text.byteLength)
    ⟨first.text ++ rest.text, first.stops ++ rest.stops⟩

end

/-- The snippet of a template. -/
def Template.expand (t : Template) : Snippet := expandAll t 0

/-- A backslash stands before a dollar sign, a closing brace and a backslash. -/
def escape (c : Char) : Text := if c = '$' ∨ c = '\x7d' ∨ c = '\\' then ['\\', c] else [c]

mutual

def Piece.render : Piece → Text
  | .literal c => escape c
  | .bare n => '$' :: Nat.toDigits 10 n
  | .empty n => '$' :: '\x7b' :: (Nat.toDigits 10 n ++ ['\x7d'])
  | .placeholder n body =>
    '$' :: '\x7b' :: (Nat.toDigits 10 n ++ ':' :: (renderAll body ++ ['\x7d']))

def renderAll : List Piece → Text
  | [] => []
  | p :: ps => p.render ++ renderAll ps

end

/-- The text that a template is written as. -/
def Template.render (t : Template) : Text := renderAll t

def hasTabStops (s : Snippet) : Bool := !s.stops.isEmpty

@[simp] theorem expandAll_nil (at_ : Nat) : expandAll [] at_ = ⟨[], []⟩ := by
  simp [expandAll]

theorem expandAll_literals (t : Text) (at_ : Nat) :
    expandAll (t.map Piece.literal) at_ = ⟨t, []⟩ := by
  induction t generalizing at_ with
  | nil => simp
  | cons c t ih => simp [expandAll, Piece.expand, ih]

end Snippet

/-!
## Reading snippets

What does not form a tab stop is literal: a dollar sign without a number, a number of more than
32 bits, a variable name. An unterminated placeholder makes the whole rest literal, from the
outermost one on. `Snippet.parse` therefore accepts every text.
-/

namespace Snippet

/-- What a dollar sign begins. -/
inductive Opening where
  | bare (number : Nat)
  | empty (number : Nat)
  | placeholder (number : Nat)

def isDigit (c : Char) : Bool := '0' ≤ c && c ≤ '9'

/-- A run of digits as a number of 32 bits. -/
def number? (t : Text) : Option (Nat × Text) :=
  match t.takeWhile isDigit with
  | [] => none
  | ds =>
    let n := ds.foldl (fun n c => n * 10 + (c.toNat - 48)) 0
    if n < UInt32.size then some (n, t.dropWhile isDigit) else none

/-- Reads what follows a dollar sign. -/
def opening? : Text → Option (Opening × Text)
  | '\x7b' :: r => do
    let (n, r) ← number? r
    match r with
    | '\x7d' :: r => some (.empty n, r)
    | ':' :: r => some (.placeholder n, r)
    | _ => none
  | r => do
    let (n, r) ← number? r
    some (.bare n, r)

/-- Whether a backslash takes the meaning off a character. -/
def isEscapable (c : Char) : Bool := c == '$' || c == '\x7d' || c == '\\'

/-- The pieces up to the end of the text or, in a placeholder, up to its closing brace, and what
follows that; nothing when the brace is missing. -/
def pieces? : Nat → Bool → Text → Option (Template × Text)
  | 0, _, _ => none
  | _ + 1, nested, [] => if nested then none else some ([], [])
  | fuel + 1, nested, c :: r =>
    let go (p : Piece) (rest : Text) : Option (Template × Text) :=
      (pieces? fuel nested rest).map fun q => (p :: q.1, q.2)
    if c = '\\' then
      match r with
      | d :: r' => if isEscapable d then go (.literal d) r' else go (.literal '\\') r
      | [] => go (.literal '\\') []
    else if c = '\x7d' ∧ nested = true then some ([], r)
    else if c = '$' then
      match opening? r with
      | none => go (.literal '$') r
      | some (.bare n, r) => go (.bare n) r
      | some (.empty n, r) => go (.empty n) r
      | some (.placeholder n, rest) =>
        match pieces? fuel true rest with
        | some (body, rest) => go (.placeholder n body) rest
        | none => if nested then none else some (('$' :: r).map .literal, [])
    else go (.literal c) r

/-- The template of a text. -/
def template (t : Text) : Template :=
  match pieces? (t.length + 1) false t with
  | some (ps, _) => ps
  | none => t.map .literal

/-- The snippet of a text. -/
def parse (t : Text) : Snippet := (template t).expand

end Snippet

end LanguageClient
