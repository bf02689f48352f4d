import LanguageClient.Text.Basic
import LanguageClient.Text.Blank
namespace LanguageClient

/-!
# Glob patterns

A question mark matches any character, a star any text, a class in brackets one of its characters
or, after an exclamation mark, any other. Two stars are a path component of their own and match
any number of components. Slashes and leading dots are characters like others.
-/

namespace Glob

/-- The characters from `first` to `last`. -/
structure CharRange where
  first : Char
  last : Char
deriving DecidableEq, Repr

inductive Token where
  | literal (c : Char)
  | anyChar
  | anyText
  | anyComponents
  | oneOf (ranges : List CharRange)
  | noneOf (ranges : List CharRange)
deriving DecidableEq, Repr

abbrev Pattern := List Token

/-- The ranges of a class: `a-z`, or single characters. -/
def ranges : Text → List CharRange
  | a :: '-' :: c :: r => ⟨a, c⟩ :: ranges r
  | c :: r => ⟨c, c⟩ :: ranges r
  | [] => []

/-- A class after its opening bracket: at least one character, then a closing bracket. -/
def class? (t : Text) : Option (Text × Text) :=
  match t with
  | [] => none
  | c :: r =>
    match r.dropWhile (· ≠ ']') with
    | [] => none
    | _ :: rest => some (c :: r.takeWhile (· ≠ ']'), rest)

/-- Reads the rest of a pattern, given what stands before it. -/
def parseFrom : Nat → (previous : Option Char) → (tokens : List Token) → Text → Option Pattern
  | 0, _, _, _ => none
  | _ + 1, _, tokens, [] => some tokens.reverse
  | fuel + 1, previous, tokens, c :: r =>
    if c = '?' then parseFrom fuel (some '?') (.anyChar :: tokens) r
    else if c = '*' then
      match r with
      | '*' :: '*' :: _ => none
      | '*' :: rest =>
        if previous = none ∨ previous = some '/' then
          let tokens' := match tokens with
            | .anyComponents :: _ :: _ => tokens
            | _ => .anyComponents :: tokens
          match rest with
          | [] => parseFrom fuel (some '*') tokens' []
          | '/' :: rest => parseFrom fuel (some '/') tokens' rest
          | _ => none
        else none
      | _ => parseFrom fuel (some '*') (.anyText :: tokens) r
    else if c = '[' then
      match r with
      | '!' :: r =>
        match class? r with
        | some (cs, rest) => parseFrom fuel (some ']') (.noneOf (ranges cs) :: tokens) rest
        | none => none
      | r =>
        match class? r with
        | some (cs, rest) => parseFrom fuel (some ']') (.oneOf (ranges cs) :: tokens) rest
        | none => none
    else parseFrom fuel (some c) (.literal c :: tokens) r

/-- Reads a pattern; nothing when a class stays open or stars are misplaced. -/
def parse? (t : Text) : Option Pattern := parseFrom (t.length + 1) none [] t

def CharRange.contains (r : CharRange) (c : Char) : Bool := r.first ≤ c && c ≤ r.last

/-- Whether a token that stands for one character matches it. -/
def Token.accepts (c : Char) : Token → Bool
  | literal d => c == d
  | anyChar => true
  | oneOf rs => rs.any (·.contains c)
  | noneOf rs => !rs.any (·.contains c)
  | anyText => false
  | anyComponents => false

/-- For each ending of a text, from the whole one to the empty one, whether it is matched. -/
abbrev Outcomes := List Bool

namespace Outcomes

/-- Whether the longest of the endings is matched. -/
def whole (o : Outcomes) : Bool := o.head?.getD false

/-- The empty text is the only ending of each text that is matched. -/
def atEnd (t : Text) : Outcomes := t.map (fun _ => false) ++ [true]

/-- One character before what is matched. -/
def afterChar (token : Token) : Text → Outcomes → Outcomes
  | c :: t, _ :: o => (token.accepts c && whole o) :: afterChar token t o
  | _, _ => [false]

/-- Any text before what is matched. -/
def afterText : Outcomes → Outcomes
  | [] => []
  | b :: o =>
    let later := afterText o
    (b || whole later) :: later

/-- Any text up to a slash, or all of it, before what is matched. -/
def afterSlash : Text → Outcomes → Outcomes
  | c :: t, _ :: o =>
    let later := afterSlash t o
    (c == '/' && whole o || whole later) :: later
  | _, o => o

/-- Any number of components before what is matched. -/
def afterComponents (t : Text) (o : Outcomes) : Outcomes :=
  List.zipWith (· || ·) o (afterSlash t o)

end Outcomes

/-- Which endings of a text a pattern matches. -/
def Pattern.outcomes (t : Text) : Pattern → Outcomes
  | [] => .atEnd t
  | .anyText :: p => (outcomes t p).afterText
  | .anyComponents :: p => (outcomes t p).afterComponents t
  | token :: p => (outcomes t p).afterChar token t

/-- Whether a pattern matches a whole text. -/
def Pattern.isMatch (p : Pattern) (t : Text) : Bool := (p.outcomes t).whole

end Glob

/-!
## Brace alternatives

Alternatives in braces, set apart by commas, stand for the patterns with one of them in the place of
the braces. The first opening brace goes with the first closing one after it, and every pattern that
comes out is expanded again.
-/

namespace Glob

/-- The text before the first opening brace, the alternatives in it, and the text after the first
closing brace that follows it. -/
def cutBraces? (t : Text) : Option (Text × List Text × Text) := do
  let (before, rest) ← Text.cut? '\x7b' t
  let (inside, after) ← Text.cut? '\x7d' rest
  some (before, Text.splitOnChar ',' inside, after)

theorem cutBraces?_eq_some {t before after : Text} {alternatives : List Text}
    (h : cutBraces? t = some (before, alternatives, after)) :
    ∃ inside, t = before ++ '\x7b' :: (inside ++ '\x7d' :: after) ∧
      alternatives = Text.splitOnChar ',' inside := by
  simp only [cutBraces?, Option.bind_eq_bind, Option.bind_eq_some_iff, Prod.exists,
    Option.some.injEq, Prod.mk.injEq] at h
  obtain ⟨_, rest, hopen, inside, _, hclose, rfl, rfl, rfl⟩ := h
  obtain ⟨rfl, -⟩ := Text.cut?_eq_some hopen
  obtain ⟨rfl, -⟩ := Text.cut?_eq_some hclose
  exact ⟨inside, rfl, rfl⟩

/-- Every expansion takes an opening brace away. -/
theorem count_lt_of_cutBraces? {t before after a : Text} {alternatives : List Text}
    (h : cutBraces? t = some (before, alternatives, after)) (ha : a ∈ alternatives) :
    (before ++ a ++ after).count '\x7b' < t.count '\x7b' := by
  obtain ⟨inside, rfl, rfl⟩ := cutBraces?_eq_some h
  have hcount := (Text.sublist_of_mem_splitOnChar ha).count_le '\x7b'
  have hafter : after.count '\x7b' ≤ ('\x7d' :: after).count '\x7b' := List.count_le_count_cons
  simp only [List.count_append, List.count_cons_self]
  omega

/-- The patterns that a pattern with brace alternatives stands for, in order of the choices. -/
def expandBraces (t : Text) : List Text :=
  match _ : cutBraces? t with
  | none => [t]
  | some (before, alternatives, after) =>
    alternatives.attach.flatMap fun a => expandBraces (before ++ a.1 ++ after)
termination_by t.count '\x7b'
decreasing_by exact count_lt_of_cutBraces? ‹_› a.2

theorem expandBraces_of_none {t : Text} (h : cutBraces? t = none) : expandBraces t = [t] := by
  rw [expandBraces]
  split
  · rfl
  · next heq => simp [h] at heq

theorem expandBraces_of_some {t before after : Text} {alternatives : List Text}
    (h : cutBraces? t = some (before, alternatives, after)) :
    expandBraces t = alternatives.flatMap fun a => expandBraces (before ++ a ++ after) := by
  rw [expandBraces]
  split
  · next heq => simp [h] at heq
  · next heq =>
    cases h.symm.trans heq
    exact congrArg List.flatten
      (List.attach_map_val (f := fun a => expandBraces (before ++ a ++ after)))

end Glob

end LanguageClient
