import LanguageClient.Proofs.Text.Trim
import LanguageClient.Snippet
namespace LanguageClient

/-!
# Reading snippets back

A template that is written out is read back as it was, so its snippet has the text and the tab stops
that the pieces stand for. What they stand for is told here piece by piece: a tab stop begins where
the text of all that comes before it ends.
-/

/-- The range of a tab stop holds what it shows. -/
def TabStop.StandsIn (stop : TabStop) (t : Text) : Prop :=
  ∃ a b, t = a ++ stop.placeholder ++ b ∧ a.byteLength = stop.start ∧
    a.byteLength + stop.placeholder.byteLength = stop.stop

namespace Snippet

/-! ## What a template stands for -/

mutual

/-- A bare tab stop shows dots unless it is the final one, a placeholder what is in it. -/
def Piece.text : Piece → Text
  | .literal c => [c]
  | .bare n => if n = 0 then [] else ['.', '.', '.']
  | .empty _ => []
  | .placeholder _ body => textAll body

def textAll : List Piece → Text
  | [] => []
  | p :: ps => p.text ++ textAll ps

end

/-- The tab stop that shows a text, with another text before it. -/
def stopAfter (before shown : Text) (number : Nat) : TabStop :=
  ⟨before.byteLength, (before ++ shown).byteLength, number, shown⟩

mutual

/-- The tab stops of a piece with a text before it, an outer one before those inside it. -/
def Piece.stopsAfter : Piece → Text → List TabStop
  | .literal _, _ => []
  | .bare n, before => [stopAfter before (Piece.bare n).text n]
  | .empty n, before => [stopAfter before [] n]
  | .placeholder n body, before => stopAfter before (textAll body) n :: stopsAllAfter body before

def stopsAllAfter : List Piece → Text → List TabStop
  | [], _ => []
  | p :: ps, before => p.stopsAfter before ++ stopsAllAfter ps (before ++ p.text)

end

mutual

theorem Piece.expand_eq (p : Piece) (before : Text) :
    p.expand before.byteLength = ⟨p.text, p.stopsAfter before⟩ := by
  cases p with
  | literal c => simp [Piece.expand, Piece.text, Piece.stopsAfter]
  | bare n => simp [Piece.expand, Piece.text, Piece.stopsAfter, stopAfter, bareText]
  | empty n => simp [Piece.expand, Piece.text, Piece.stopsAfter, stopAfter]
  | placeholder n body =>
    simp [Piece.expand, Piece.text, Piece.stopsAfter, stopAfter, expandAll_eq body before]

theorem expandAll_eq (ps : List Piece) (before : Text) :
    expandAll ps before.byteLength = ⟨textAll ps, stopsAllAfter ps before⟩ := by
  cases ps with
  | nil => simp [textAll, stopsAllAfter]
  | cons p ps =>
    have hrest := expandAll_eq ps (before ++ p.text)
    rw [Text.byteLength_append] at hrest
    simp [expandAll, textAll, stopsAllAfter, Piece.expand_eq p before, hrest]

end

theorem standsIn_stopAfter (before shown rest : Text) (n : Nat) :
    (stopAfter before shown n).StandsIn (before ++ shown ++ rest) :=
  ⟨before, rest, rfl, rfl, (Text.byteLength_append before shown).symm⟩

mutual

theorem Piece.standsIn (p : Piece) (before rest : Text) :
    ∀ stop ∈ p.stopsAfter before, stop.StandsIn (before ++ p.text ++ rest) := by
  cases p with
  | literal c => simp [Piece.stopsAfter]
  | bare n =>
    rw [Piece.stopsAfter]
    exact List.forall_mem_singleton.2 (standsIn_stopAfter before _ rest n)
  | empty n =>
    rw [Piece.stopsAfter, Piece.text]
    exact List.forall_mem_singleton.2 (standsIn_stopAfter before [] rest n)
  | placeholder n body =>
    rw [Piece.stopsAfter, Piece.text]
    exact List.forall_mem_cons.2
      ⟨standsIn_stopAfter before _ rest n, standsIn_all body before rest⟩

theorem standsIn_all (ps : List Piece) (before rest : Text) :
    ∀ stop ∈ stopsAllAfter ps before, stop.StandsIn (before ++ textAll ps ++ rest) := by
  cases ps with
  | nil => simp [stopsAllAfter]
  | cons p ps =>
    rw [stopsAllAfter, textAll]
    refine List.forall_mem_append.2 ⟨?_, ?_⟩
    · have hfirst := Piece.standsIn p before (textAll ps ++ rest)
      simpa only [List.append_assoc] using hfirst
    · have hrest := standsIn_all ps (before ++ p.text) rest
      simpa only [List.append_assoc] using hrest

end

/-- Whatever text a snippet is read from, the ranges of its tab stops are ranges of its text. -/
theorem standsIn_parse (t : Text) : ∀ stop ∈ (parse t).stops, stop.StandsIn (parse t).text := by
  have hexpand := expandAll_eq (template t) []
  rw [Text.byteLength_nil] at hexpand
  rw [parse, Template.expand, hexpand]
  have hstands := standsIn_all (template t) [] []
  simpa only [List.append_nil, List.nil_append] using hstands

/-! ## Templates that can be read back -/

def Piece.IsBare : Piece → Prop
  | .bare _ => True
  | _ => False

/-- No digit is written first. -/
def StartsNoDigit (t : Text) : Prop := ∀ c ∈ t.head?, isDigit c = false

mutual

/-- Numbers have 32 bits, and no digit is written right after a bare tab stop. -/
def Piece.Legible : Piece → Prop
  | .literal _ => True
  | .bare n | .empty n => n < UInt32.size
  | .placeholder n body => n < UInt32.size ∧ LegibleAll body

def LegibleAll : List Piece → Prop
  | [] => True
  | p :: ps => p.Legible ∧ (p.IsBare → StartsNoDigit (renderAll ps)) ∧ LegibleAll ps

end

/-! ## Reading numbers -/

theorem number?_toDigits {n : Nat} (hn : n < UInt32.size) {rest : Text}
    (hrest : StartsNoDigit rest) : number? (Nat.toDigits 10 n ++ rest) = some (n, rest) := by
  have hdigits : ∀ c ∈ Nat.toDigits 10 n, isDigit c = true := fun c hc =>
    Nat.isDigit_of_mem_toDigits (by decide) (by decide) hc
  have hends : rest.takeWhile isDigit = [] ∧ rest.dropWhile isDigit = rest := by
    cases rest with
    | nil => exact ⟨rfl, rfl⟩
    | cons c rest => simp [hrest c rfl]
  have htake : (Nat.toDigits 10 n ++ rest).takeWhile isDigit = Nat.toDigits 10 n := by
    rw [List.takeWhile_append_of_pos hdigits, hends.1, List.append_nil]
  have hdrop : (Nat.toDigits 10 n ++ rest).dropWhile isDigit = rest := by
    rw [List.dropWhile_append_of_pos hdigits, hends.2]
  obtain ⟨d, ds, hds⟩ := List.exists_cons_of_ne_nil (Nat.toDigits_ne_nil (n := n) (b := 10))
  have hvalue := Text.foldl_toDigits n
  unfold number?
  rw [htake, hdrop]
  rw [hds] at hvalue ⊢
  simp only [hvalue, if_pos hn]

/-- After a dollar sign, digits are a number: they are no opening brace. -/
theorem opening?_bare {n : Nat} (hn : n < UInt32.size) {rest : Text} (hrest : StartsNoDigit rest) :
    opening? (Nat.toDigits 10 n ++ rest) = some (.bare n, rest) := by
  have hnumber := number?_toDigits hn hrest
  obtain ⟨d, ds, hds⟩ := List.exists_cons_of_ne_nil (Nat.toDigits_ne_nil (n := n) (b := 10))
  have hd : isDigit d = true :=
    Nat.isDigit_of_mem_toDigits (by decide) (by decide) (hds ▸ List.mem_cons_self)
  have hbrace : d ≠ '\x7b' := by
    rintro rfl
    exact absurd hd (by decide)
  rw [hds, List.cons_append] at hnumber ⊢
  unfold opening?
  split
  · rename_i r heq
    exact absurd (List.cons.inj heq).1 hbrace
  · rw [hnumber]
    rfl

theorem opening?_empty {n : Nat} (hn : n < UInt32.size) (rest : Text) :
    opening? ('\x7b' :: (Nat.toDigits 10 n ++ '\x7d' :: rest)) = some (.empty n, rest) := by
  have hclose : StartsNoDigit ('\x7d' :: rest) := by simp [StartsNoDigit, isDigit]
  have hnumber := number?_toDigits hn hclose
  simp [opening?, hnumber]

theorem opening?_placeholder {n : Nat} (hn : n < UInt32.size) (rest : Text) :
    opening? ('\x7b' :: (Nat.toDigits 10 n ++ ':' :: rest)) = some (.placeholder n, rest) := by
  have hcolon : StartsNoDigit (':' :: rest) := by simp [StartsNoDigit, isDigit]
  have hnumber := number?_toDigits hn hcolon
  simp [opening?, hnumber]

/-! ## Reading pieces -/

/-- The rest of the text ends the pieces: it is empty, or in a placeholder its closing brace. -/
inductive Closes : Bool → Text → Text → Prop where
  | outermost : Closes false [] []
  | nested (rest : Text) : Closes true ('\x7d' :: rest) rest

theorem Closes.startsNoDigit {nested : Bool} {close rest : Text} (h : Closes nested close rest) :
    StartsNoDigit close := by
  cases h with
  | outermost => simp [StartsNoDigit]
  | nested rest => simp [StartsNoDigit, isDigit]

theorem Closes.pieces? {nested : Bool} {close rest : Text} (h : Closes nested close rest)
    (fuel : Nat) : pieces? (fuel + 1) nested close = some ([], rest) := by
  cases h with
  | outermost => simp [Snippet.pieces?]
  | nested rest => simp [Snippet.pieces?]

theorem pieces?_literal (fuel : Nat) (nested : Bool) (c : Char) (rest : Text) :
    pieces? (fuel + 1) nested (escape c ++ rest) =
      (pieces? fuel nested rest).map fun q => (.literal c :: q.1, q.2) := by
  unfold escape
  split
  · rename_i hc
    have hescapable : isEscapable c = true := by
      rcases hc with rfl | rfl | rfl <;> rfl
    simp [pieces?, hescapable]
  · rename_i hc
    rw [not_or, not_or] at hc
    simp [pieces?, hc]

/-- A number of characters that is enough for the text is enough for the rest. -/
theorem pieces?_render {p : Piece} (hp : p.Legible) {fuel : Nat} {nested : Bool} {rest : Text}
    (hbare : p.IsBare → StartsNoDigit rest)
    (hbody : ∀ n body, p = .placeholder n body →
      pieces? fuel true (renderAll body ++ '\x7d' :: rest) = some (body, rest)) :
    pieces? (fuel + 1) nested (p.render ++ rest) =
      (pieces? fuel nested rest).map fun q => (p :: q.1, q.2) := by
  cases p with
  | literal c =>
    rw [Piece.render]
    exact pieces?_literal fuel nested c rest
  | bare n => simp [Piece.render, pieces?, opening?_bare hp (hbare trivial)]
  | empty n => simp [Piece.render, pieces?, opening?_empty hp rest]
  | placeholder n body =>
    simp [Piece.render, pieces?, opening?_placeholder hp.1, hbody n body rfl]

theorem render_length_pos (p : Piece) : 0 < p.render.length := by
  cases p with
  | literal c =>
    rw [Piece.render, escape]
    split <;> simp
  | bare n | empty n | placeholder n body => simp [Piece.render]

/-- Pieces are read back up to where they end. As every piece takes at least one character, as many
steps as there are characters are enough. -/
theorem pieces?_renderAll (ps : List Piece) (hps : LegibleAll ps) {fuel : Nat} {nested : Bool}
    {close rest : Text} (hclose : Closes nested close rest)
    (hfuel : (renderAll ps ++ close).length < fuel) :
    pieces? fuel nested (renderAll ps ++ close) = some (ps, rest) := by
  obtain ⟨fuel, rfl⟩ := Nat.exists_eq_add_one_of_ne_zero (Nat.ne_zero_of_lt hfuel)
  match ps with
  | [] =>
    rw [renderAll, List.nil_append]
    exact hclose.pieces? fuel
  | p :: ps =>
    rw [LegibleAll] at hps
    obtain ⟨hp, hbare, hps⟩ := hps
    have hlength := render_length_pos p
    rw [renderAll, List.append_assoc] at hfuel ⊢
    have hrest : pieces? fuel nested (renderAll ps ++ close) = some (ps, rest) := by
      refine pieces?_renderAll ps hps hclose ?_
      simp only [List.length_append] at hfuel ⊢
      omega
    rw [pieces?_render hp, hrest]
    · rfl
    · intro hb c hc
      rcases List.eq_nil_or_concat (renderAll ps) with hnil | ⟨front, d, hfront⟩
      · rw [hnil, List.nil_append] at hc
        exact hclose.startsNoDigit c hc
      · rw [List.head?_append_of_ne_nil _ (by simp [hfront])] at hc
        exact hbare hb c hc
    · rintro n body rfl
      rw [Piece.Legible] at hp
      refine pieces?_renderAll body hp.2 (.nested _) ?_
      simp only [Piece.render, List.length_append, List.length_cons] at hfuel ⊢
      omega

theorem template_render {t : Template} (h : LegibleAll t) : template t.render = t := by
  have hpieces := pieces?_renderAll t h .outermost (Nat.lt_succ_self _)
  rw [List.append_nil] at hpieces
  unfold template Template.render
  rw [hpieces]

/-- The snippet of a template that is written out has the text that its pieces stand for, and their
tab stops in order of appearance. -/
theorem parse_render {t : Template} (h : LegibleAll t) :
    (parse t.render).text = textAll t ∧ (parse t.render).stops = stopsAllAfter t [] := by
  have hexpand := expandAll_eq t []
  rw [Text.byteLength_nil] at hexpand
  rw [parse, template_render h, Template.expand, hexpand]
  exact ⟨rfl, rfl⟩

/-- A placeholder that holds another one, the greatest number, escaped characters, and bare tab
stops before a closing brace and at the end. -/
def nestedTemplate : Template :=
  [.literal '$',
    .placeholder 1
      [.literal '\x7d', .placeholder 4294967295 [.literal '\\', .bare 2], .literal '3', .empty 3],
    .bare 0]

theorem parse_render_nested :
    LegibleAll nestedTemplate ∧
      (parse nestedTemplate.render).text = ['$', '\x7d', '\\', '.', '.', '.', '3'] ∧
      (parse nestedTemplate.render).stops =
        [⟨1, 7, 1, ['\x7d', '\\', '.', '.', '.', '3']⟩, ⟨2, 6, 4294967295, ['\\', '.', '.', '.']⟩,
          ⟨3, 6, 2, ['.', '.', '.']⟩, ⟨7, 7, 3, []⟩, ⟨7, 7, 0, []⟩] := by
  have hlegible : LegibleAll nestedTemplate := by
    simp [nestedTemplate, LegibleAll, Piece.Legible, Piece.IsBare, UInt32.size, StartsNoDigit,
      renderAll]
  obtain ⟨htext, hstops⟩ := parse_render hlegible
  exact ⟨hlegible, htext, hstops⟩

end Snippet

end LanguageClient
