import LanguageClient.Glob.Pattern
import LanguageClient.Proofs.Text.Trim
import Mathlib.Data.List.Forall2
namespace LanguageClient

/-!
# Brace alternatives

The first opening brace and the first closing one after it are taken away together, whatever stands
between them, so expansion comes to an end, and then no pair of braces is left. Where braces do not
stand in one another, what comes out is the product of the alternatives: one pattern for each choice
of one of them in every group, and the choice in the last group changes fastest.
-/

namespace Glob

/-- Some opening brace is followed by a closing one. -/
def Braced (t : Text) : Prop := ∃ a b c, t = a ++ '\x7b' :: (b ++ '\x7d' :: c)

/-- One of the patterns that stand next for a pattern with braces. -/
def Expands (t u : Text) : Prop :=
  ∃ before alternatives after, cutBraces? t = some (before, alternatives, after) ∧
    ∃ a ∈ alternatives, u = before ++ a ++ after

theorem wellFounded_expands : WellFounded fun u t => Expands t u := by
  refine Subrelation.wf ?_ (measure fun t : Text => t.count '\x7b').wf
  rintro u t ⟨before, alternatives, after, hcut, a, ha, rfl⟩
  exact count_lt_of_cutBraces? hcut ha

/-! ## Pairs of braces -/

theorem cutBraces?_append {before inside : Text} (hbefore : '\x7b' ∉ before)
    (hinside : '\x7d' ∉ inside) (after : Text) :
    cutBraces? (before ++ '\x7b' :: (inside ++ '\x7d' :: after)) =
      some (before, Text.splitOnChar ',' inside, after) := by
  simp [cutBraces?, Text.cut?_append_of_notMem hbefore, Text.cut?_append_of_notMem hinside]

theorem Braced.exists_first {t : Text} (h : Braced t) :
    ∃ before inside after, t = before ++ '\x7b' :: (inside ++ '\x7d' :: after) ∧
      '\x7b' ∉ before ∧ '\x7d' ∉ inside := by
  obtain ⟨a, b, c, rfl⟩ := h
  have hopens : '\x7b' ∈ a ++ ['\x7b'] := by simp
  obtain ⟨before, rest, hopen, hbefore⟩ := List.eq_append_cons_of_mem hopens
  have hcloses : '\x7d' ∈ rest ++ b ++ '\x7d' :: c := by simp
  obtain ⟨inside, after, hclose, hinside⟩ := List.eq_append_cons_of_mem hcloses
  refine ⟨before, inside, after, ?_, hbefore, hinside⟩
  calc
    a ++ '\x7b' :: (b ++ '\x7d' :: c) = (a ++ ['\x7b']) ++ (b ++ '\x7d' :: c) := by simp
    _ = before ++ '\x7b' :: (rest ++ b ++ '\x7d' :: c) := by rw [hopen]; simp
    _ = before ++ '\x7b' :: (inside ++ '\x7d' :: after) := by rw [hclose]

theorem cutBraces?_eq_none_iff {t : Text} : cutBraces? t = none ↔ ¬ Braced t := by
  constructor
  · intro hnone hbraced
    obtain ⟨before, inside, after, rfl, hbefore, hinside⟩ := hbraced.exists_first
    rw [cutBraces?_append hbefore hinside] at hnone
    cases hnone
  · intro hbraced
    by_contra hsome
    obtain ⟨⟨before, alternatives, after⟩, hcut⟩ := Option.ne_none_iff_exists'.1 hsome
    obtain ⟨inside, rfl, -⟩ := cutBraces?_eq_some hcut
    exact hbraced ⟨before, inside, after, rfl⟩

theorem not_braced_of_mem_expandBraces {t u : Text} (h : u ∈ expandBraces t) : ¬ Braced u := by
  induction t using wellFounded_expands.induction with
  | _ t ih =>
    cases hcut : cutBraces? t with
    | none =>
      rw [expandBraces_of_none hcut, List.mem_singleton] at h
      rw [h]
      exact cutBraces?_eq_none_iff.1 hcut
    | some cut =>
      obtain ⟨before, alternatives, after⟩ := cut
      rw [expandBraces_of_some hcut, List.mem_flatMap] at h
      obtain ⟨a, ha, hu⟩ := h
      exact ih _ ⟨before, alternatives, after, hcut, a, ha, rfl⟩ hu

/-! ## Groups side by side -/

def NoBraces (t : Text) : Prop := '\x7b' ∉ t ∧ '\x7d' ∉ t

instance (t : Text) : Decidable (NoBraces t) := inferInstanceAs (Decidable (_ ∧ _))

theorem NoBraces.append {s t : Text} (hs : NoBraces s) (ht : NoBraces t) : NoBraces (s ++ t) := by
  simp only [NoBraces, List.mem_append, not_or]
  exact ⟨⟨hs.1, ht.1⟩, hs.2, ht.2⟩

theorem expandBraces_of_noBraces {t : Text} (h : NoBraces t) : expandBraces t = [t] := by
  refine expandBraces_of_none (cutBraces?_eq_none_iff.2 ?_)
  rintro ⟨a, b, c, rfl⟩
  exact h.1 (by simp)

/-- Alternatives in braces, and the text between them and the next braces. -/
structure BraceGroup where
  alternatives : List Text
  after : Text
deriving DecidableEq, Repr

namespace BraceGroup

def text (g : BraceGroup) : Text :=
  '\x7b' :: (Text.joinWith [','] g.alternatives ++ '\x7d' :: g.after)

/-- There is an alternative, which may be empty, and braces and commas are only those of the
group. -/
structure Plain (g : BraceGroup) : Prop where
  nonempty : g.alternatives ≠ []
  alternatives : ∀ a ∈ g.alternatives, NoBraces a ∧ ',' ∉ a
  after : NoBraces g.after

instance (g : BraceGroup) : Decidable g.Plain :=
  decidable_of_iff
    (g.alternatives ≠ [] ∧ (∀ a ∈ g.alternatives, NoBraces a ∧ ',' ∉ a) ∧ NoBraces g.after)
    ⟨fun ⟨hne, ha, hafter⟩ => ⟨hne, ha, hafter⟩, fun h => ⟨h.nonempty, h.alternatives, h.after⟩⟩

/-- What comes out of a group by the number of an alternative. -/
def pick (g : BraceGroup) (i : Nat) : Text := g.alternatives.getD i [] ++ g.after

theorem map_getD_range (g : BraceGroup) :
    (List.range g.alternatives.length).map (g.alternatives.getD · []) = g.alternatives :=
  List.ext_getElem (by simp) fun i _ hi => by simp [List.getElem?_eq_getElem hi]

theorem cutBraces?_text {g : BraceGroup} (h : g.Plain) {before : Text} (hbefore : '\x7b' ∉ before)
    (rest : Text) :
    cutBraces? (before ++ (g.text ++ rest)) = some (before, g.alternatives, g.after ++ rest) := by
  have hinside : '\x7d' ∉ Text.joinWith [','] g.alternatives := by
    rw [Text.mem_joinWith_iff (by decide)]
    rintro ⟨a, ha, hmem⟩
    exact (h.alternatives a ha).1.2 hmem
  have hsplit := Text.splitOnChar_joinWith h.nonempty fun a ha => (h.alternatives a ha).2
  have hcut := cutBraces?_append hbefore hinside (g.after ++ rest)
  rw [hsplit] at hcut
  simpa [text] using hcut

end BraceGroup

/-- A text and the groups that follow it. -/
structure BraceProduct where
  first : Text
  groups : List BraceGroup
deriving DecidableEq, Repr

namespace BraceProduct

def text (p : BraceProduct) : Text := p.first ++ p.groups.flatMap BraceGroup.text

structure Plain (p : BraceProduct) : Prop where
  first : NoBraces p.first
  groups : ∀ g ∈ p.groups, g.Plain

instance (p : BraceProduct) : Decidable p.Plain :=
  decidable_of_iff (NoBraces p.first ∧ ∀ g ∈ p.groups, g.Plain)
    ⟨fun ⟨hfirst, hgroups⟩ => ⟨hfirst, hgroups⟩, fun h => ⟨h.first, h.groups⟩⟩

/-- The number of an alternative for each group. -/
def IsChoice (p : BraceProduct) (choice : List Nat) : Prop :=
  List.Forall₂ (fun i g => i < g.alternatives.length) choice p.groups

/-- What comes out by a choice. -/
def pick (p : BraceProduct) (choice : List Nat) : Text :=
  p.first ++ (List.zipWith BraceGroup.pick p.groups choice).flatten

end BraceProduct

/-- All choices for a list of groups, with the one in the first group changing last. -/
def choices : List BraceGroup → List (List Nat)
  | [] => [[]]
  | g :: gs => (List.range g.alternatives.length).flatMap fun i => (choices gs).map (i :: ·)

theorem mem_choices_iff {gs : List BraceGroup} {choice : List Nat} :
    choice ∈ choices gs ↔
      List.Forall₂ (fun i g => i < g.alternatives.length) choice gs := by
  induction gs generalizing choice with
  | nil => simp [choices]
  | cons g gs ih =>
    simp only [choices, List.mem_flatMap, List.mem_map, List.mem_range, ih,
      List.forall₂_cons_right_iff]
    constructor
    · rintro ⟨i, hi, rest, hrest, rfl⟩
      exact ⟨i, rest, hi, hrest, rfl⟩
    · rintro ⟨i, rest, hi, hrest, rfl⟩
      exact ⟨i, hi, rest, hrest, rfl⟩

theorem pairwise_choices (gs : List BraceGroup) : (choices gs).Pairwise (List.Lex (· < ·)) := by
  induction gs with
  | nil => exact List.pairwise_singleton _ _
  | cons g gs ih =>
    rw [choices, List.pairwise_flatMap]
    refine ⟨fun i _ => ?_, List.pairwise_lt_range.imp fun hij => ?_⟩
    · exact ih.map _ fun _ _ hvw => .cons hvw
    · intro v hv w hw
      obtain ⟨v, -, rfl⟩ := List.mem_map.1 hv
      obtain ⟨w, -, rfl⟩ := List.mem_map.1 hw
      exact .rel hij

/-- Expansion takes the groups from the left, and each alternative becomes part of the text before
the next group. -/
theorem expandBraces_text {p : BraceProduct} (h : p.Plain) :
    expandBraces p.text = (choices p.groups).map p.pick := by
  obtain ⟨first, groups⟩ := p
  induction groups generalizing first with
  | nil => simp [BraceProduct.text, choices, BraceProduct.pick, expandBraces_of_noBraces h.first]
  | cons g groups ih =>
    have hg := h.groups g List.mem_cons_self
    have hgroups : ∀ g ∈ groups, g.Plain := fun g hg => h.groups g (List.mem_cons_of_mem _ hg)
    have hcut : cutBraces? (BraceProduct.text ⟨first, g :: groups⟩) =
        some (first, g.alternatives, g.after ++ groups.flatMap BraceGroup.text) :=
      BraceGroup.cutBraces?_text hg h.first.1 _
    have hpick : ∀ a ∈ g.alternatives,
        expandBraces (first ++ a ++ (g.after ++ groups.flatMap BraceGroup.text)) =
          (choices groups).map fun c =>
            first ++ ((a ++ g.after) ++ (List.zipWith BraceGroup.pick groups c).flatten) := by
      intro a ha
      have hfirst := (h.first.append (hg.alternatives a ha).1).append hg.after
      have htext : first ++ a ++ (g.after ++ groups.flatMap BraceGroup.text) =
          BraceProduct.text ⟨first ++ a ++ g.after, groups⟩ := by simp [BraceProduct.text]
      rw [htext, ih _ ⟨hfirst, hgroups⟩]
      exact List.map_congr_left fun c _ => by simp [BraceProduct.pick]
    rw [expandBraces_of_some hcut, List.flatMap_congr hpick, ← g.map_getD_range]
    simp [choices, BraceProduct.pick, BraceGroup.pick, List.flatMap_map, List.map_flatMap,
      Function.comp_def]

/-- Expansion comes to an end with no pair of braces left. Of groups that stand side by side it
gives the patterns for all choices, each choice once, in lexicographic order of the choices. -/
theorem expandBraces_product :
    (WellFounded fun u t => Expands t u) ∧
      (∀ t, ∀ u ∈ expandBraces t, ¬ Braced u) ∧
        ∀ p : BraceProduct, p.Plain → ∃ choices : List (List Nat),
          choices.Pairwise (List.Lex (· < ·)) ∧
            (∀ choice, choice ∈ choices ↔ p.IsChoice choice) ∧
              expandBraces p.text = choices.map p.pick :=
  ⟨wellFounded_expands, fun _ _ => not_braced_of_mem_expandBraces, fun p h =>
    ⟨choices p.groups, pairwise_choices p.groups, fun _ => mem_choices_iff,
      expandBraces_text h⟩⟩

theorem expandBraces_product_two_groups :
    let p : BraceProduct :=
      ⟨[], [⟨["x".toList, []], "/*.".toList⟩, ⟨["a".toList, "b".toList], []⟩]⟩
    p.text = "\x7bx,\x7d/*.\x7ba,b\x7d".toList ∧ p.Plain ∧
      ∃ choices : List (List Nat), choices.Pairwise (List.Lex (· < ·)) ∧
        (∀ choice, choice ∈ choices ↔ p.IsChoice choice) ∧
          expandBraces p.text = choices.map p.pick := by
  intro p
  have hplain : p.Plain := by decide
  exact ⟨by decide, hplain, expandBraces_product.2.2 p hplain⟩

example : expandBraces "\x7bx,\x7d/*.\x7ba,b\x7d".toList =
    ["x/*.a", "x/*.b", "/*.a", "/*.b"].map String.toList := by cbv

-- The first closing brace ends the first opening one, even if another one was opened in between.
example : expandBraces "\x7ba,\x7bb\x7dc\x7d".toList = ["ac\x7d", "bc"].map String.toList := by cbv

end Glob

end LanguageClient
