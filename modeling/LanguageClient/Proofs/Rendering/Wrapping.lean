import LanguageClient.Proofs.Text.Trim
import LanguageClient.Rendering
import Mathlib.Data.List.Forall2
namespace LanguageClient

/-!
# Wrapped text

Each line of a plain text is shown in blocks that hold all of it but white space. A block is within
the width up to its last sentence. Trimming a block can only shorten what stands before that
sentence, so when the blocks are wrapped in their turn each is one block again.
-/

namespace Rendering

open Text

/-! ## Sentences -/

theorem sentences_ne_nil {t : Text} (h : t ≠ []) : sentences t ≠ [] := by
  intro hnil
  have hflatten := flatten_sentences t
  rw [hnil] at hflatten
  exact h hflatten.symm

theorem ne_nil_of_mem_sentences {s t : Text} (h : s ∈ sentences t) : s ≠ [] := by
  fun_induction sentences t with
  | case1 => cases h
  | case2 r ih =>
    rcases List.mem_cons.1 h with rfl | h
    · exact List.cons_ne_nil _ _
    · exact ih h
  | case3 c r _ heq ih =>
    rw [List.mem_singleton.1 h]
    exact List.cons_ne_nil _ _
  | case4 c r _ s' ss heq ih =>
    rcases List.mem_cons.1 h with rfl | h
    · exact List.cons_ne_nil _ _
    · exact ih (heq ▸ List.mem_cons_of_mem s' h)

/-- A character that does not start a sentence end joins the next sentence. -/
theorem sentences_cons {c : Char} {r s : Text} {ss : List Text}
    (hc : ∀ r', c = '.' → r = ' ' :: r' → False) (hr : sentences r = s :: ss) :
    sentences (c :: r) = (c :: s) :: ss := by
  rw [sentences.eq_3 _ _ hc, hr]

theorem sentences_append_cons {c : Char} {p r : Text}
    (hc : ∀ p', c = '.' → p = ' ' :: p' → False)
    (hp : sentences (p ++ '.' :: ' ' :: r) = sentences (p ++ ['.', ' ']) ++ sentences r) :
    sentences (c :: (p ++ '.' :: ' ' :: r)) =
      sentences (c :: (p ++ ['.', ' '])) ++ sentences r := by
  have hfirst : ∀ q r', c = '.' → p ++ '.' :: q = ' ' :: r' → False := by
    intro q r' hdot hspace
    cases p with
    | nil => simp at hspace
    | cons d p => exact hc p hdot (by rw [(List.cons.inj hspace).1])
  have hne : sentences (p ++ ['.', ' ']) ≠ [] := sentences_ne_nil (by simp)
  obtain ⟨s, ss, hss⟩ := List.exists_cons_of_ne_nil hne
  rw [hss] at hp
  rw [sentences_cons (hfirst _) hp, sentences_cons (hfirst _) hss]
  rfl

/-- A text can be cut after every full stop and space. -/
theorem sentences_append (p r : Text) :
    sentences (p ++ '.' :: ' ' :: r) = sentences (p ++ ['.', ' ']) ++ sentences r := by
  fun_induction sentences p with
  | case1 => simp [sentences]
  | case2 p ih => simp [sentences, ih]
  | case3 c p hc _ ih => exact sentences_append_cons hc ih
  | case4 c p hc s ss _ ih => exact sentences_append_cons hc ih

/-- Each is one sentence, and all but the last end with a full stop and a space. -/
structure InSentences (ss : List Text) : Prop where
  whole : ∀ s ∈ ss, sentences s = [s]
  ended : ss.Pairwise fun s _ => ['.', ' '] <:+ s

namespace InSentences

variable {ss ts : List Text}

theorem sublist (h : InSentences ts) (hs : ss.Sublist ts) : InSentences ss :=
  ⟨fun s hmem => h.whole s (hs.subset hmem), h.ended.sublist hs⟩

theorem sentences_flatten (h : InSentences ss) : sentences ss.flatten = ss := by
  induction ss with
  | nil => rfl
  | cons s ss ih =>
    have hwhole := h.whole s List.mem_cons_self
    by_cases hnil : ss = []
    · simpa [hnil] using hwhole
    · obtain ⟨s', hs'⟩ := List.exists_mem_of_ne_nil ss hnil
      obtain ⟨p, rfl⟩ := List.rel_of_pairwise_cons h.ended hs'
      rw [List.flatten_cons, List.append_assoc, List.cons_append, List.singleton_append,
        sentences_append, hwhole, ih (h.sublist (List.sublist_cons_self _ _))]
      rfl

end InSentences

theorem inSentences_sentences (t : Text) : InSentences (sentences t) := by
  fun_induction sentences t with
  | case1 => exact ⟨by simp, .nil⟩
  | case2 r ih =>
    refine ⟨List.forall_mem_cons.2 ⟨rfl, ih.whole⟩, List.pairwise_cons.2 ⟨fun _ _ => ?_, ih.ended⟩⟩
    exact List.suffix_refl _
  | case3 c r _ _ ih => exact ⟨by simp [sentences], List.pairwise_singleton _ _⟩
  | case4 c r hc s ss heq ih =>
    rw [heq] at ih
    have hs : sentences s = [s] := ih.whole s List.mem_cons_self
    have hr : r = s ++ ss.flatten := by rw [← flatten_sentences r, heq, List.flatten_cons]
    have hcs : sentences (c :: s) = [c :: s] := by
      refine sentences_cons (fun s' hdot hspace => ?_) hs
      exact hc (s' ++ ss.flatten) hdot (by rw [hr, hspace, List.cons_append])
    obtain ⟨hended, hrest⟩ := List.pairwise_cons.1 ih.ended
    refine ⟨List.forall_mem_cons.2 ⟨hcs, fun s' h => ih.whole s' (List.mem_cons_of_mem s h)⟩,
      List.pairwise_cons.2 ⟨fun s' hs' => ?_, hrest⟩⟩
    exact (hended s' hs').trans (List.suffix_cons c s)

/-! ## What stands before the last sentence -/

/-- What stands before the last sentence. -/
def lead (t : Text) : Text := (sentences t).dropLast.flatten

/-- It reaches to the last sentence end that something follows. -/
theorem length_lead_le_iff {t : Text} {n : Nat} :
    (lead t).length ≤ n ↔ ∀ p r, t = p ++ '.' :: ' ' :: r → r ≠ [] → p.length + 2 ≤ n := by
  constructor
  · rintro h p r rfl hr
    rw [lead, sentences_append, List.dropLast_append_of_ne_nil (sentences_ne_nil hr),
      List.flatten_append, flatten_sentences] at h
    simp only [List.length_append, List.length_cons, List.length_nil] at h
    omega
  · intro h
    rcases List.eq_nil_or_concat (sentences t) with hnil | ⟨ss, s, hss⟩
    · simp [lead, hnil]
    · rw [List.concat_eq_append] at hss
      have ht := flatten_sentences t
      have hs : s ≠ [] := ne_nil_of_mem_sentences (t := t) (by simp [hss])
      have hended := (inSentences_sentences t).ended
      rw [hss] at hended ht
      rw [lead, hss, List.dropLast_concat]
      rcases List.eq_nil_or_concat ss with rfl | ⟨ss, e, rfl⟩
      · exact Nat.zero_le n
      · obtain ⟨p, hp⟩ : ['.', ' '] <:+ e :=
          (List.pairwise_append.1 hended).2.2 e (by simp) s List.mem_cons_self
        have hle := h (ss.flatten ++ p) s (by rw [← ht, ← hp]; simp) hs
        have hlength : ((ss.concat (p ++ ['.', ' '])).flatten).length =
            (ss.flatten ++ p).length + 2 := by simp [Nat.add_assoc]
        rw [← hp, hlength]
        exact hle

theorem length_lead_le_of_infix {s t : Text} (h : s <:+: t) :
    (lead s).length ≤ (lead t).length := by
  obtain ⟨a, b, rfl⟩ := h
  refine length_lead_le_iff.2 ?_
  rintro p r rfl hr
  have hle := length_lead_le_iff.1 (Nat.le_refl (lead (a ++ (p ++ '.' :: ' ' :: r) ++ b)).length)
    (a ++ p) (r ++ b) (by simp) (by simp [hr])
  rw [List.length_append] at hle
  omega

/-! ## The blocks of a line -/

/-- Blocks are bunches of sentences, each within the width up to the sentence that fills it. -/
theorem exists_bunches (ss before : List Text) (h : before.flatten.length ≤ blockWidth) :
    ∃ (bunches : List (List Text)) (last : List Text),
      bunches.flatten ++ last = before ++ ss ∧
        gather ss before.flatten = (bunches.map fun g => trim g.flatten, last.flatten) ∧
          last.flatten.length ≤ blockWidth ∧
            ∀ g ∈ bunches, g ≠ [] ∧ g.dropLast.flatten.length ≤ blockWidth := by
  induction ss generalizing before with
  | nil => exact ⟨[], before, by simp, by simp [gather], h, by simp⟩
  | cons s ss ih =>
    have hflatten : (before ++ [s]).flatten = before.flatten ++ s := by simp
    by_cases hfull : (before.flatten ++ s).length > blockWidth
    · obtain ⟨bunches, last, hall, hgather, hlast, hbunches⟩ := ih [] (by simp)
      refine ⟨(before ++ [s]) :: bunches, last, by simp [hall], ?_, hlast, ?_⟩
      · rw [gather, if_pos hfull, ← List.flatten_nil, hgather, List.map_cons, hflatten]
      · refine List.forall_mem_cons.2 ⟨⟨by simp, ?_⟩, hbunches⟩
        rwa [List.dropLast_concat]
    · obtain ⟨bunches, last, hall, hgather, hlast, hbunches⟩ :=
        ih (before ++ [s]) (by rw [hflatten]; omega)
      refine ⟨bunches, last, by simp [hall], ?_, hlast, hbunches⟩
      rw [gather, if_neg hfull, ← hflatten, hgather]

theorem exists_bunches_of_line {line : Text} (h : line ≠ []) :
    ∃ bunches : List (List Text), bunches.flatten = sentences line ∧
      (blocks line = bunches.map fun g => trim g.flatten) ∧
        ∀ g ∈ bunches, g ≠ [] ∧ g.dropLast.flatten.length ≤ blockWidth := by
  obtain ⟨bunches, last, hall, hgather, hlast, hbunches⟩ :=
    exists_bunches (sentences line) [] (Nat.zero_le _)
  rw [List.nil_append] at hall
  rw [List.flatten_nil] at hgather
  by_cases hnil : last = []
  · subst hnil
    refine ⟨bunches, by rw [← hall, List.append_nil], ?_, hbunches⟩
    simp [blocks, hgather, h]
  · have hflatten : last.flatten ≠ [] := by
      obtain ⟨s, hs⟩ := List.exists_mem_of_ne_nil last hnil
      have hne : s ≠ [] := ne_nil_of_mem_sentences (t := line) (by simp [← hall, hs])
      exact fun hempty => hne (List.flatten_eq_nil_iff.1 hempty s hs)
    have hshort : last.dropLast.flatten.length ≤ last.flatten.length := by
      have hlength := congrArg (·.flatten.length) (List.dropLast_append_getLast hnil)
      simp only [List.flatten_concat, List.length_append] at hlength
      omega
    refine ⟨bunches ++ [last], by simp [hall], by simp [blocks, hgather, hflatten], ?_⟩
    refine List.forall_mem_append.2 ⟨hbunches, List.forall_mem_singleton.2 ⟨hnil, ?_⟩⟩
    omega

/-- How a line is shown in blocks. -/
structure Shows (line : Text) (shown : List Text) : Prop where
  /-- The line is cut after full stops with a space, and the pieces are trimmed. -/
  pieces : ∃ pieces : List Text, pieces ≠ [] ∧ pieces.flatten = line ∧
    (pieces.Pairwise fun p _ => ['.', ' '] <:+ p) ∧ shown = pieces.map trim
  narrow : ∀ b ∈ shown, (lead b).length ≤ blockWidth
  empty : line = [] → shown = [[]]

theorem infix_trim (t : Text) : trim t <:+: t := by
  obtain ⟨a, b, ht, -⟩ := exists_trim t
  exact ⟨a, b, ht.symm⟩

theorem shows_blocks (line : Text) : Shows line (blocks line) := by
  by_cases hline : line = []
  · subst hline
    have hnarrow : ∀ b ∈ [([] : Text)], (lead b).length ≤ blockWidth := by
      simp [lead, sentences]
    exact ⟨⟨[[]], by simp, rfl, List.pairwise_singleton _ _, rfl⟩, hnarrow, fun _ => rfl⟩
  obtain ⟨bunches, hall, hblocks, hbunches⟩ := exists_bunches_of_line hline
  have hsentences : InSentences bunches.flatten := hall ▸ inSentences_sentences line
  refine ⟨⟨bunches.map List.flatten, ?_, ?_, ?_, ?_⟩, ?_, fun h => absurd h hline⟩
  · intro hnil
    rw [List.map_eq_nil_iff.1 hnil] at hall
    exact sentences_ne_nil hline hall.symm
  · rw [← List.flatten_flatten, hall, flatten_sentences]
  · refine List.pairwise_map.2 ?_
    refine (List.pairwise_flatten.1 hsentences.ended).2.imp_of_mem fun hg hg' hended => ?_
    -- The last sentence of a bunch is ended, since those of the next bunch follow it.
    obtain ⟨s', hs'⟩ := List.exists_mem_of_ne_nil _ (hbunches _ hg').1
    have hlast := List.dropLast_append_getLast (hbunches _ hg).1
    rw [← hlast, List.flatten_concat]
    exact (hended _ (List.getLast_mem _) s' hs').trans (List.suffix_append _ _)
  · rw [hblocks, List.map_map]
    rfl
  · rw [hblocks]
    refine List.forall_mem_map.2 fun g hg => ?_
    have hwhole := (hsentences.sublist (List.sublist_flatten_of_mem hg)).sentences_flatten
    calc
      (lead (trim g.flatten)).length ≤ (lead g.flatten).length :=
        length_lead_le_of_infix (infix_trim _)
      _ = g.dropLast.flatten.length := by rw [lead, hwhole]
      _ ≤ blockWidth := (hbunches g hg).2

theorem gather_append {ss : List Text} {block : Text}
    (h : (block ++ ss.flatten).length ≤ blockWidth) (ts : List Text) :
    gather (ss ++ ts) block = gather ts (block ++ ss.flatten) := by
  induction ss generalizing block with
  | nil => simp
  | cons s ss ih =>
    rw [List.flatten_cons, ← List.append_assoc] at h ⊢
    have hs : ¬ (block ++ s).length > blockWidth := by
      rw [List.length_append] at h
      omega
    rw [List.cons_append, gather, if_neg hs, ih h]

/-- A trimmed line that is within the width up to its last sentence is shown as it is. -/
theorem blocks_of_narrow {b : Text} (htrim : trim b = b) (hlead : (lead b).length ≤ blockWidth) :
    blocks b = [b] := by
  by_cases hnil : b = []
  · subst hnil
    rfl
  · obtain ⟨ss, s, hss⟩ :=
      (List.eq_nil_or_concat (sentences b)).resolve_left (sentences_ne_nil hnil)
    rw [List.concat_eq_append] at hss
    have hb := flatten_sentences b
    rw [hss, List.flatten_concat] at hb
    rw [lead, hss, List.dropLast_concat] at hlead
    have hshort : ([] ++ ss.flatten : Text).length ≤ blockWidth := hlead
    have hgather := gather_append hshort [s]
    rw [List.nil_append, ← hss] at hgather
    by_cases hfull : (ss.flatten ++ s).length > blockWidth
    · rw [gather, if_pos hfull, hb, htrim] at hgather
      simp [blocks, hgather, gather, hnil]
    · rw [gather, if_neg hfull, hb] at hgather
      simp [blocks, hgather, gather, hnil, htrim]

/-! ## The whole text -/

/-- The characters that are no white space. -/
def nonblank (t : Text) : Text := t.filter fun c => !isBlank c

theorem nonblank_of_forall {t : Text} (h : ∀ c ∈ t, isBlank c = true) : nonblank t = [] :=
  List.filter_eq_nil_iff.2 fun c hc => by simp [h c hc]

theorem nonblank_append (s t : Text) : nonblank (s ++ t) = nonblank s ++ nonblank t :=
  List.filter_append s t

theorem nonblank_trim (t : Text) : nonblank (trim t) = nonblank t := by
  obtain ⟨a, b, ht, ha, hb⟩ := exists_trim t
  have hnonblank := congrArg nonblank ht
  rw [nonblank_append, nonblank_append, nonblank_of_forall ha, nonblank_of_forall hb] at hnonblank
  simpa using hnonblank.symm

theorem nonblank_flatten (ts : List Text) : nonblank ts.flatten = ts.flatMap nonblank := by
  rw [nonblank, List.filter_flatten, List.flatMap_def]
  rfl

theorem nonblank_joinWith (pieces : List Text) :
    nonblank (joinWith ['\n'] pieces) = pieces.flatMap nonblank := by
  induction pieces with
  | nil => rfl
  | cons piece pieces ih =>
    by_cases hnil : pieces = []
    · subst hnil
      simp [joinWith]
    · have hnewline : nonblank ['\n'] = [] := by decide
      rw [joinWith_cons _ _ hnil, nonblank_append, nonblank_append, hnewline, ih]
      rfl

theorem Shows.nonblank_eq {line : Text} {shown : List Text} (h : Shows line shown) :
    shown.flatMap nonblank = nonblank line := by
  obtain ⟨pieces, -, rfl, -, rfl⟩ := h.pieces
  rw [nonblank_flatten, List.flatMap_map]
  exact List.flatMap_congr fun p _ => nonblank_trim p

theorem Shows.trim_eq {line b : Text} {shown : List Text} (h : Shows line shown) (hb : b ∈ shown) :
    trim b = b := by
  obtain ⟨pieces, -, -, -, rfl⟩ := h.pieces
  obtain ⟨p, -, rfl⟩ := List.mem_map.1 hb
  exact trim_trim p

theorem Shows.subset {line b : Text} {shown : List Text} (h : Shows line shown) (hb : b ∈ shown) :
    b ⊆ line := by
  obtain ⟨pieces, -, rfl, -, rfl⟩ := h.pieces
  obtain ⟨p, hp, rfl⟩ := List.mem_map.1 hb
  intro c hc
  exact List.mem_flatten.2 ⟨p, hp, (infix_trim p).subset hc⟩

/-- The lines of the result are the blocks. -/
theorem splitOnChar_wrapPlain (t : Text) :
    splitOnChar '\n' (wrapPlain t) = (splitOnChar '\n' t).flatMap blocks := by
  refine splitOnChar_joinWith ?_ fun b hb => ?_
  · obtain ⟨line, hline⟩ := List.exists_mem_of_ne_nil _ (splitOnChar_ne_nil '\n' t)
    obtain ⟨pieces, hne, -, -, hpieces⟩ := (shows_blocks line).pieces
    intro hnil
    have hempty := List.flatMap_eq_nil_iff.1 hnil line hline
    rw [hpieces] at hempty
    exact hne (List.map_eq_nil_iff.1 hempty)
  · obtain ⟨line, hline, hb⟩ := List.mem_flatMap.1 hb
    exact fun hc => notMem_of_mem_splitOnChar hline ((shows_blocks line).subset hb hc)

theorem nonblank_wrapPlain (t : Text) : nonblank (wrapPlain t) = nonblank t := by
  have ht := nonblank_joinWith (splitOnChar '\n' t)
  rw [joinWith_splitOnChar] at ht
  rw [wrapPlain, nonblank_joinWith, ht, List.flatMap_assoc]
  exact List.flatMap_congr fun line _ => (shows_blocks line).nonblank_eq

theorem wrapPlain_wrapPlain (t : Text) : wrapPlain (wrapPlain t) = wrapPlain t := by
  rw [wrapPlain, splitOnChar_wrapPlain, List.flatMap_assoc]
  refine congrArg (joinWith ['\n']) (List.flatMap_congr fun line _ => ?_)
  have hshows := shows_blocks line
  have hblocks : ∀ b ∈ blocks line, blocks b = [b] := fun b hb =>
    blocks_of_narrow (hshows.trim_eq hb) (hshows.narrow b hb)
  rw [List.flatMap_congr hblocks]
  simp

/-- Wrapping loses nothing but white space and shows each line for itself, and wrapped text stays as
it is. -/
theorem wrapPlain_lossless (t : Text) :
    nonblank (wrapPlain t) = nonblank t ∧
      (∃ shown : List (List Text), List.Forall₂ Shows (splitOnChar '\n' t) shown ∧
        splitOnChar '\n' (wrapPlain t) = shown.flatten) ∧
        wrapPlain (wrapPlain t) = wrapPlain t := by
  refine ⟨nonblank_wrapPlain t, ⟨(splitOnChar '\n' t).map blocks, ?_, ?_⟩, wrapPlain_wrapPlain t⟩
  · rw [List.forall₂_map_right_iff, List.forall₂_same]
    exact fun line _ => shows_blocks line
  · rw [splitOnChar_wrapPlain, List.flatMap_def]

end Rendering

end LanguageClient
