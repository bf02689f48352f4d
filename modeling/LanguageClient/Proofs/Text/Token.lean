import LanguageClient.Proofs.Text.Offset
import LanguageClient.Text.Token
import Mathlib.Data.List.DropRight
namespace LanguageClient

/-!
# Tokens as maximal runs

A token run is told by the text alone: token characters between two others or an end. Through
every place of a text goes exactly one, which is empty where no token character is next to it, and
it is the one that the scans to both sides find.
-/

namespace Text

/-- Token characters that no token character continues on either side. -/
structure MaximalRun (before run after : Text) : Prop where
  token : ∀ c ∈ run, isTokenChar c = true
  starts : ∀ c ∈ before.getLast?, isTokenChar c = false
  stops : ∀ c ∈ after.head?, isTokenChar c = false

/-- The byte offsets of a maximal run. -/
def TokenRun (t : Text) (span : Nat × Nat) : Prop :=
  ∃ before run after, t = before ++ run ++ after ∧ MaximalRun before run after ∧
    span = (byteLength before, byteLength before + byteLength run)

/-! ## The two scans -/

theorem exists_tokenSuffix (t : Text) :
    ∃ before, t = before ++ tokenSuffix t ∧ (∀ c ∈ tokenSuffix t, isTokenChar c = true) ∧
      ∀ c ∈ before.getLast?, isTokenChar c = false := by
  refine ⟨t.rdropWhile isTokenChar, List.rdropWhile_append_rtakeWhile.symm,
    fun c hc => List.mem_rtakeWhile_imp hc, fun c hc => ?_⟩
  obtain ⟨hne, hlast⟩ := List.mem_getLast?_eq_getLast hc
  rw [hlast]
  exact Bool.eq_false_iff.2 (List.rdropWhile_last_not isTokenChar t hne)

theorem exists_tokenStart (t : Text) :
    ∃ after, t = tokenStart t ++ after ∧ (∀ c ∈ tokenStart t, isTokenChar c = true) ∧
      ∀ c ∈ after.head?, isTokenChar c = false := by
  refine ⟨t.dropWhile isTokenChar, List.takeWhile_append_dropWhile.symm,
    fun c hc => List.mem_takeWhile_imp hc, fun c hc => ?_⟩
  have hhead := List.head?_dropWhile_not isTokenChar t
  rw [Option.mem_def.1 hc] at hhead
  simpa using hhead

theorem tokenStart_append {run after : Text} (hrun : ∀ c ∈ run, isTokenChar c = true)
    (hafter : ∀ c ∈ after.head?, isTokenChar c = false) : tokenStart (run ++ after) = run := by
  unfold tokenStart
  rw [List.takeWhile_append_of_pos hrun]
  cases after with
  | nil => simp
  | cons c after => simp [hafter c rfl]

theorem tokenSuffix_append {before run : Text} (hrun : ∀ c ∈ run, isTokenChar c = true)
    (hbefore : ∀ c ∈ before.getLast?, isTokenChar c = false) :
    tokenSuffix (before ++ run) = run := by
  have hreverse : (before ++ run).reverse.takeWhile isTokenChar = run.reverse := by
    rw [List.reverse_append]
    exact tokenStart_append (by simpa using hrun) (by simpa using hbefore)
  unfold tokenSuffix
  rw [hreverse, List.reverse_reverse]

/-- At a place inside a maximal run, or at an end of it, the scans find that run. -/
theorem tokenAround_of_maximalRun {before left right after : Text}
    (h : MaximalRun before (left ++ right) after) :
    tokenAround (before ++ left ++ (right ++ after)) (byteLength (before ++ left)) =
      (byteLength before, byteLength before + byteLength (left ++ right)) := by
  have hleft := tokenSuffix_append (fun c hc => h.token c (List.mem_append_left _ hc)) h.starts
  have hright := tokenStart_append (fun c hc => h.token c (List.mem_append_right _ hc)) h.stops
  simp only [tokenAround, clampOffset, takeBytes_byteLength, dropBytes_byteLength, hleft, hright]
  simp only [byteLength_append, Prod.mk.injEq]
  omega

/-! ## The run through a place -/

theorem exists_cut_of_run {before run after : Text} {n : Nat}
    (hn : IsBoundary (before ++ run ++ after) n) (hstart : byteLength before ≤ n)
    (hstop : n ≤ byteLength (before ++ run)) :
    ∃ left right, run = left ++ right ∧ byteLength (before ++ left) = n := by
  obtain ⟨x, y, hxy, rfl⟩ := isBoundary_iff.1 (isBoundary_of_append hn hstop)
  obtain ⟨left, rfl, rfl⟩ | ⟨s, rfl, rfl⟩ := List.append_eq_append_iff.1 hxy
  · exact ⟨left, y, rfl, rfl⟩
  · have hs : s = [] := by
      by_contra hs
      have hpos := byteLength_pos hs
      rw [byteLength_append] at hstart
      omega
    exact ⟨[], run, rfl, by simp [hs]⟩

/-- Exactly one maximal run goes through a place, and the scans from there find it. -/
theorem tokenRun_iff {t : Text} {n : Nat} (hn : IsBoundary t n) {span : Nat × Nat} :
    TokenRun t span ∧ span.1 ≤ n ∧ n ≤ span.2 ↔ span = tokenAround t n := by
  constructor
  · rintro ⟨⟨before, run, after, rfl, hrun, rfl⟩, hstart, hstop⟩
    rw [← byteLength_append] at hstop
    obtain ⟨left, right, rfl, rfl⟩ := exists_cut_of_run hn hstart hstop
    rw [← List.append_assoc before left right, List.append_assoc _ right after,
      tokenAround_of_maximalRun hrun]
  · rintro rfl
    obtain ⟨a, b, rfl, rfl⟩ := isBoundary_iff.1 hn
    obtain ⟨before, ha, hleft, hstarts⟩ := exists_tokenSuffix a
    obtain ⟨after, hb, hright, hstops⟩ := exists_tokenStart b
    have hrun : MaximalRun before (tokenSuffix a ++ tokenStart b) after :=
      ⟨fun c hc => (List.mem_append.1 hc).elim (hleft c) (hright c), hstarts, hstops⟩
    have hspan := tokenAround_of_maximalRun hrun
    rw [← ha, ← hb] at hspan
    rw [hspan]
    refine ⟨⟨before, _, after, ?_, hrun, rfl⟩, ?_, ?_⟩
    · rw [← List.append_assoc before, ← ha, List.append_assoc, ← hb]
    · have hlength := congrArg byteLength ha
      rw [byteLength_append] at hlength
      omega
    · have hlength := congrArg byteLength ha
      simp only [byteLength_append] at hlength ⊢
      omega

theorem TokenRun.ordered {t : Text} {span : Nat × Nat} (h : TokenRun t span) :
    span.1 ≤ span.2 ∧ IsBoundary t span.1 ∧ IsBoundary t span.2 := by
  obtain ⟨before, run, after, rfl, -, rfl⟩ := h
  refine ⟨Nat.le_add_right _ _, ?_, ?_⟩
  · rw [List.append_assoc]
    exact isBoundary_append before (run ++ after)
  · have hstop := isBoundary_append (before ++ run) after
    rwa [byteLength_append] at hstop

end Text

end LanguageClient
