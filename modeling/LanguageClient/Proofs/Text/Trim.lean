import LanguageClient.Text.Basic
import LanguageClient.Text.Blank
import Mathlib.Data.List.DropRight
namespace LanguageClient

/-!
# Trimmed and cut texts

Trimming takes white space off both ends of a text, and only off its last one when the text starts
with a visible character. A text is cut at a separator alike whatever follows.
-/

namespace Text

/-- The text starts with a character that is no white space. -/
def Solid (t : Text) : Prop := ∃ c ∈ t.head?, isBlank c = false

theorem Solid.append {t : Text} (h : Solid t) (r : Text) : Solid (t ++ r) := by
  obtain ⟨c, hc, hblank⟩ := h
  exact ⟨c, List.mem_head?_append_of_mem_head? hc, hblank⟩

theorem Solid.of_initial {s t : Text} (h : Solid t) (hp : s <+: t) (hne : s ≠ []) : Solid s := by
  obtain ⟨c, hc, hblank⟩ := h
  obtain ⟨r, rfl⟩ := hp
  rw [List.head?_append_of_ne_nil _ hne] at hc
  exact ⟨c, hc, hblank⟩

theorem initial_trimEnd (t : Text) : trimEnd t <+: t := List.rdropWhile_prefix isBlank t

theorem trimEnd_append {r : Text} (h : ∀ c ∈ r, isBlank c = true) (t : Text) :
    trimEnd (t ++ r) = trimEnd t := by
  unfold trimEnd
  rw [List.reverse_append, List.dropWhile_append_of_pos (by simpa using h)]

theorem Solid.trim_eq {t : Text} (h : Solid t) : trim t = trimEnd t := by
  obtain ⟨c, hc, hblank⟩ := h
  cases t with
  | nil => cases hc
  | cons d r =>
    obtain rfl : d = c := Option.some.inj hc
    rw [trim, trimStart, List.dropWhile_cons_of_neg (by simp [hblank])]

theorem Solid.initial_trim {t : Text} (h : Solid t) : trim t <+: t := by
  rw [h.trim_eq]
  exact initial_trimEnd t

theorem Solid.trim_ne_nil {t : Text} (h : Solid t) : trim t ≠ [] := by
  rw [h.trim_eq]
  intro hnil
  obtain ⟨c, hc, hblank⟩ := h
  have := List.rdropWhile_eq_nil_iff.1 hnil c (List.mem_of_mem_head? hc)
  rw [hblank] at this
  cases this

theorem Solid.trim_append {t : Text} (h : Solid t) {r : Text} (hr : ∀ c ∈ r, isBlank c = true) :
    trim (t ++ r) = trim t := by
  rw [(h.append r).trim_eq, trimEnd_append hr, h.trim_eq]

theorem trim_of_forall {t : Text} (h : ∀ c ∈ t, isBlank c = true) : trim t = [] := by
  rw [trim, trimStart, List.dropWhile_eq_nil_iff.2 h]
  rfl

theorem trimEnd_append_visible (s : Text) {t : Text} (h : ∀ c ∈ t, isBlank c = false)
    (hne : t ≠ []) : trimEnd (s ++ t) = s ++ t := by
  refine List.rdropWhile_eq_self_iff.2 fun hl => ?_
  rw [List.getLast_append_of_ne_nil hl hne, h _ (List.getLast_mem hne)]
  exact Bool.false_ne_true

theorem trim_of_visible {t : Text} (h : ∀ c ∈ t, isBlank c = false) : trim t = t := by
  cases t with
  | nil => rfl
  | cons c t =>
    rw [Solid.trim_eq ⟨c, rfl, h c List.mem_cons_self⟩]
    exact trimEnd_append_visible [] h (List.cons_ne_nil c t)

theorem solid_trimStart {t : Text} (h : trimStart t ≠ []) : Solid (trimStart t) :=
  ⟨(trimStart t).head h, List.head_mem_head? h, List.head_dropWhile_not isBlank h⟩

theorem trimEnd_trimEnd (t : Text) : trimEnd (trimEnd t) = trimEnd t :=
  List.rdropWhile_idempotent isBlank t

theorem trim_trim (t : Text) : trim (trim t) = trim t := by
  by_cases h : trimStart t = []
  · have hnil : trim t = [] := by
      rw [trim, h]
      rfl
    rw [hnil]
    rfl
  · have hsolid := solid_trimStart h
    have hend : Solid (trim t) := hsolid.of_initial (initial_trimEnd _) (by
      have hne := hsolid.trim_ne_nil
      rwa [hsolid.trim_eq] at hne)
    rw [hend.trim_eq, trim, trimEnd_trimEnd]

/-- Trimming takes white space off both ends. -/
theorem exists_trim (t : Text) :
    ∃ a b, t = a ++ trim t ++ b ∧ (∀ c ∈ a, isBlank c = true) ∧ ∀ c ∈ b, isBlank c = true := by
  refine ⟨t.takeWhile isBlank, (trimStart t).rtakeWhile isBlank, ?_,
    fun c hc => List.mem_takeWhile_imp hc, fun c hc => List.mem_rtakeWhile_imp hc⟩
  have hstart : t.takeWhile isBlank ++ trimStart t = t := List.takeWhile_append_dropWhile
  have hend : trim t ++ (trimStart t).rtakeWhile isBlank = trimStart t :=
    List.rdropWhile_append_rtakeWhile
  rw [List.append_assoc, hend, hstart]

/-- Some character is no white space. -/
def Visible (t : Text) : Prop := ∃ c ∈ t, isBlank c = false

instance (t : Text) : Decidable (Visible t) :=
  decidable_of_iff ((t.any fun c => !isBlank c) = true) (by simp [Visible])

theorem not_visible_iff {t : Text} : ¬ Visible t ↔ ∀ c ∈ t, isBlank c = true := by
  simp only [Visible, not_exists, not_and, Bool.not_eq_false]

theorem trim_ne_nil_iff {t : Text} : trim t ≠ [] ↔ Visible t := by
  constructor
  · intro h
    by_contra hblank
    exact h (trim_of_forall (not_visible_iff.1 hblank))
  · rintro ⟨c, hc, hblank⟩ hnil
    obtain ⟨a, b, ht, ha, hb⟩ := exists_trim t
    rw [ht, hnil, List.append_nil] at hc
    have hc := (List.mem_append.1 hc).elim (ha c) (hb c)
    rw [hblank] at hc
    cases hc

theorem cut?_append_of_notMem {sep : Char} {before : Text} (h : sep ∉ before) (after : Text) :
    cut? sep (before ++ sep :: after) = some (before, after) := by
  induction before with
  | nil => simp [cut?]
  | cons c before ih =>
    rw [List.mem_cons, not_or] at h
    rw [List.cons_append, cut?, if_neg (Ne.symm h.1), ih h.2]
    rfl

/-- What stands before the first separator does not depend on what follows. -/
theorem cut?_of_initial {sep : Char} {s t before after : Text} (hp : s <+: t)
    (h : cut? sep s = some (before, after)) : ∃ after', cut? sep t = some (before, after') := by
  obtain ⟨r, rfl⟩ := hp
  obtain ⟨rfl, hnot⟩ := cut?_eq_some h
  rw [List.append_assoc, List.cons_append]
  exact ⟨_, cut?_append_of_notMem hnot _⟩

/-! ## The pieces between separators -/

theorem splitOnChar_append (sep : Char) (a b : Text) :
    splitOnChar sep (a ++ sep :: b) = splitOnChar sep a ++ splitOnChar sep b := by
  induction a with
  | nil => exact if_pos rfl
  | cons c a ih =>
    rw [List.cons_append, splitOnChar, splitOnChar, ih]
    split
    · rfl
    · cases h : splitOnChar sep a with
      | nil => exact absurd h (splitOnChar_ne_nil sep a)
      | cons piece pieces => rfl

theorem splitOnChar_of_notMem {sep : Char} {t : Text} (h : sep ∉ t) : splitOnChar sep t = [t] := by
  induction t with
  | nil => rfl
  | cons c t ih =>
    rw [List.mem_cons, not_or] at h
    rw [splitOnChar, if_neg fun heq => h.1 heq.symm, ih h.2]

theorem notMem_of_mem_splitOnChar {sep : Char} {t piece : Text} (h : piece ∈ splitOnChar sep t) :
    sep ∉ piece := by
  induction t generalizing piece with
  | nil => simp [List.mem_singleton.1 h]
  | cons c t ih =>
    rw [splitOnChar] at h
    split at h
    · rcases List.mem_cons.1 h with rfl | h
      · exact List.not_mem_nil
      · exact ih h
    · rename_i hc
      cases hpieces : splitOnChar sep t with
      | nil => exact absurd hpieces (splitOnChar_ne_nil sep t)
      | cons first rest =>
        rw [hpieces] at h ih
        rcases List.mem_cons.1 h with rfl | h
        · rw [List.mem_cons, not_or]
          exact ⟨Ne.symm hc, ih List.mem_cons_self⟩
        · exact ih (List.mem_cons_of_mem _ h)

theorem splitOnChar_joinWith {sep : Char} {pieces : List Text} (hne : pieces ≠ [])
    (h : ∀ piece ∈ pieces, sep ∉ piece) : splitOnChar sep (joinWith [sep] pieces) = pieces := by
  induction pieces with
  | nil => exact absurd rfl hne
  | cons piece pieces ih =>
    rw [List.forall_mem_cons] at h
    by_cases hnil : pieces = []
    · subst hnil
      simpa [joinWith] using splitOnChar_of_notMem h.1
    · rw [joinWith_cons _ _ hnil, List.singleton_append, splitOnChar_append,
        splitOnChar_of_notMem h.1, ih hnil h.2, List.singleton_append]

theorem mem_joinWith_iff {sep c : Char} (h : c ≠ sep) {pieces : List Text} :
    c ∈ joinWith [sep] pieces ↔ ∃ piece ∈ pieces, c ∈ piece := by
  induction pieces with
  | nil => simp [joinWith]
  | cons piece pieces ih =>
    by_cases hnil : pieces = []
    · subst hnil
      simp [joinWith]
    · rw [joinWith_cons _ _ hnil]
      simp [h, ih]

theorem cons_joinWith (sep : Char) {pieces : List Text} (h : pieces ≠ []) :
    sep :: joinWith [sep] pieces = pieces.flatMap (sep :: ·) := by
  induction pieces with
  | nil => exact absurd rfl h
  | cons piece pieces ih =>
    by_cases hnil : pieces = []
    · subst hnil
      simp [joinWith]
    · rw [joinWith_cons _ _ hnil, List.flatMap_cons, ← ih hnil]
      simp

end Text

/-!
## Decimal digits

A number written in decimal digits is read back from them.
-/

namespace Text

theorem foldl_toDigits (n : Nat) :
    (Nat.toDigits 10 n).foldl (fun n c => n * 10 + (c.toNat - 48)) 0 = n := by
  have h := Nat.ofDigitChars_ten_toDigits (n := n)
  rw [Nat.ofDigitChars_eq_foldl] at h
  simp only [Nat.mul_comm 10] at h
  exact h

/-- Only zero starts with a zero. -/
theorem toDigits_ne_zero_cons {n : Nat} {digits : Text} (h : Nat.toDigits 10 n = '0' :: digits) :
    digits = [] := by
  rcases Nat.lt_or_ge n 10 with hn | hn
  · rw [Nat.toDigits_of_lt_base hn] at h
    exact (List.cons.inj h).2.symm
  · rw [Nat.toDigits_of_base_le (by decide) hn] at h
    obtain ⟨c, front, hfront⟩ := List.exists_cons_of_ne_nil (Nat.toDigits_ne_nil (n := n / 10))
    rw [hfront, List.cons_append, List.cons.injEq] at h
    obtain ⟨rfl, -⟩ := h
    -- The digits before the last one start with the same zero, so they are of zero.
    have hzero := foldl_toDigits (n / 10)
    rw [hfront, toDigits_ne_zero_cons hfront] at hzero
    have : 0 = n / 10 := hzero
    omega
termination_by n

end Text

end LanguageClient
