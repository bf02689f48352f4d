import LanguageClient.Proofs.Text.Offset
import Mathlib.Order.Bounds.Basic
namespace LanguageClient

/-!
# Lines and columns

Reading a text on leads to later positions, so the places of a text and their positions are in one
order, and each line has its columns. A position that no place has stands for the least column of
its line that is not short of it or, when there is none, for the end of the line. A line past the
end stands for the last line whatever the column is, so a position past the end can come after one
of the last line and yet stand for an earlier place.
-/

namespace Position

theorem lt_iff {p q : Position} :
    p < q ↔ p.line < q.line ∨ p.line = q.line ∧ p.character < q.character := by
  change p.before q = true ↔ _
  simp [before]

theorem le_iff {p q : Position} :
    p ≤ q ↔ p.line < q.line ∨ p.line = q.line ∧ p.character ≤ q.character := by
  change ¬ q < p ↔ _
  rw [lt_iff]
  omega

theorem lt_trans {p q r : Position} (hpq : p < q) (hqr : q < r) : p < r := by
  rw [lt_iff] at *
  omega

theorem not_lt_self (p : Position) : ¬ p < p := by
  rw [lt_iff]
  omega

theorem lt_advance (p : Position) (c : Char) : p < p.advance c := by
  unfold advance
  split <;> rw [lt_iff]
  · exact .inl (Nat.lt_succ_self _)
  · exact .inr ⟨rfl, Nat.lt_add_of_pos_right (Text.charUnits_pos c)⟩

theorem lt_foldl_advance {t : Text} (ht : t ≠ []) (p : Position) : p < t.foldl advance p := by
  induction t generalizing p with
  | nil => exact absurd rfl ht
  | cons c t ih =>
      rw [List.foldl_cons]
      by_cases htail : t = []
      · rw [htail]
        exact lt_advance p c
      · exact lt_trans (lt_advance p c) (ih htail _)

end Position

namespace Text

/-- The offsets of the places of a text: between two characters, or at an end. -/
def places (t : Text) : Set Nat := {n | ∃ a b, t = a ++ b ∧ byteLength a = n}

/-- The columns of a line. -/
def columns (t : Text) (line : Nat) : Set Nat :=
  {k | ∃ n ∈ t.places, t.position n = ⟨line, k⟩}

/-- The columns of a line short of its end. -/
def innerColumns (t : Text) (line : Nat) : Set Nat :=
  {k | k ∈ t.columns line ∧ ∃ e ∈ t.columns line, k < e}

/-- The last line; lines are counted from 0. -/
def lastLine (t : Text) : Nat := t.count '\n'

/-- Among the columns of a line, the column that stands for `c`: the least that is not short of it
or, if all are, the end of the line. -/
def StandsFor (columns : Set Nat) (c k : Nat) : Prop :=
  IsLeast {j | j ∈ columns ∧ c ≤ j} k ∨ (∀ j ∈ columns, j < c) ∧ IsGreatest columns k

/-! ## Places -/

theorem mem_places_append (a b : Text) : byteLength a ∈ places (a ++ b) := ⟨a, b, rfl, rfl⟩

theorem mem_places_iff {t : Text} {n : Nat} : n ∈ t.places ↔ t.IsBoundary n :=
  isBoundary_iff.symm

theorem byteLength_le_clampOffset (a b : Text) {o : Nat} (h : byteLength a ≤ o) :
    byteLength a ≤ clampOffset (a ++ b) o := by
  induction a generalizing o with
  | nil => exact Nat.zero_le _
  | cons c a ih =>
      rw [byteLength_cons] at h
      have hle := ih (o := o - c.utf8Size) (by omega)
      rw [clampOffset] at hle ⊢
      rw [List.cons_append, takeBytes, if_pos (by omega), byteLength_cons, byteLength_cons]
      omega

/-- An offset is clamped to the last place that is not past it. -/
theorem isGreatest_clampOffset (t : Text) (o : Nat) :
    IsGreatest {n | n ∈ t.places ∧ n ≤ min o t.byteLength} (t.clampOffset o) := by
  constructor
  · refine ⟨⟨takeBytes t o, dropBytes t o, (takeBytes_append_dropBytes t o).symm, rfl⟩, ?_⟩
    exact le_min (clampOffset_le t o) (clampOffset_le_byteLength t o)
  · rintro n ⟨⟨a, b, rfl, rfl⟩, hn⟩
    exact byteLength_le_clampOffset a b (le_trans hn (min_le_left _ _))

theorem takeBytes_clampOffset (t : Text) (o : Nat) :
    takeBytes t (clampOffset t o) = takeBytes t o := by
  have h := takeBytes_byteLength (takeBytes t o) (dropBytes t o)
  rwa [takeBytes_append_dropBytes] at h

theorem position_clampOffset (t : Text) (o : Nat) :
    t.position (t.clampOffset o) = t.position o := by
  unfold position
  rw [takeBytes_clampOffset]

theorem offset_position_eq_clampOffset (t : Text) (o : Nat) :
    t.offset (t.position o) = t.clampOffset o := by
  rw [← position_clampOffset]
  exact offset_position_of_isBoundary (mem_places_iff.1 (isGreatest_clampOffset t o).1.1)

theorem position_lt_position {t : Text} {m n : Nat} (hm : m ∈ t.places) (hn : n ∈ t.places)
    (h : m < n) : t.position m < t.position n := by
  obtain ⟨a, s, b, rfl, rfl, rfl⟩ :=
    exists_cuts (mem_places_iff.1 hm) (mem_places_iff.1 hn) (Nat.le_of_lt h)
  have hs : s ≠ [] := by
    rintro rfl
    simp at h
  rw [← byteLength_append, position_byteLength, List.append_assoc, position_byteLength,
    List.foldl_append]
  exact Position.lt_foldl_advance hs _

theorem position_lt_iff {t : Text} {m n : Nat} (hm : m ∈ t.places) (hn : n ∈ t.places) :
    t.position m < t.position n ↔ m < n := by
  refine ⟨fun h => ?_, position_lt_position hm hn⟩
  rcases Nat.lt_trichotomy m n with hlt | rfl | hgt
  · exact hlt
  · exact absurd h (Position.not_lt_self _)
  · exact absurd (Position.lt_trans h (position_lt_position hn hm hgt)) (Position.not_lt_self _)

theorem units_le_byteLength (t : Text) : units t ≤ byteLength t := by
  induction t with
  | nil => exact Nat.le_refl _
  | cons c t ih =>
      have hc : charUnits c ≤ c.utf8Size := by
        unfold charUnits Char.utf8Size
        grind
      rw [units_cons, byteLength_cons]
      omega

/-- Lines and columns need no more room than offsets. -/
theorem position_le_byteLength (t : Text) (o : Nat) :
    (t.position o).line ≤ t.byteLength ∧ (t.position o).character ≤ t.byteLength := by
  obtain ⟨hline, hcharacter⟩ := position_le_units t o
  exact ⟨le_trans hline (units_le_byteLength t), le_trans hcharacter (units_le_byteLength t)⟩

/-! ## The columns of a line -/

theorem position_in_line {before a : Text} {line : Nat} (b : Text)
    (hbefore : before.foldl Position.advance Position.origin = ⟨line, 0⟩) (ha : '\n' ∉ a) :
    position (before ++ (a ++ b)) (byteLength (before ++ a)) = ⟨line, units a⟩ := by
  rw [← List.append_assoc, position_byteLength, List.foldl_append, hbefore]
  have hline := line_foldl_advance a ⟨line, 0⟩
  have hcharacter := character_foldl_advance ha ⟨line, 0⟩
  rw [List.count_eq_zero_of_not_mem ha] at hline
  rw [Nat.zero_add] at hcharacter
  exact congrArg₂ Position.mk hline hcharacter

/-- The columns of a line can be told from the text after its start. -/
theorem mem_columns_iff {before r : Text} {line : Nat}
    (hbefore : before.foldl Position.advance Position.origin = ⟨line, 0⟩) (k : Nat) :
    k ∈ columns (before ++ r) line ↔ ∃ a b, r = a ++ b ∧ '\n' ∉ a ∧ units a = k := by
  constructor
  · rintro ⟨n, ⟨x, y, hxy, rfl⟩, hposition⟩
    rw [hxy, position_byteLength] at hposition
    rcases List.append_eq_append_iff.1 hxy with ⟨z, rfl, rfl⟩ | ⟨z, rfl, rfl⟩
    · rw [List.foldl_append, hbefore] at hposition
      have hline := congrArg Position.line hposition
      rw [line_foldl_advance] at hline
      have hz : '\n' ∉ z := List.count_eq_zero.1 (by simpa using hline)
      have hcharacter := congrArg Position.character hposition
      rw [character_foldl_advance hz] at hcharacter
      exact ⟨z, y, rfl, hz, by simpa using hcharacter⟩
    · -- A place before the line has an earlier position than the start of the line.
      by_cases hz : z = []
      · subst hz
        rw [List.append_nil, hposition] at hbefore
        exact ⟨[], r, rfl, List.not_mem_nil, (congrArg Position.character hbefore).symm⟩
      · have hlt := Position.lt_foldl_advance hz ⟨line, k⟩
        rw [← hposition, ← List.foldl_append, hbefore, hposition] at hlt
        simp [Position.lt_iff] at hlt
  · rintro ⟨a, b, rfl, ha, rfl⟩
    exact ⟨byteLength (before ++ a), ⟨before ++ a, b, by simp, rfl⟩,
      position_in_line b hbefore ha⟩

/-- Where the counting of columns stops, the column stands for the one that was asked for. -/
theorem standsFor_units {a b : Text} {c : Nat} {columns : Set Nat}
    (hcolumns : ∀ k, k ∈ columns ↔ ∃ x y, a ++ b = x ++ y ∧ '\n' ∉ x ∧ units x = k)
    (ha : '\n' ∉ a) (hshort : ∀ x y, a = x ++ y → y ≠ [] → units x < c)
    (hend : c ≤ units a ∨ b = [] ∨ ∃ r, b = '\n' :: r) : StandsFor columns c (units a) := by
  have hmem : units a ∈ columns := (hcolumns _).2 ⟨a, b, rfl, ha, rfl⟩
  rcases Nat.lt_or_ge (units a) c with hlt | hge
  · have hlast : ∀ j ∈ columns, j ≤ units a := by
      intro j hj
      obtain ⟨x, y, hxy, hx, rfl⟩ := (hcolumns j).1 hj
      rcases List.append_eq_append_iff.1 hxy with ⟨z, rfl, hz⟩ | ⟨z, rfl, -⟩
      · have hnil : z = [] := by
          rcases hend with hle | rfl | ⟨r, rfl⟩
          · omega
          · exact (List.append_eq_nil_iff.1 hz.symm).1
          · cases z with
            | nil => rfl
            | cons d z => simp [← (List.cons.inj hz).1] at hx
        simp [hnil]
      · simp
    exact .inr ⟨fun j hj => Nat.lt_of_le_of_lt (hlast j hj) hlt, hmem, hlast⟩
  · refine .inl ⟨⟨hmem, hge⟩, ?_⟩
    rintro j ⟨hj, hcj⟩
    obtain ⟨x, y, hxy, -, rfl⟩ := (hcolumns j).1 hj
    rcases List.append_eq_append_iff.1 hxy with ⟨z, rfl, -⟩ | ⟨z, rfl, -⟩
    · simp
    · by_cases hz : z = []
      · simp [hz]
      · exact absurd (hshort x z rfl hz) (Nat.not_lt.2 hcj)

/-- A position leads to its line, or to the last line if there are fewer, and there to the column
that its own stands for. -/
theorem exists_column (t : Text) (p : Position) :
    ∃ k, t.position (t.offset p) = ⟨min p.line t.lastLine, k⟩ ∧
      StandsFor (t.columns (min p.line t.lastLine)) p.character k := by
  obtain ⟨before, ht, hbefore⟩ := exists_fromLine t p.line
  obtain ⟨a, b, hab, hlength, ha, hshort, hend⟩ :=
    exists_columnOffset (fromLine t p.line) p.character
  have hstart : before.foldl Position.advance Position.origin = ⟨min p.line t.lastLine, 0⟩ := by
    have h := hbefore 0
    rwa [Nat.zero_add] at h
  have hoffset : t.offset p = byteLength (before ++ a) := by
    have h := congrArg byteLength ht
    rw [byteLength_append] at h
    rw [byteLength_append, hlength, offset]
    omega
  rw [hab] at ht
  have hcolumns := mem_columns_iff (r := a ++ b) hstart
  rw [← ht] at hcolumns
  refine ⟨units a, ?_, standsFor_units hcolumns ha hshort hend⟩
  have hposition := position_in_line b hstart ha
  rwa [← ht, ← hoffset] at hposition

theorem offset_mem_places (t : Text) (p : Position) : t.offset p ∈ t.places :=
  mem_places_iff.2 (isBoundary_offset t p)

theorem le_byteLength_of_mem_places {t : Text} {n : Nat} (h : n ∈ t.places) :
    n ≤ t.byteLength := by
  obtain ⟨a, b, rfl, rfl⟩ := h
  simp

/-- Offsets and positions lead back and forth between the places of a text. -/
theorem offsets_and_positions (t : Text) :
    (∀ o, IsGreatest {n | n ∈ t.places ∧ n ≤ min o t.byteLength} (t.clampOffset o)) ∧
    (∀ o, t.offset (t.position o) = t.clampOffset o) ∧
    (∀ m ∈ t.places, ∀ n ∈ t.places, t.position m < t.position n ↔ m < n) ∧
    (∀ o, (t.position o).line ≤ t.byteLength ∧ (t.position o).character ≤ t.byteLength) ∧
    ∀ p : Position, t.offset p ∈ t.places ∧ t.offset p ≤ t.byteLength ∧
      ∃ k, t.position (t.offset p) = ⟨min p.line t.lastLine, k⟩ ∧
        (IsLeast {j | j ∈ t.columns (min p.line t.lastLine) ∧ p.character ≤ j} k ∨
          (∀ j ∈ t.columns (min p.line t.lastLine), j < p.character) ∧
            IsGreatest (t.columns (min p.line t.lastLine)) k) :=
  ⟨isGreatest_clampOffset t, offset_position_eq_clampOffset t,
    fun _ hm _ hn => position_lt_iff hm hn, position_le_byteLength t,
    fun p => ⟨offset_mem_places t p, le_byteLength_of_mem_places (offset_mem_places t p),
      exists_column t p⟩⟩

theorem offsets_and_positions_of_units :
    let t : Text := "é𝄞x\nab".toList
    (2 ∈ t.places ∧ 6 ∈ t.places) ∧
      (t.position 2 < t.position 6 ↔ 2 < 6) ∧ t.offset ⟨0, 2⟩ ∈ t.places := by
  intro t
  have h2 : 2 ∈ t.places := ⟨['é'], "𝄞x\nab".toList, rfl, rfl⟩
  have h6 : 6 ∈ t.places := ⟨['é', '𝄞'], "x\nab".toList, rfl, rfl⟩
  obtain ⟨-, -, hposition, -, hoffset⟩ := offsets_and_positions t
  exact ⟨⟨h2, h6⟩, hposition 2 h2 6 h6, (hoffset ⟨0, 2⟩).1⟩

/-! ## Document order -/

namespace StandsFor

variable {columns : Set Nat} {c d k j : Nat}

theorem mem (h : StandsFor columns c k) : k ∈ columns := by
  rcases h with h | ⟨-, h⟩
  · exact h.1.1
  · exact h.1

/-- One column stands for less than another exactly when a column short of the end lies between. -/
theorem lt_iff (hk : StandsFor columns c k) (hj : StandsFor columns d j) :
    k < j ↔ ∃ x ∈ columns, c ≤ x ∧ x < d ∧ ∃ e ∈ columns, x < e := by
  constructor
  · intro hlt
    have hck : c ≤ k := by
      rcases hk with hk | ⟨-, hk⟩
      · exact hk.1.2
      · exact absurd (hk.2 hj.mem) (Nat.not_le.2 hlt)
    have hkd : k < d := by
      rcases hj with hj | ⟨hj, -⟩
      · by_contra hdk
        exact absurd (hj.2 ⟨hk.mem, Nat.not_lt.1 hdk⟩) (Nat.not_le.2 hlt)
      · exact hj k hk.mem
    exact ⟨k, hk.mem, hck, hkd, j, hj.mem, hlt⟩
  · rintro ⟨x, hx, hcx, hxd, e, he, hxe⟩
    have hkx : k ≤ x := by
      rcases hk with hk | ⟨hk, -⟩
      · exact hk.2 ⟨hx, hcx⟩
      · exact absurd (hk x hx) (Nat.not_lt.2 hcx)
    have hxj : x < j := by
      rcases hj with hj | ⟨-, hj⟩
      · exact Nat.lt_of_lt_of_le hxd hj.1.2
      · exact Nat.lt_of_lt_of_le hxe (hj.2 he)
    exact Nat.lt_of_le_of_lt hkx hxj

theorem isGreatest_iff (hk : StandsFor columns c k) :
    IsGreatest columns k ↔ ∀ x ∈ columns, (∃ e ∈ columns, x < e) → x < c := by
  constructor
  · rintro hlast x hx ⟨e, he, hxe⟩
    by_contra hcx
    have hkx : k ≤ x := by
      rcases hk with hk | ⟨hk, -⟩
      · exact hk.2 ⟨hx, Nat.not_lt.1 hcx⟩
      · exact absurd (hk x hx) hcx
    exact absurd (hlast.2 he) (Nat.not_le.2 (Nat.lt_of_le_of_lt hkx hxe))
  · intro h
    rcases hk with hk | ⟨-, hk⟩
    · refine ⟨hk.1.1, fun e he => ?_⟩
      by_contra hek
      exact absurd (h k hk.1.1 ⟨e, he, Nat.not_le.1 hek⟩) (Nat.not_lt.2 hk.1.2)
    · exact hk

end StandsFor

/-- A position past the last line that comes after another stands for an earlier place than it:
both are clamped to the last line, and there its column is short of the other's. -/
def Overtakes (t : Text) (p q : Position) : Prop :=
  t.lastLine < q.line ∧ t.lastLine ≤ p.line ∧
    ∃ c ∈ t.innerColumns t.lastLine, q.character ≤ c ∧ c < p.character

/-- Positions in order stand for places in order, unless the later one is past the end. -/
theorem offset_lt_offset_iff (t : Text) {p q : Position} (h : p ≤ q) :
    t.offset q < t.offset p ↔ t.Overtakes p q := by
  obtain ⟨k, hp, hk⟩ := exists_column t p
  obtain ⟨j, hq, hj⟩ := exists_column t q
  rw [← position_lt_iff (offset_mem_places t q) (offset_mem_places t p), hp, hq, Position.lt_iff]
  rw [Position.le_iff] at h
  by_cases hline : t.lastLine < q.line ∧ t.lastLine ≤ p.line
  · rw [Nat.min_eq_right hline.2] at hk ⊢
    rw [Nat.min_eq_right (Nat.le_of_lt hline.1)] at hj ⊢
    simp only [Nat.lt_irrefl, false_or, true_and, hj.lt_iff hk]
    constructor
    · rintro ⟨c, hc, hqc, hcp, hinner⟩
      exact ⟨hline.1, hline.2, c, ⟨hc, hinner⟩, hqc, hcp⟩
    · rintro ⟨-, -, c, ⟨hc, hinner⟩, hqc, hcp⟩
      exact ⟨c, hc, hqc, hcp, hinner⟩
  · have hnone : ¬ t.Overtakes p q := fun hover => hline ⟨hover.1, hover.2.1⟩
    simp only [hnone, iff_false]
    rintro (hlt | ⟨heq, hlt⟩)
    · omega
    · -- Both are on one line, where a column that is not short of another stands for no less.
      have hcharacter : p.character ≤ q.character := by omega
      rw [heq] at hj
      obtain ⟨x, -, hqx, hxp, -⟩ := (hj.lt_iff hk).1 hlt
      omega

theorem byteLength_mem_places (t : Text) : t.byteLength ∈ t.places := ⟨t, [], by simp, rfl⟩

theorem line_position_byteLength (t : Text) : (t.position t.byteLength).line = t.lastLine := by
  have h := position_byteLength t []
  rw [List.append_nil] at h
  rw [h, line_foldl_advance]
  exact Nat.zero_add _

/-- A position on or past the last line stands for the end of the text when it is past all
columns short of the end of that line. -/
theorem offset_eq_byteLength_iff (t : Text) {p : Position} (h : t.lastLine ≤ p.line) :
    t.offset p = t.byteLength ↔ ∀ c ∈ t.innerColumns t.lastLine, c < p.character := by
  have hplace := offset_mem_places t p
  have hend := byteLength_mem_places t
  obtain ⟨k, hp, hk⟩ := exists_column t p
  rw [Nat.min_eq_right h] at hp hk
  have hinner : (∀ c ∈ t.innerColumns t.lastLine, c < p.character) ↔
      IsGreatest (t.columns t.lastLine) k := by
    rw [hk.isGreatest_iff]
    exact ⟨fun hall x hx he => hall x ⟨hx, he⟩, fun hall c hc => hall c hc.1 hc.2⟩
  rw [hinner]
  constructor
  · intro heq
    rw [heq] at hp
    refine ⟨hk.mem, ?_⟩
    rintro j ⟨n, hn, hj⟩
    by_contra hkj
    have hlt : t.position t.byteLength < t.position n := by
      rw [hp, hj, Position.lt_iff]
      exact .inr ⟨rfl, Nat.not_le.1 hkj⟩
    have hn' := le_byteLength_of_mem_places hn
    have := (position_lt_iff hend hn).1 hlt
    omega
  · intro hlast
    have hle := le_byteLength_of_mem_places hplace
    refine Nat.le_antisymm hle (Nat.not_lt.1 fun hlt => ?_)
    have hposition := position_lt_position hplace hend hlt
    have hline := line_position_byteLength t
    have hcolumn : (t.position t.byteLength).character ≤ k :=
      hlast.2 ⟨t.byteLength, hend, by rw [← hline]⟩
    rw [hp, Position.lt_iff, hline] at hposition
    simp only [Nat.lt_irrefl, false_or, true_and] at hposition
    omega

/-- A range in order is read in order and, where it ends past the last line, reaches to the end of
the text, unless its end is short of a column of the last line that its start is past, or of one
that is short of the end. -/
theorem offsets_of_ordered_range (t : Text) {p q : Position} (h : p ≤ q) :
    (t.offset q < t.offset p ↔ t.Overtakes p q) ∧
    (¬ t.Overtakes p q → t.offsets ⟨p, q⟩ = (t.offset p, t.offset q)) ∧
    (t.Overtakes p q → t.offsets ⟨p, q⟩ = (t.offset q, t.offset p)) ∧
    (t.lastLine < q.line →
      (t.offsets ⟨p, q⟩ = (t.offset p, t.byteLength) ↔
        ∀ c ∈ t.innerColumns t.lastLine, c < q.character)) := by
  have hiff := offset_lt_offset_iff t h
  refine ⟨hiff, fun hnot => ?_, fun hover => ?_, fun hline => ?_⟩
  · have hle := Nat.not_lt.1 (mt hiff.1 hnot)
    simp [offsets, hle]
  · have hle := Nat.le_of_lt (hiff.2 hover)
    simp [offsets, hle]
  · rw [← offset_eq_byteLength_iff t (Nat.le_of_lt hline)]
    have hp := le_byteLength_of_mem_places (offset_mem_places t p)
    simp only [offsets, Prod.mk.injEq]
    omega

theorem offsets_of_ordered_range_at_end :
    let t : Text := "ab\ncd".toList
    ((⟨0, 1⟩ : Position) ≤ ⟨1, 7⟩ ∧ ¬ t.Overtakes ⟨0, 1⟩ ⟨1, 7⟩ ∧
      t.offsets ⟨⟨0, 1⟩, ⟨1, 7⟩⟩ = (1, 5)) ∧
    (⟨1, 2⟩ : Position) ≤ ⟨2, 0⟩ ∧ t.Overtakes ⟨1, 2⟩ ⟨2, 0⟩ ∧ t.lastLine < 2 ∧
      t.offsets ⟨⟨1, 2⟩, ⟨2, 0⟩⟩ = (3, 5) ∧
      (t.offsets ⟨⟨1, 2⟩, ⟨2, 0⟩⟩ = (5, 5) ↔ ∀ c ∈ t.innerColumns t.lastLine, c < 0) := by
  intro t
  have hnot : ¬ t.Overtakes ⟨0, 1⟩ ⟨1, 7⟩ := fun h => absurd h.1 (by decide)
  have hover : t.Overtakes ⟨1, 2⟩ ⟨2, 0⟩ := by
    have hstart : 0 ∈ t.columns 1 := ⟨3, ⟨"ab\n".toList, "cd".toList, rfl, rfl⟩, rfl⟩
    have hend : 2 ∈ t.columns 1 := ⟨5, ⟨t, [], rfl, rfl⟩, rfl⟩
    exact ⟨by decide, by decide, 0, ⟨hstart, 2, hend, by decide⟩, by decide, by decide⟩
  obtain ⟨-, hordered, -⟩ :=
    offsets_of_ordered_range t (p := ⟨0, 1⟩) (q := ⟨1, 7⟩) (by decide)
  obtain ⟨-, -, hswapped, hlast⟩ :=
    offsets_of_ordered_range t (p := ⟨1, 2⟩) (q := ⟨2, 0⟩) (by decide)
  exact ⟨⟨by decide, hnot, hordered hnot⟩, by decide, hover, by decide, hswapped hover,
    hlast (by decide)⟩

/-- Clamping alone does not keep the order: past the last line the column is counted on it, short
of the end or of the start. -/
theorem offset_past_last_line :
    let t : Text := "ab\ncd".toList
    ((⟨1, 2⟩ : Position) ≤ ⟨2, 0⟩ ∧ ¬ t.offset ⟨1, 2⟩ ≤ t.offset ⟨2, 0⟩ ∧
      t.offsets ⟨⟨1, 2⟩, ⟨2, 0⟩⟩ = (t.offset ⟨2, 0⟩, t.offset ⟨1, 2⟩)) ∧
    (⟨0, 0⟩ : Position) ≤ ⟨9, 0⟩ ∧ t.offsets ⟨⟨0, 0⟩, ⟨9, 0⟩⟩ = (0, 3) ∧ t.byteLength = 5 := by
  decide

end Text
end LanguageClient
