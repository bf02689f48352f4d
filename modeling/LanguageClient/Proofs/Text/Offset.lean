import LanguageClient.Text.Position
namespace LanguageClient

/-!
# Offsets and positions

A byte offset between two characters and the position of that place stand for each other, whatever
follows them in the text. So a server that reads the range of a change back in the text before the
change finds the bytes that were replaced.
-/

namespace Text

theorem byteLength_pos {t : Text} (h : t ≠ []) : 0 < byteLength t := by
  obtain ⟨c, t, rfl⟩ := List.exists_cons_of_ne_nil h
  exact Nat.add_pos_left c.utf8Size_pos _

theorem charUnits_pos (c : Char) : 0 < charUnits c := by
  unfold charUnits
  split <;> omega

@[simp] theorem takeBytes_zero (t : Text) : takeBytes t 0 = [] := by
  cases t with
  | nil => rfl
  | cons c t =>
      have hc := c.utf8Size_pos
      simp only [takeBytes]
      rw [if_neg (by omega)]

@[simp] theorem dropBytes_zero (t : Text) : dropBytes t 0 = t := by
  have h := takeBytes_append_dropBytes t 0
  rwa [takeBytes_zero, List.nil_append] at h

theorem takeBytes_byteLength (a b : Text) : takeBytes (a ++ b) (byteLength a) = a := by
  rw [takeBytes_append, takeBytes_zero, List.append_nil]

theorem dropBytes_byteLength (a b : Text) : dropBytes (a ++ b) (byteLength a) = b := by
  rw [dropBytes_append, dropBytes_zero]

theorem isBoundary_append (a b : Text) : IsBoundary (a ++ b) (byteLength a) := by
  unfold IsBoundary clampOffset
  rw [takeBytes_byteLength]

theorem isBoundary_cons {c : Char} {t : Text} {n : Nat} (h : c.utf8Size ≤ n) :
    IsBoundary (c :: t) n ↔ IsBoundary t (n - c.utf8Size) := by
  simp only [IsBoundary, clampOffset, takeBytes, if_pos h, byteLength_cons]
  omega

theorem isBoundary_cons_of_lt {c : Char} {t : Text} {n : Nat} (h : n < c.utf8Size) :
    IsBoundary (c :: t) n ↔ n = 0 := by
  simp only [IsBoundary, clampOffset, takeBytes, if_neg (Nat.not_le.2 h), byteLength_nil]
  omega

theorem isBoundary_iff {t : Text} {n : Nat} :
    IsBoundary t n ↔ ∃ a b, t = a ++ b ∧ byteLength a = n := by
  constructor
  · intro h
    exact ⟨takeBytes t n, dropBytes t n, (takeBytes_append_dropBytes t n).symm, h⟩
  · rintro ⟨a, b, rfl, rfl⟩
    exact isBoundary_append a b

theorem slice_append (a s b : Text) :
    slice (a ++ s ++ b) (byteLength a) (byteLength a + byteLength s) = s := by
  unfold slice
  rw [List.append_assoc, dropBytes_byteLength, Nat.add_sub_cancel_left, takeBytes_byteLength]

theorem splice_append (a s b r : Text) :
    splice (a ++ s ++ b) (byteLength a) (byteLength a + byteLength s) r = a ++ r ++ b := by
  unfold splice
  have h := dropBytes_byteLength (a ++ s) b
  rw [byteLength_append] at h
  rw [h, List.append_assoc a s b, takeBytes_byteLength]

/-- Two boundaries in order cut a text into three. -/
theorem exists_cuts {t : Text} {start stop : Nat} (hstart : IsBoundary t start)
    (hstop : IsBoundary t stop) (h : start ≤ stop) :
    ∃ a s b, t = a ++ s ++ b ∧ byteLength a = start ∧ byteLength a + byteLength s = stop := by
  obtain ⟨a, r, rfl, rfl⟩ := isBoundary_iff.1 hstart
  obtain ⟨x, b, hx, rfl⟩ := isBoundary_iff.1 hstop
  rcases List.append_eq_append_iff.1 hx with ⟨s, rfl, rfl⟩ | ⟨s, rfl, rfl⟩
  · exact ⟨a, s, b, by simp, rfl, by simp⟩
  · have hs : byteLength s = 0 := by
      rw [byteLength_append] at h
      omega
    cases s with
    | nil => exact ⟨x, [], r, by simp, by simp, by simp⟩
    | cons c s =>
        have hc := c.utf8Size_pos
        rw [byteLength_cons] at hs
        omega

theorem isBoundary_of_append {a b : Text} {n : Nat} (h : IsBoundary (a ++ b) n)
    (hn : n ≤ byteLength a) : IsBoundary a n := by
  obtain ⟨x, s, y, ht, rfl, hs⟩ := exists_cuts h (isBoundary_append a b) hn
  have ha : a = x ++ s := by
    have htake := congrArg (takeBytes · (byteLength a)) ht
    rwa [takeBytes_byteLength, ← hs, ← byteLength_append, takeBytes_byteLength] at htake
  rw [ha]
  exact isBoundary_append x s

/-! ## Where reading a text leads -/

theorem line_foldl_advance (t : Text) (p : Position) :
    (t.foldl Position.advance p).line = p.line + t.count '\n' := by
  induction t generalizing p with
  | nil => rfl
  | cons c t ih =>
      rw [List.foldl_cons, ih, List.count_cons]
      by_cases hc : c = '\n'
      · simp [Position.advance, hc]
        omega
      · simp [Position.advance, hc]

theorem character_foldl_advance {t : Text} (h : '\n' ∉ t) (p : Position) :
    (t.foldl Position.advance p).character = p.character + units t := by
  induction t generalizing p with
  | nil => rfl
  | cons c t ih =>
      rw [List.mem_cons, not_or] at h
      rw [List.foldl_cons, ih h.2, units_cons]
      simp [Position.advance, Ne.symm h.1]
      omega

/-- Reading a text goes no further, down or to the right, than it has units. -/
theorem foldl_advance_le_units (t : Text) (p : Position) :
    (t.foldl Position.advance p).line ≤ p.line + units t ∧
      (t.foldl Position.advance p).character ≤ p.character + units t := by
  induction t generalizing p with
  | nil => exact ⟨Nat.le_refl _, Nat.le_refl _⟩
  | cons c t ih =>
      have hc := charUnits_pos c
      have hadvance : (p.advance c).line ≤ p.line + charUnits c ∧
          (p.advance c).character ≤ p.character + charUnits c := by
        unfold Position.advance
        split <;> simp
        omega
      have htail := ih (p.advance c)
      rw [List.foldl_cons, units_cons]
      omega

/-- A text has no newline, or it has a last one. -/
theorem newline_cases (t : Text) : '\n' ∉ t ∨ ∃ s l, t = s ++ '\n' :: l ∧ '\n' ∉ l := by
  induction t with
  | nil => exact .inl (List.not_mem_nil)
  | cons c t ih =>
      rcases ih with h | ⟨s, l, rfl, hl⟩
      · by_cases hc : c = '\n'
        · exact .inr ⟨[], t, by simp [hc], h⟩
        · exact .inl (by simp [h, Ne.symm hc])
      · exact .inr ⟨c :: s, l, rfl, hl⟩

theorem afterNewline?_append_newline (s t : Text) :
    (afterNewline? (s ++ '\n' :: t)).isSome := by
  induction s with
  | nil => simp [afterNewline?]
  | cons c s ih =>
      by_cases hc : c = '\n'
      · simp [afterNewline?, hc]
      · simpa [afterNewline?, hc] using ih

theorem fromLine_cons {c : Char} {t : Text} (hc : c ≠ '\n') (ht : (afterNewline? t).isSome)
    (n : Nat) : fromLine (c :: t) (n + 1) = fromLine t (n + 1) := by
  obtain ⟨r, hr⟩ := Option.isSome_iff_exists.1 ht
  simp [fromLine, afterNewline?, hc, hr]

theorem fromLine_append_newline (s t : Text) :
    fromLine (s ++ '\n' :: t) (s.count '\n' + 1) = t := by
  induction s with
  | nil => simp [fromLine, afterNewline?]
  | cons c s ih =>
      by_cases hc : c = '\n'
      · subst hc
        rw [List.count_cons_self]
        simpa [fromLine, afterNewline?] using ih
      · rw [List.count_cons_of_ne hc, List.cons_append,
          fromLine_cons hc (afterNewline?_append_newline s t), ih]

theorem columnOffset_zero (t : Text) : columnOffset t 0 = 0 := by
  cases t <;> simp [columnOffset]

theorem columnOffset_append {t : Text} (h : '\n' ∉ t) (b : Text) :
    columnOffset (t ++ b) (units t) = byteLength t := by
  induction t with
  | nil => exact columnOffset_zero b
  | cons c t ih =>
      rw [List.mem_cons, not_or] at h
      have hc := Nat.ne_of_gt (charUnits_pos c)
      simp [columnOffset, Ne.symm h.1, hc, ih h.2]

/-- The position of a place leads back to it. -/
theorem offset_position (a b : Text) :
    offset (a ++ b) (a.foldl Position.advance Position.origin) = byteLength a := by
  rcases newline_cases a with ha | ⟨s, l, rfl, hl⟩
  · have hline : (a.foldl Position.advance Position.origin).line = 0 := by
      rw [line_foldl_advance, List.count_eq_zero_of_not_mem ha]
      rfl
    have hcharacter : (a.foldl Position.advance Position.origin).character = units a := by
      rw [character_foldl_advance ha]
      exact Nat.zero_add _
    unfold offset
    rw [hline, hcharacter]
    simp only [fromLine]
    rw [columnOffset_append ha]
    omega
  · have hline : ((s ++ '\n' :: l).foldl Position.advance Position.origin).line =
        s.count '\n' + 1 := by
      rw [line_foldl_advance, List.count_append, List.count_cons_self,
        List.count_eq_zero_of_not_mem hl]
      exact Nat.zero_add _
    have hcharacter : ((s ++ '\n' :: l).foldl Position.advance Position.origin).character =
        units l := by
      rw [List.foldl_append, List.foldl_cons, character_foldl_advance hl]
      simp [Position.advance]
    have hrest : fromLine (s ++ '\n' :: l ++ b) (s.count '\n' + 1) = l ++ b := by
      rw [List.append_assoc, List.cons_append]
      exact fromLine_append_newline s (l ++ b)
    simp only [offset, hline, hcharacter, hrest]
    rw [columnOffset_append hl]
    simp only [byteLength_append, byteLength_cons]
    omega

theorem position_byteLength (a b : Text) :
    position (a ++ b) (byteLength a) = a.foldl Position.advance Position.origin := by
  rw [position_append, takeBytes_zero]
  rfl

theorem offset_position_of_isBoundary {t : Text} {n : Nat} (h : IsBoundary t n) :
    offset t (position t n) = n := by
  obtain ⟨a, b, rfl, rfl⟩ := isBoundary_iff.1 h
  rw [position_byteLength, offset_position]

/-! ## Positions lead to places -/

theorem exists_afterNewline? {t r : Text} (h : afterNewline? t = some r) :
    ∃ s, t = s ++ '\n' :: r ∧ '\n' ∉ s := by
  induction t with
  | nil => simp [afterNewline?] at h
  | cons c t ih =>
      by_cases hc : c = '\n'
      · simp only [afterNewline?, hc, if_true, Option.some.injEq] at h
        exact ⟨[], by simp [hc, h], List.not_mem_nil⟩
      · simp only [afterNewline?, hc, if_false] at h
        obtain ⟨s, rfl, hs⟩ := ih h
        exact ⟨c :: s, rfl, by simp [hs, Ne.symm hc]⟩

theorem not_mem_of_afterNewline? {t : Text} (h : afterNewline? t = none) : '\n' ∉ t := by
  intro ht
  obtain ⟨s, r, rfl⟩ := List.append_of_mem ht
  simpa [h] using afterNewline?_append_newline s r

/-- What stands before a line ends at its start, and that line is the last one if there are
fewer. -/
theorem exists_fromLine (t : Text) (n : Nat) :
    ∃ s, t = s ++ fromLine t n ∧
      ∀ l, s.foldl Position.advance ⟨l, 0⟩ = ⟨l + min n (t.count '\n'), 0⟩ := by
  induction n generalizing t with
  | zero => exact ⟨[], rfl, by simp⟩
  | succ n ih =>
      cases h : afterNewline? t with
      | none =>
          have hcount := List.count_eq_zero_of_not_mem (not_mem_of_afterNewline? h)
          exact ⟨[], by simp [fromLine, h], by simp [hcount]⟩
      | some r =>
          obtain ⟨s, rfl, hs⟩ := exists_afterNewline? h
          obtain ⟨u, hu, hfold⟩ := ih r
          refine ⟨s ++ '\n' :: u, ?_, ?_⟩
          · simp only [fromLine, h]
            rw [List.append_assoc, List.cons_append, ← hu]
          · intro l
            have hline : (s.foldl Position.advance ⟨l, 0⟩).line = l := by
              rw [line_foldl_advance, List.count_eq_zero_of_not_mem hs]
              rfl
            rw [List.foldl_append, List.foldl_cons, Position.advance, if_pos rfl, hline, hfold,
              List.count_append, List.count_eq_zero_of_not_mem hs, List.count_cons_self]
            congr 1
            omega

/-- Columns are counted within the line, up to the first that is not short of the given one. -/
theorem exists_columnOffset (t : Text) (k : Nat) :
    ∃ a b, t = a ++ b ∧ byteLength a = columnOffset t k ∧ '\n' ∉ a ∧
      (∀ x y, a = x ++ y → y ≠ [] → units x < k) ∧
      (k ≤ units a ∨ b = [] ∨ ∃ r, b = '\n' :: r) := by
  induction t generalizing k with
  | nil => exact ⟨[], [], rfl, rfl, List.not_mem_nil, by simp, .inr (.inl rfl)⟩
  | cons c t ih =>
      by_cases h : c = '\n' ∨ k = 0
      · refine ⟨[], c :: t, rfl, by simp [columnOffset, h], List.not_mem_nil, by simp, ?_⟩
        rcases h with rfl | rfl
        · exact .inr (.inr ⟨t, rfl⟩)
        · exact .inl (Nat.zero_le _)
      · obtain ⟨a, b, hab, hk, ha, hshort, hend⟩ := ih (k - charUnits c)
        rw [not_or] at h
        refine ⟨c :: a, b, by rw [hab, List.cons_append], by simp [columnOffset, h, hk],
          by simp [ha, Ne.symm h.1], ?_, ?_⟩
        · intro x y hxy hy
          cases x with
          | nil => exact Nat.pos_of_ne_zero h.2
          | cons d x =>
              obtain ⟨rfl, rfl⟩ := List.cons.inj hxy
              have hx := hshort x y rfl hy
              rw [units_cons]
              omega
        · refine hend.imp_left fun hle => ?_
          rw [units_cons]
          omega

/-- Every position stands for a place between two characters. -/
theorem isBoundary_offset (t : Text) (p : Position) : IsBoundary t (offset t p) := by
  obtain ⟨s, hs, -⟩ := exists_fromLine t p.line
  obtain ⟨a, b, hab, hlength, -⟩ := exists_columnOffset (fromLine t p.line) p.character
  refine isBoundary_iff.2 ⟨s ++ a, b, ?_, ?_⟩
  · rw [List.append_assoc, ← hab, ← hs]
  · have ht := congrArg byteLength hs
    rw [byteLength_append] at ht
    rw [byteLength_append, hlength]
    simp only [offset]
    omega

theorem exists_offsets (t : Text) (r : Range) :
    ∃ a s b, t = a ++ s ++ b ∧ offsets t r = (byteLength a, byteLength a + byteLength s) := by
  have hstart := isBoundary_offset t r.start
  have hstop := isBoundary_offset t r.stop
  rcases Nat.le_total (offset t r.start) (offset t r.stop) with h | h
  · obtain ⟨a, s, b, ht, ha, hs⟩ := exists_cuts hstart hstop h
    exact ⟨a, s, b, ht, by rw [hs, ha]; simp [offsets, h]⟩
  · obtain ⟨a, s, b, ht, ha, hs⟩ := exists_cuts hstop hstart h
    exact ⟨a, s, b, ht, by rw [hs, ha]; simp [offsets, h]⟩

/-! ## Replaced ranges -/

theorem openLine_append_newline (s : Text) {l : Text} (hl : '\n' ∉ l) :
    openLine (s ++ '\n' :: l) = l := by
  have hline : ∀ c ∈ l.reverse, decide (c ≠ '\n') = true := by
    intro c hc
    rw [decide_eq_true_iff]
    rintro rfl
    exact hl (List.mem_reverse.1 hc)
  rw [openLine, List.reverse_append, List.reverse_cons, List.append_assoc,
    List.takeWhile_append_of_pos hline]
  simp

theorem endColumn_of_notMem {t : Text} (h : '\n' ∉ t) (column : Nat) :
    endColumn t column = column + units t := by
  rw [endColumn, if_neg fun hlast => h (List.mem_of_getLast? hlast),
    if_pos (List.count_eq_zero_of_not_mem h)]

theorem endColumn_append_newline (s : Text) {l : Text} (hl : '\n' ∉ l) (column : Nat) :
    endColumn (s ++ '\n' :: l) column = units l := by
  have hcount : (s ++ '\n' :: l).count '\n' ≠ 0 := by
    rw [List.count_append, List.count_cons_self]
    omega
  rw [endColumn, if_neg hcount, openLine_append_newline s hl]
  split
  · -- The last character is the newline itself, so nothing follows it.
    next hlast =>
    cases l with
    | nil => rfl
    | cons c l =>
        have hend : (c :: l).getLast? = some '\n' := by simpa using hlast
        exact absurd (List.mem_of_getLast? hend) hl
  · rfl

/-- What was removed leads from its start to the line and the column that are counted in it. -/
theorem foldl_advance_eq (removed : Text) (p : Position) :
    removed.foldl Position.advance p =
      ⟨p.line + removed.count '\n', endColumn removed p.character⟩ := by
  rw [← line_foldl_advance]
  refine congrArg (Position.mk _) ?_
  rcases newline_cases removed with h | ⟨s, l, rfl, hl⟩
  · rw [endColumn_of_notMem h, character_foldl_advance h]
  · rw [endColumn_append_newline s hl, List.foldl_append, List.foldl_cons,
      character_foldl_advance hl]
    simp [Position.advance]

theorem replacedRange_eq (after : Text) (offset : Nat) (removed : Text) :
    replacedRange after offset removed =
      ⟨position after offset, removed.foldl Position.advance (position after offset)⟩ := by
  unfold replacedRange
  split
  · next hremoved =>
    subst hremoved
    rfl
  · rw [foldl_advance_eq]

/-- Both texts agree before the replaced place, so its range can be read off the text after. -/
theorem replacedRange_append (a s r b : Text) :
    replacedRange (a ++ r ++ b) (byteLength a) s =
      ⟨a.foldl Position.advance Position.origin,
        (a ++ s).foldl Position.advance Position.origin⟩ := by
  rw [replacedRange_eq, List.append_assoc, position_byteLength, List.foldl_append]

theorem range_append (a s b : Text) :
    range (a ++ s ++ b) (byteLength a) (byteLength a + byteLength s) =
      ⟨a.foldl Position.advance Position.origin,
        (a ++ s).foldl Position.advance Position.origin⟩ := by
  have hstop := position_byteLength (a ++ s) b
  rw [byteLength_append] at hstop
  rw [range, hstop, List.append_assoc, position_byteLength]

theorem position_le_units (t : Text) (o : Nat) :
    (position t o).line ≤ units t ∧ (position t o).character ≤ units t := by
  have hread := foldl_advance_le_units (takeBytes t o) Position.origin
  have hunits := congrArg units (takeBytes_append_dropBytes t o)
  rw [units_append] at hunits
  simp only [Position.origin, Nat.zero_add] at hread
  unfold position Position.origin
  omega

/-- The range that is told from the text after a change and what it removed is the one that is
measured in the text before it. No line and no column of it is greater than that text has units. -/
theorem replacedRange_eq_range (a old new b : Text) :
    replacedRange (a ++ new ++ b) (byteLength a) old =
        range (a ++ old ++ b) (byteLength a) (byteLength a + byteLength old) ∧
      ∀ o, (position (a ++ old ++ b) o).line ≤ units (a ++ old ++ b) ∧
        (position (a ++ old ++ b) o).character ≤ units (a ++ old ++ b) :=
  ⟨(replacedRange_append a old new b).trans (range_append a old b).symm,
    position_le_units (a ++ old ++ b)⟩

end Text

namespace TextChange

/-- What the change removes stands at its place in the text. -/
def Fits (c : TextChange) (t : Text) : Prop :=
  ∃ a b, t = a ++ c.removed ++ b ∧ Text.byteLength a = c.offset

/-- The text after the change. -/
def applied (c : TextChange) (t : Text) : Text :=
  t.splice c.offset (c.offset + Text.byteLength c.removed) c.inserted

theorem applied_append (a s b r : Text) :
    applied ⟨Text.byteLength a, s, r⟩ (a ++ s ++ b) = a ++ r ++ b :=
  Text.splice_append a s b r

end TextChange

namespace ContentChange

/-- A server that replays a change, told with the text after it, arrives at that text. -/
theorem replay_incremental {c : TextChange} {t : Text} (h : c.Fits t) :
    replay t (incremental (c.applied t) c) = c.applied t := by
  obtain ⟨offset, removed, inserted⟩ := c
  obtain ⟨a, b, rfl, rfl⟩ := h
  have hstart := Text.offset_position a (removed ++ b)
  rw [← List.append_assoc] at hstart
  have hstop := Text.offset_position (a ++ removed) b
  rw [Text.byteLength_append] at hstop
  rw [TextChange.applied_append]
  simp only [replay, incremental]
  rw [Text.replacedRange_append]
  simp only [hstart, hstop]
  exact Text.splice_append a removed b inserted

end ContentChange

end LanguageClient
