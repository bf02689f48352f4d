import LanguageClient.Proofs.Snippet.RoundTrip
import LanguageClient.Proofs.Text.Columns
namespace LanguageClient

/-!
# Tab stops of any text

Reading takes at least one character at a time, so it ends with every text, and what is wrong in a
text is literal in its snippet. The tab stops that are left follow one another or lie in one another,
since a placeholder holds all that is read up to its closing brace.
-/

namespace TabStop

/-- The range lies between two offsets. -/
structure Within (stop : TabStop) (first last : Nat) : Prop where
  start : first ≤ stop.start
  ordered : stop.start ≤ stop.stop
  stop : stop.stop ≤ last

theorem Within.mono {stop : TabStop} {first last first' last' : Nat} (h : stop.Within first last)
    (hfirst : first' ≤ first) (hlast : last ≤ last') : stop.Within first' last' :=
  ⟨Nat.le_trans hfirst h.start, h.ordered, Nat.le_trans h.stop hlast⟩

/-- The second one starts no earlier, and lies after the first or in it. -/
def Precedes (s q : TabStop) : Prop :=
  s.start ≤ q.start ∧ (s.stop ≤ q.start ∨ q.stop ≤ s.stop)

theorem Within.precedes {s q : TabStop} {first middle last : Nat} (hs : s.Within first middle)
    (hq : q.Within middle last) : s.Precedes q :=
  have h := Nat.le_trans hs.stop hq.start
  ⟨Nat.le_trans hs.ordered h, .inl h⟩

end TabStop

namespace Snippet

/-! ## Reading comes to an end -/

theorem length_of_number? {t rest : Text} {n : Nat} (h : number? t = some (n, rest)) :
    rest.length < t.length := by
  have hlength := congrArg List.length (List.takeWhile_append_dropWhile (p := isDigit) (l := t))
  rw [List.length_append] at hlength
  unfold number? at h
  split at h
  · cases h
  · rename_i hdigits
    obtain ⟨-, h⟩ := Option.ite_none_right_eq_some.1 h
    obtain ⟨-, rfl⟩ := Prod.mk.inj (Option.some.inj h)
    have hpos := List.length_pos_iff.2 hdigits
    omega

theorem length_of_opening? {t rest : Text} {o : Opening} (h : opening? t = some (o, rest)) :
    rest.length < t.length := by
  unfold opening? at h
  split at h
  · obtain ⟨⟨n, r⟩, hnumber, h⟩ := Option.bind_eq_some_iff.1 h
    have hlength := length_of_number? hnumber
    dsimp only at h
    split at h <;> cases h
    · exact Nat.lt_succ_of_lt (Nat.lt_of_succ_lt hlength)
    · exact Nat.lt_succ_of_lt (Nat.lt_of_succ_lt hlength)
  · obtain ⟨⟨n, r⟩, hnumber, h⟩ := Option.bind_eq_some_iff.1 h
    obtain ⟨-, rfl⟩ := Prod.mk.inj (Option.some.inj h)
    exact length_of_number? hnumber

/-- One step of reading: the pieces close, a piece is read, or a placeholder is begun, which is
literal with the whole rest when it is not closed. -/
theorem pieces?_cons (nested : Bool) (c : Char) (r : Text) :
    (∀ fuel, pieces? (fuel + 1) nested (c :: r) = some ([], r)) ∧ nested = true ∨
    (∃ p rest, rest.length ≤ r.length ∧ ∀ fuel, pieces? (fuel + 1) nested (c :: r) =
      (pieces? fuel nested rest).map fun q => (p :: q.1, q.2)) ∨
    ∃ n rest, rest.length ≤ r.length ∧ ∀ fuel, pieces? (fuel + 1) nested (c :: r) =
      (pieces? fuel true rest).elim (if nested then none else some (('$' :: r).map .literal, []))
        fun b => (pieces? fuel nested b.2).map fun q => (.placeholder n b.1 :: q.1, q.2) := by
  by_cases hescape : c = '\\'
  · subst hescape
    cases r with
    | nil => exact .inr (.inl ⟨.literal '\\', [], Nat.le_refl _, fun fuel => by simp [pieces?]⟩)
    | cons d r =>
      by_cases hd : isEscapable d = true
      · exact .inr (.inl ⟨.literal d, r, by simp, fun fuel => by simp [pieces?, hd]⟩)
      · exact .inr (.inl ⟨.literal '\\', d :: r, Nat.le_refl _, fun fuel => by simp [pieces?, hd]⟩)
  by_cases hclose : c = '\x7d' ∧ nested = true
  · exact .inl ⟨fun fuel => by simp [pieces?, hclose], hclose.2⟩
  by_cases hdollar : c = '$'
  · subst hdollar
    cases hopening : opening? r with
    | none =>
      exact .inr (.inl ⟨.literal '$', r, Nat.le_refl _, fun fuel => by simp [pieces?, hopening]⟩)
    | some o =>
      obtain ⟨o, rest⟩ := o
      have hlength := Nat.le_of_lt (length_of_opening? hopening)
      cases o with
      | bare n =>
        exact .inr (.inl ⟨.bare n, rest, hlength, fun fuel => by simp [pieces?, hopening]⟩)
      | empty n =>
        exact .inr (.inl ⟨.empty n, rest, hlength, fun fuel => by simp [pieces?, hopening]⟩)
      | placeholder n =>
        exact .inr (.inr ⟨n, rest, hlength, fun fuel => by
          cases hbody : pieces? fuel true rest <;> simp [pieces?, hopening, hbody]⟩)
  · exact .inr (.inl ⟨.literal c, r, Nat.le_refl _, fun fuel => by
      simp [pieces?, hescape, hclose, hdollar]⟩)

/-- What is read is taken off the text. -/
theorem length_of_pieces? {fuel : Nat} {nested : Bool} {t rest : Text} {ps : Template}
    (h : pieces? fuel nested t = some (ps, rest)) : rest.length ≤ t.length := by
  induction fuel generalizing nested t rest ps with
  | zero => cases h
  | succ fuel ih =>
    cases t with
    | nil =>
      simp only [pieces?, Option.ite_none_left_eq_some, Option.some.injEq, Prod.mk.injEq] at h
      simp [← h.2.2]
    | cons c r =>
      rw [List.length_cons]
      rcases pieces?_cons nested c r with ⟨hstep, -⟩ | ⟨p, r', hr', hstep⟩ | ⟨n, r', hr', hstep⟩ <;>
        rw [hstep] at h
      · cases h
        exact Nat.le_succ _
      · obtain ⟨⟨qs, q⟩, hq, heq⟩ := Option.map_eq_some_iff.1 h
        cases heq
        exact Nat.le_succ_of_le (Nat.le_trans (ih hq) hr')
      · cases hbody : pieces? fuel true r' with
        | some b =>
          rw [hbody, Option.elim_some] at h
          obtain ⟨⟨qs, q⟩, hq, heq⟩ := Option.map_eq_some_iff.1 h
          cases heq
          exact Nat.le_succ_of_le (Nat.le_trans (ih hq) (Nat.le_trans (ih hbody) hr'))
        | none =>
          rw [hbody, Option.elim_none] at h
          simp only [Option.ite_none_left_eq_some, Option.some.injEq, Prod.mk.injEq] at h
          simp [← h.2.2]

/-- As many steps as there are characters are enough, and more of them are of no account. -/
theorem pieces?_eq_of_length_lt {nested : Bool} {t : Text} {fuel m : Nat}
    (h : t.length < fuel) (h' : t.length < m) :
    pieces? fuel nested t = pieces? m nested t := by
  induction fuel generalizing nested t m with
  | zero => omega
  | succ fuel ih =>
    obtain ⟨m, rfl⟩ := Nat.exists_eq_add_one_of_ne_zero (Nat.ne_zero_of_lt h')
    cases t with
    | nil => simp [pieces?]
    | cons c r =>
      rw [List.length_cons] at h h'
      rcases pieces?_cons nested c r with ⟨hstep, -⟩ | ⟨p, r', hr', hstep⟩ | ⟨n, r', hr', hstep⟩ <;>
        rw [hstep, hstep]
      · rw [ih (m := m) (by omega) (by omega)]
      · rw [ih (t := r') (m := m) (by omega) (by omega)]
        cases hbody : pieces? m true r' with
        | some b =>
          have hlength := length_of_pieces? hbody
          rw [Option.elim_some, Option.elim_some, ih (t := b.2) (m := m) (by omega) (by omega)]
        | none => rfl

/-- Outside of placeholders reading goes on to the end of the text. -/
theorem exists_pieces? {t : Text} {fuel : Nat} (h : t.length < fuel) :
    ∃ ps, pieces? fuel false t = some (ps, []) := by
  induction fuel generalizing t with
  | zero => omega
  | succ fuel ih =>
    cases t with
    | nil => exact ⟨[], by simp [pieces?]⟩
    | cons c r =>
      rw [List.length_cons] at h
      rcases pieces?_cons false c r with ⟨-, hnested⟩ | ⟨p, r', hr', hstep⟩ | ⟨n, r', hr', hstep⟩
      · cases hnested
      · obtain ⟨ps, hps⟩ := ih (t := r') (by omega)
        exact ⟨p :: ps, by rw [hstep, hps]; rfl⟩
      · rw [hstep]
        cases hbody : pieces? fuel true r' with
        | some b =>
          have hlength := length_of_pieces? hbody
          obtain ⟨ps, hps⟩ := ih (t := b.2) (by omega)
          exact ⟨.placeholder n b.1 :: ps, by rw [Option.elim_some, hps]; rfl⟩
        | none => exact ⟨_, rfl⟩

theorem pieces?_eq_template {t : Text} {fuel : Nat} (h : t.length < fuel) :
    pieces? fuel false t = some (template t, []) := by
  obtain ⟨ps, hps⟩ := exists_pieces? (Nat.lt_succ_self t.length)
  rw [pieces?_eq_of_length_lt h (Nat.lt_succ_self _), template, hps]

/-! ## Where tab stops stand -/

mutual

theorem Piece.within (p : Piece) (before : Text) :
    ∀ stop ∈ p.stopsAfter before,
      stop.Within before.byteLength (before ++ p.text).byteLength := by
  cases p with
  | literal c => simp [Piece.stopsAfter]
  | bare n =>
    rw [Piece.stopsAfter]
    exact List.forall_mem_singleton.2 ⟨Nat.le_refl _, by simp [stopAfter], Nat.le_refl _⟩
  | empty n =>
    rw [Piece.stopsAfter, Piece.text]
    exact List.forall_mem_singleton.2 ⟨Nat.le_refl _, by simp [stopAfter], Nat.le_refl _⟩
  | placeholder n body =>
    rw [Piece.stopsAfter, Piece.text]
    exact List.forall_mem_cons.2
      ⟨⟨Nat.le_refl _, by simp [stopAfter], Nat.le_refl _⟩, within_all body before⟩

theorem within_all (ps : List Piece) (before : Text) :
    ∀ stop ∈ stopsAllAfter ps before,
      stop.Within before.byteLength (before ++ textAll ps).byteLength := by
  cases ps with
  | nil => simp [stopsAllAfter]
  | cons p ps =>
    rw [stopsAllAfter, textAll, ← List.append_assoc]
    refine List.forall_mem_append.2 ⟨fun stop hstop => ?_, fun stop hstop => ?_⟩
    · exact (Piece.within p before stop hstop).mono (Nat.le_refl _) (by simp)
    · exact (within_all ps (before ++ p.text) stop hstop).mono (by simp) (Nat.le_refl _)

end

mutual

theorem Piece.pairwise_precedes (p : Piece) (before : Text) :
    (p.stopsAfter before).Pairwise TabStop.Precedes := by
  cases p with
  | literal c => simp [Piece.stopsAfter]
  | bare n | empty n => simp [Piece.stopsAfter]
  | placeholder n body =>
    rw [Piece.stopsAfter]
    refine List.pairwise_cons.2 ⟨fun stop hstop => ?_, pairwise_precedes_all body before⟩
    have hwithin := within_all body before stop hstop
    exact ⟨hwithin.start, .inr hwithin.stop⟩

theorem pairwise_precedes_all (ps : List Piece) (before : Text) :
    (stopsAllAfter ps before).Pairwise TabStop.Precedes := by
  cases ps with
  | nil => simp [stopsAllAfter]
  | cons p ps =>
    rw [stopsAllAfter]
    refine List.pairwise_append.2
      ⟨Piece.pairwise_precedes p before, pairwise_precedes_all ps (before ++ p.text), ?_⟩
    intro s hs q hq
    exact (Piece.within p before s hs).precedes (within_all ps (before ++ p.text) q hq)

end

theorem pairwise_precedes_parse (t : Text) : (parse t).stops.Pairwise TabStop.Precedes := by
  have hexpand := expandAll_eq (template t) []
  rw [Text.byteLength_nil] at hexpand
  rw [parse, Template.expand, hexpand]
  exact pairwise_precedes_all (template t) []

end Snippet

theorem TabStop.StandsIn.slice {stop : TabStop} {t : Text} (h : stop.StandsIn t) :
    stop.start ∈ t.places ∧ stop.stop ∈ t.places ∧ stop.start ≤ stop.stop ∧
      stop.stop ≤ t.byteLength ∧ t.slice stop.start stop.stop = stop.placeholder := by
  obtain ⟨a, b, rfl, hstart, hstop⟩ := h
  rw [← hstart, ← hstop]
  refine ⟨?_, ?_, Nat.le_add_right _ _, by simp, Text.slice_append a stop.placeholder b⟩
  · rw [List.append_assoc]
    exact Text.mem_places_append a _
  · rw [← Text.byteLength_append]
    exact Text.mem_places_append (a ++ stop.placeholder) b

namespace Snippet

/-- Every text has a snippet. Its reading ends with the text, whatever more steps are granted, and
its tab stops are ranges of the snippet's text that show it, in order, and apart or nested. -/
theorem parse_wellFormed (t : Text) :
    (∀ fuel, t.length < fuel → pieces? fuel false t = some (template t, [])) ∧
    (∀ s ∈ (parse t).stops, s.start ≤ s.stop ∧ s.stop ≤ (parse t).text.byteLength ∧
      s.start ∈ (parse t).text.places ∧ s.stop ∈ (parse t).text.places ∧
      (parse t).text.slice s.start s.stop = s.placeholder) ∧
    (parse t).stops.Pairwise (fun s q => s.start ≤ q.start) ∧
    (parse t).stops.Pairwise
      (fun s q => s.stop ≤ q.start ∨ s.start ≤ q.start ∧ q.stop ≤ s.stop) := by
  have hprecedes := pairwise_precedes_parse t
  refine ⟨fun fuel => pieces?_eq_template, fun s hs => ?_, hprecedes.imp And.left,
    hprecedes.imp fun h => h.2.imp_right fun hstop => ⟨h.1, hstop⟩⟩
  obtain ⟨hstart, hstop, hle, hlength, hslice⟩ := (standsIn_parse t s hs).slice
  exact ⟨hle, hlength, hstart, hstop, hslice⟩

/-- A placeholder in another one, and then one that is not closed. -/
def unclosedText : Text :=
  ['é', '$', '\x7b', '1', ':', 'a', '$', '\x7b', '2', ':', 'b', '\x7d', '\x7d', '$', '\x7b', '3',
    ':', '$', '4']

theorem parse_unclosedText :
    parse unclosedText =
      ⟨['é', 'a', 'b', '$', '\x7b', '3', ':', '$', '4'],
        [⟨2, 4, 1, ['a', 'b']⟩, ⟨3, 4, 2, ['b']⟩]⟩ := by
  have htemplate : template unclosedText =
      [.literal 'é', .placeholder 1 [.literal 'a', .placeholder 2 [.literal 'b']], .literal '$',
        .literal '\x7b', .literal '3', .literal ':', .literal '$', .literal '4'] := by rfl
  rw [parse, htemplate]
  simp only [Template.expand, expandAll, Piece.expand]
  decide

theorem parse_wellFormed_unclosed :
    unclosedText.length < 20 ∧ pieces? 20 false unclosedText = some (template unclosedText, []) ∧
      (⟨3, 4, 2, ['b']⟩ : TabStop) ∈ (parse unclosedText).stops ∧
      (parse unclosedText).text.slice 3 4 = ['b'] := by
  have hmem : (⟨3, 4, 2, ['b']⟩ : TabStop) ∈ (parse unclosedText).stops := by
    simp [parse_unclosedText]
  obtain ⟨hread, hstops, -⟩ := parse_wellFormed unclosedText
  exact ⟨by decide, hread 20 (by decide), hmem, (hstops _ hmem).2.2.2.2⟩

end Snippet

end LanguageClient
