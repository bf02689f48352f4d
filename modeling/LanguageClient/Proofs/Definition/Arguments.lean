import LanguageClient.Definition.Line
import LanguageClient.Proofs.Text.Trim
namespace LanguageClient

/-!
# Arguments of a command line

Escaped arguments are read back as they were, and a visible element gives an argument. Where a line
is cut into elements is of no account: a quote or a backslash that is open at the end of an element
goes on in the next one just as it does across a space.
-/

/-! ## Escaped arguments -/

namespace Arguments

open Text

/-- What is written for the argument is not blank: it holds a space, which is escaped, or a
character that is no white space. -/
def Stands (t : Text) : Prop := ∃ c ∈ t, c = ' ' ∨ isBlank c = false

instance (t : Text) : Decidable (Stands t) :=
  decidable_of_iff ((t.any fun c => c == ' ' || !isBlank c) = true) (by simp [Stands])

theorem Stands.ne_nil {t : Text} (h : Stands t) : t ≠ [] := by
  obtain ⟨c, hc, -⟩ := h
  exact List.ne_nil_of_mem hc

theorem escape_cons (c : Char) (t : Text) :
    escape (c :: t) = (if isSpecial c then ['\\', c] else [c]) ++ escape t := rfl

theorem visible_of_isSpecial {c : Char} (h : isSpecial c = true) :
    c = ' ' ∨ isBlank c = false := by
  simp only [isSpecial, Bool.or_eq_true, beq_iff_eq] at h
  rcases h with ((rfl | rfl) | rfl) | rfl
  · exact .inl rfl
  all_goals exact .inr rfl

theorem visible_escape {t : Text} : Visible (escape t) ↔ Stands t := by
  simp only [Visible, Stands, escape, List.mem_flatMap]
  constructor
  · rintro ⟨d, ⟨c, hc, hd⟩, hblank⟩
    refine ⟨c, hc, ?_⟩
    by_cases hs : isSpecial c = true
    · exact visible_of_isSpecial hs
    · rw [if_neg hs, List.mem_singleton] at hd
      exact .inr (hd ▸ hblank)
  · rintro ⟨c, hc, rfl | hblank⟩
    · exact ⟨'\\', ⟨' ', hc, by decide⟩, by decide⟩
    · refine ⟨c, ⟨c, hc, ?_⟩, hblank⟩
      split <;> simp

namespace State

/-- Between two arguments, outside quotes and after no backslash. -/
def between (done : List Text) : State := ⟨done, [], none, false⟩

theorem foldl_step_escape {s : State} (hq : s.quote = none) (he : s.escaped = false) (t : Text) :
    (escape t).foldl step s = { s with current := t.reverse ++ s.current } := by
  induction t generalizing s with
  | nil => rfl
  | cons c t ih =>
    -- Whatever the character is, what is written for it leaves quotes and escapes as they were.
    have hstep : (if isSpecial c then ['\\', c] else [c]).foldl step s = s.keep c := by
      by_cases hc : isSpecial c = true
      · rw [if_pos hc]
        simp [step, he, keep]
      · have hc' := hc
        simp only [isSpecial, Bool.or_eq_true, beq_iff_eq, not_or] at hc'
        rw [if_neg hc]
        simp [step, he, hc']
    rw [escape_cons, List.foldl_append, hstep, ih (by exact hq) (by exact he)]
    simp [keep]

theorem element_escape (done : List Text) {t : Text} (ht : t ≠ []) :
    (between done).element (escape t) = between (t :: done) := by
  rw [element, foldl_step_escape rfl rfl]
  simp [between, endElement, cut, ht]

theorem foldl_element_escape (done : List Text) {ts : List Text} (h : ∀ t ∈ ts, t ≠ []) :
    (ts.map escape).foldl element (between done) = between (ts.reverse ++ done) := by
  induction ts generalizing done with
  | nil => rfl
  | cons t ts ih =>
    rw [List.forall_mem_cons] at h
    rw [List.map_cons, List.foldl_cons, element_escape done h.1, ih _ h.2]
    simp

end State

theorem parse_map_escape {ts : List Text} (h : ∀ t ∈ ts, t ≠ []) : parse (ts.map escape) = ts := by
  rw [parse, show State.start = State.between [] from rfl, State.foldl_element_escape [] h]
  simp [State.finish, State.between]

/-! ## A visible element gives an argument -/

namespace State

/-- Something has been read that will come out as an argument. -/
def Begun (s : State) : Prop := s.done ≠ [] ∨ s.current ≠ [] ∨ s.escaped = true

theorem Begun.keep (s : State) (c : Char) : Begun (s.keep c) := .inr (.inl (List.cons_ne_nil _ _))

theorem Begun.cut {s : State} (h : s.done ≠ [] ∨ s.current ≠ []) : s.cut.done ≠ [] := by
  unfold State.cut
  split
  · next hc => exact h.resolve_right (not_not_intro hc)
  · simp

theorem Begun.step {s : State} (h : Begun s) (c : Char) : Begun (s.step c) := by
  unfold State.step
  split
  · exact .inr (.inl (List.cons_ne_nil _ _))
  next he =>
  have h : s.done ≠ [] ∨ s.current ≠ [] := by simpa [Begun, he] using h
  split
  · exact .inr (.inr rfl)
  split
  · cases s.quote with
    | none => exact .inr (.inl (List.cons_ne_nil _ _))
    | some q => dsimp only; split <;> exact .inr (.inl (List.cons_ne_nil _ _))
  split
  · exact .inl (Begun.cut h)
  · exact .keep s c

theorem begun_step_of_visible (s : State) {c : Char} (h : isBlank c = false) :
    Begun (s.step c) := by
  have hspace : c ≠ ' ' := by rintro rfl; cases h
  unfold State.step
  split
  · exact .inr (.inl (List.cons_ne_nil _ _))
  split
  · exact .inr (.inr rfl)
  split
  · cases s.quote with
    | none => exact .inr (.inl (List.cons_ne_nil _ _))
    | some q => dsimp only; split <;> exact .inr (.inl (List.cons_ne_nil _ _))
  · rw [if_neg (fun hc => hspace hc.1)]
    exact .keep s c

theorem Begun.foldl_step {s : State} (h : Begun s) (t : Text) : Begun (t.foldl State.step s) := by
  induction t generalizing s with
  | nil => exact h
  | cons c t ih => exact ih (h.step c)

theorem begun_foldl_step_of_visible (s : State) {t : Text} (h : Visible t) :
    Begun (t.foldl State.step s) := by
  obtain ⟨c, hc, hblank⟩ := h
  obtain ⟨front, rest, rfl⟩ := List.append_of_mem hc
  rw [List.foldl_append, List.foldl_cons]
  exact (begun_step_of_visible _ hblank).foldl_step rest

theorem Begun.endElement {s : State} (h : Begun s) :
    s.endElement.done ≠ [] ∨ s.endElement.current ≠ [] := by
  unfold State.endElement
  split
  · exact .inr (List.cons_ne_nil _ _)
  next hs =>
  have h : s.done ≠ [] ∨ s.current ≠ [] := by simp_all [Begun]
  exact .inl (Begun.cut h)

theorem finish_ne_nil {s : State} (h : s.done ≠ [] ∨ s.current ≠ []) : s.finish ≠ [] := by
  unfold finish
  split
  · next hc => simpa using h.resolve_right (not_not_intro hc)
  · simp

end State

theorem parse_ne_nil {elements : List Text} (hne : elements ≠ [])
    (h : ∀ t ∈ elements, Visible t) : parse elements ≠ [] := by
  obtain ⟨front, last, rfl⟩ := (List.eq_nil_or_concat elements).resolve_left hne
  rw [parse, List.concat_eq_append, List.foldl_append]
  have hlast : Visible last := h last (by simp)
  exact State.finish_ne_nil (State.begun_foldl_step_of_visible _ hlast).endElement

/-! ## Elements -/

namespace State

/-- An element ends as it would at a space. -/
theorem step_space (s : State) : s.step ' ' = s.endElement := by
  unfold step endElement
  by_cases hescaped : s.escaped = true
  · rw [if_pos hescaped, if_pos (.inr hescaped)]
  by_cases hquote : s.quote = none
  · simp [hescaped, hquote]
  · simp [hescaped, hquote, keep]

theorem element_append_space (s : State) (t r : Text) :
    s.element (t ++ ' ' :: r) = (s.element t).element r := by
  unfold element
  rw [List.foldl_append, List.foldl_cons, step_space]

/-- Whatever is open between two elements goes on as it would on one line. -/
theorem foldl_element {elements : List Text} (h : elements ≠ []) (s : State) :
    elements.foldl element s = s.element (joinWith [' '] elements) := by
  induction elements generalizing s with
  | nil => exact absurd rfl h
  | cons t elements ih =>
    by_cases hnil : elements = []
    · subst hnil
      simp [joinWith]
    · rw [List.foldl_cons, ih hnil, joinWith_cons _ _ hnil, List.singleton_append,
        element_append_space]

end State

/-- The arguments are those of the one line that the elements make with a space between them. -/
theorem parse_joinWith (elements : List Text) :
    parse elements = parse [joinWith [' '] elements] := by
  by_cases hnil : elements = []
  · subst hnil
    rfl
  · rw [parse, State.foldl_element hnil]
    rfl

end Arguments

end LanguageClient
