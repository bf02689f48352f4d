import LanguageClient.Proofs.Text.Columns
import LanguageClient.Proofs.Text.Token
import LanguageClient.Session.Language
import Mathlib.Data.List.Forall2
namespace LanguageClient

/-!
# Markers of diagnostics

Ranges of diagnostics come from a server that may have another text in mind: they can be reversed,
lie past the end of a line or of the text, or stand between the two units of one character. Each
still gives a marker that can be drawn on the text that the editor has.
-/

namespace Text

/-- What can be drawn for a range: its own bytes, if there are any, or else the one maximal run of
token characters through the place that the range stands for. -/
structure Drawn (t : Text) (r : Range) (span : Nat × Nat) : Prop where
  ordered : span.1 ≤ span.2
  inside : span.2 ≤ t.byteLength
  starts : t.IsBoundary span.1
  stops : t.IsBoundary span.2
  kept : (t.offsets r).1 < (t.offsets r).2 → span = t.offsets r
  grown : (t.offsets r).1 = (t.offsets r).2 → TokenRun t span ∧
    span.1 ≤ (t.offsets r).1 ∧ (t.offsets r).1 ≤ span.2
  unique : (t.offsets r).1 = (t.offsets r).2 → ∀ other, TokenRun t other →
    other.1 ≤ (t.offsets r).1 → (t.offsets r).1 ≤ other.2 → other = span

theorem le_byteLength_of_isBoundary {t : Text} {n : Nat} (h : t.IsBoundary n) :
    n ≤ t.byteLength :=
  le_byteLength_of_mem_places (mem_places_iff.2 h)

theorem isBoundary_offsets (t : Text) (r : Range) :
    t.IsBoundary (t.offsets r).1 ∧ t.IsBoundary (t.offsets r).2 := by
  obtain ⟨a, s, b, rfl, hoffsets⟩ := exists_offsets t r
  rw [hoffsets, ← byteLength_append]
  refine ⟨?_, isBoundary_append (a ++ s) b⟩
  rw [List.append_assoc]
  exact isBoundary_append a (s ++ b)

theorem offsets_ordered (t : Text) (r : Range) : (t.offsets r).1 ≤ (t.offsets r).2 :=
  Nat.le_trans (Nat.min_le_left _ _) (Nat.le_max_left _ _)

theorem drawn_visibleSpan (t : Text) (r : Range) : Drawn t r (t.visibleSpan (t.offsets r)) := by
  obtain ⟨hstart, hstop⟩ := isBoundary_offsets t r
  unfold visibleSpan
  split
  case isTrue hempty =>
    obtain ⟨hrun, hbefore, hafter⟩ := (tokenRun_iff hstart).2 rfl
    obtain ⟨hle, hs, he⟩ := hrun.ordered
    exact {
      ordered := hle
      inside := le_byteLength_of_isBoundary he
      starts := hs
      stops := he
      kept := fun h => absurd hempty (Nat.ne_of_lt h)
      grown := fun _ => ⟨hrun, hbefore, hafter⟩
      unique := fun _ _ h hb ha => (tokenRun_iff hstart).1 ⟨h, hb, ha⟩ }
  case isFalse hne =>
    exact {
      ordered := offsets_ordered t r
      inside := le_byteLength_of_isBoundary hstop
      starts := hstart
      stops := hstop
      kept := fun _ => rfl
      grown := fun h => absurd h hne
      unique := fun h => absurd h hne }

end Text

/-- A marker that shows a diagnostic on a text. -/
structure Marker.Shows (t : Text) (d : Json) (m : Marker) : Prop where
  drawn : t.Drawn (Range.ofNormal (d.get "range")) (m.start, m.stop)
  severity : m.severity = (d.get "severity").int?
  message : m.message = (d.get "message").str?.getD ""
  source : m.source = (d.get "source").str?
  code : m.code = (d.get? "code").bind codeText?

theorem Marker.shows_ofDiagnostic (t : Text) (d : Json) : Shows t d (ofDiagnostic t d) where
  drawn := t.drawn_visibleSpan _
  severity := rfl
  message := rfl
  source := rfl
  code := rfl

namespace Session

variable {E : Type}

/-- Whatever ranges the diagnostics of a document have, they are shown by one marker each, in their
order, which can be drawn on the text of the buffer. -/
theorem publish_drawable (s : SessionId) (diagnostics : List Json) (c : Client E) :
    ∃ markers, (publish s diagnostics c).editor.shown =
        c.editor.shown ++ [.diagnostics (c.session s).uri markers] ∧
      List.Forall₂ (Marker.Shows (c.text s)) diagnostics markers := by
  refine ⟨diagnostics.map (Marker.ofDiagnostic (c.text s)), rfl, ?_⟩
  rw [List.forall₂_map_right_iff, List.forall₂_same]
  exact fun d _ => Marker.shows_ofDiagnostic (c.text s) d

end Session

end LanguageClient
