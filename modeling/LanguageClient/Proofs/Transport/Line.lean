import LanguageClient.Proofs.Transport.Setting
import Mathlib.Logic.Function.Basic
namespace LanguageClient

/-!
# The line

The writing side of a link: one task at a time has the lock and writes the frame of a message. As
long as no write is cut, the bytes on the output are whole frames and what has been written of the
frame under way.
-/

open Function (update)

/-- What a task has in hand on the writing side. -/
inductive Hand where
  | away
  /-- It has the lock. -/
  | holds
  /-- It has the lock and has still to write the rest of a frame. -/
  | writes (m : OutgoingMessage) (rest : Bytes)

namespace Link.Setting

variable {W J : Type} [HasWiring W] (S : Setting W J)

/-- The bytes on the output are whole frames and a part of the one under way. A broken output keeps
the part that it has. -/
def Stream (hands : TaskId → Hand) (w : Wiring) : Prop :=
  ∃ (ms : List OutgoingMessage) (part : Bytes),
    w.carried S.output = ms.flatMap OutgoingMessage.frame ++ part ∧
      ((∃ t m rest, hands t = .writes m rest ∧ part ++ rest = m.frame) ∨
        (part = [] ∧ ∀ t m rest, hands t ≠ .writes m rest) ∨
        (w.takes S.output = false ∧ ∃ m rest, part ++ rest = OutgoingMessage.frame m))

structure Writing (past : List (Moment W J)) (hands : TaskId → Hand) (x : Link) (w : Wiring) :
    Prop where
  output : x.output = none ∨ x.output = some S.output
  taken : (∃ t, hands t ≠ .away) ↔ x.writing.owner = .taken
  unique {t u : TaskId} : hands t ≠ .away → hands u ≠ .away → t = u
  stream : (∀ m ∈ past, ¬ S.Cuts m) → S.Stream hands w

variable {S} {past : List (Moment W J)} {hands : TaskId → Hand} {x y : Link} {w v : Wiring}
  {t : TaskId}

namespace Writing

theorem uncut {moments : List (Moment W J)} (h : S.Writing past hands x w)
    (hcut : ∀ m ∈ past ++ moments, ¬ S.Cuts m) : S.Stream hands w :=
  h.stream fun m hm => hcut m (List.mem_append_left _ hm)

/-- Nothing has happened on the writing side. -/
theorem same (h : S.Writing past hands x w) (moments : List (Moment W J))
    (houtput : y.output = none ∨ y.output = x.output)
    (howner : y.writing.owner = .taken ↔ x.writing.owner = .taken)
    (hcarried : v.carried S.output = w.carried S.output)
    (htakes : v.takes S.output → w.takes S.output) :
    S.Writing (past ++ moments) hands y v where
  output := by
    rcases houtput with ho | ho
    · exact .inl ho
    · rw [ho]
      exact h.output
  taken := h.taken.trans howner.symm
  unique := h.unique
  stream hcut := by
    obtain ⟨ms, part, hms, hpart⟩ := h.uncut hcut
    refine ⟨ms, part, hcarried.trans hms, hpart.imp id (.imp id fun hbroken => ⟨?_, hbroken.2⟩)⟩
    rw [← Bool.not_eq_true]
    exact fun hv => absurd (htakes hv) (by simp [hbroken.1])

/-- Only the bytes on the output matter and whether it takes more. -/
theorem congr (h : S.Writing past hands x w) (hcarried : v.carried S.output = w.carried S.output)
    (htakes : v.takes S.output = w.takes S.output) : S.Writing past hands x v := by
  have := h.same [] (.inr rfl) .rfl hcarried (by rw [htakes]; exact id)
  rwa [List.append_nil] at this

theorem away_of_owner (h : S.Writing past hands x w) (howner : x.writing.owner ≠ .taken)
    (t : TaskId) : hands t = .away := by
  by_contra ht
  exact howner (h.taken.1 ⟨t, ht⟩)

theorem away_of_ne (h : S.Writing past hands x w) (ht : hands t ≠ .away) {u : TaskId}
    (hu : u ≠ t) : hands u = .away := by
  by_contra hne
  exact hu (h.unique hne ht)

/-- A change of the one task that has the lock. -/
theorem change (h : S.Writing past hands x w) (moments : List (Moment W J)) (hand : Hand)
    (hothers : ∀ u, u ≠ t → hands u = .away) (houtput : y.output = none ∨ y.output = x.output)
    (howner : hand ≠ .away ↔ y.writing.owner = .taken)
    (hstream : (∀ m ∈ past ++ moments, ¬ S.Cuts m) → S.Stream (update hands t hand) v) :
    S.Writing (past ++ moments) (update hands t hand) y v where
  output := by
    rcases houtput with ho | ho
    · exact .inl ho
    · rw [ho]
      exact h.output
  taken := by
    rw [← howner]
    refine ⟨fun ⟨u, hu⟩ => ?_, fun hne => ⟨t, by simpa using hne⟩⟩
    by_cases hut : u = t
    · subst hut
      simpa using hu
    · exact absurd (hothers u hut) (by simpa [hut] using hu)
  unique {u r} hu hr := by
    have hself (s : TaskId) (hs : update hands t hand s ≠ .away) : s = t := by
      by_contra hst
      exact absurd (hothers s hst) (by simpa [hst] using hs)
    rw [hself u hu, hself r hr]
  stream := hstream

omit [HasWiring W] in
/-- Nobody writes before and after. -/
theorem stream_update (h : S.Stream hands w) {hand : Hand} (hbefore : ∀ m rest, hands t ≠ .writes m rest)
    (hafter : ∀ m rest, hand ≠ .writes m rest) : S.Stream (update hands t hand) w := by
  obtain ⟨ms, part, hms, hpart⟩ := h
  refine ⟨ms, part, hms, ?_⟩
  rcases hpart with ⟨u, m, rest, hu, hrest⟩ | ⟨hnil, hnone⟩ | hbroken
  · refine .inl ⟨u, m, rest, ?_, hrest⟩
    have hut : u ≠ t := by
      rintro rfl
      exact hbefore m rest hu
    rw [Function.update_of_ne hut, hu]
  · refine .inr (.inl ⟨hnil, fun u m rest => ?_⟩)
    by_cases hut : u = t
    · subst hut
      simpa using hafter m rest
    · simpa [hut] using hnone u m rest
  · exact .inr (.inr hbroken)

theorem take (h : S.Writing past hands x w) (moments : List (Moment W J)) {lock : Lock}
    (hfree : x.writing.owner ≠ .taken) (hlock : lock.owner = .taken) :
    S.Writing (past ++ moments) (update hands t .holds) { x with writing := lock } w := by
  refine h.change moments .holds (fun u _ => h.away_of_owner hfree u) (.inr rfl)
    ⟨fun _ => hlock, nofun⟩ fun hcut => stream_update (h.uncut hcut) ?_ nofun
  rw [h.away_of_owner hfree t]
  exact nofun

theorem give (h : S.Writing past hands x w) {lock : Lock} (ht : hands t = .holds)
    (hlock : lock.owner ≠ .taken) :
    S.Writing past (update hands t .away) { x with writing := lock } w := by
  have := h.change (t := t) [] (y := { x with writing := lock }) (v := w) .away
    (fun u => h.away_of_ne (by simp [ht])) (.inr rfl)
    ⟨fun ha => absurd rfl ha, fun ho => absurd ho hlock⟩
    fun hcut => stream_update (h.uncut hcut) (by simp [ht]) nofun
  rwa [List.append_nil] at this

section Held

variable (h : S.Writing past hands x w)
include h

/-- What the one task that writes has written. -/
theorem part (moments : List (Moment W J)) {m : OutgoingMessage} {rest : Bytes}
    (ht : hands t = .writes m rest) (hcut : ∀ m ∈ past ++ moments, ¬ S.Cuts m) :
    ∃ (ms : List OutgoingMessage) (part : Bytes),
      w.carried S.output = ms.flatMap OutgoingMessage.frame ++ part ∧
        (part ++ rest = m.frame ∨
          w.takes S.output = false ∧ ∃ m rest, part ++ rest = OutgoingMessage.frame m) := by
  obtain ⟨ms, part, hms, hpart⟩ := h.uncut hcut
  refine ⟨ms, part, hms, ?_⟩
  rcases hpart with ⟨u, m', rest', hu, hrest⟩ | ⟨-, hnone⟩ | hbroken
  · obtain rfl := h.unique (t := u) (u := t) (by simp [hu]) (by simp [ht])
    rw [ht] at hu
    obtain ⟨rfl, rfl⟩ := Hand.writes.inj hu
    exact .inl hrest
  · exact absurd ht (hnone t m rest)
  · exact .inr hbroken

theorem owner_of_holds (ht : hands t ≠ .away) : x.writing.owner = .taken := h.taken.1 ⟨t, ht⟩

theorem begins (moments : List (Moment W J)) (m : OutgoingMessage) (ht : hands t = .holds) :
    S.Writing (past ++ moments) (update hands t (.writes m m.frame)) x w := by
  have hne : hands t ≠ .away := by simp [ht]
  refine h.change moments _ (fun u => h.away_of_ne hne) (.inr rfl)
    ⟨fun _ => h.owner_of_holds hne, nofun⟩ fun hcut => ?_
  obtain ⟨ms, part, hms, hpart⟩ := h.uncut hcut
  refine ⟨ms, part, hms, ?_⟩
  rcases hpart with ⟨u, m', rest', hu, hrest⟩ | ⟨rfl, -⟩ | hbroken
  · obtain rfl := h.unique (t := u) (u := t) (by simp [hu]) hne
    simp [ht] at hu
  · exact .inl ⟨t, m, m.frame, by simp, rfl⟩
  · exact .inr (.inr hbroken)

theorem writes (moments : List (Moment W J)) {m : OutgoingMessage} {taken rest : Bytes}
    (ht : hands t = .writes m (taken ++ rest)) (htakes : w.takes S.output = true)
    (hcarried : v.carried S.output = w.carried S.output ++ taken) :
    S.Writing (past ++ moments) (update hands t (.writes m rest)) x v := by
  have hne : hands t ≠ .away := by simp [ht]
  refine h.change moments _ (fun u => h.away_of_ne hne) (.inr rfl)
    ⟨fun _ => h.owner_of_holds hne, nofun⟩ fun hcut => ?_
  obtain ⟨ms, part, hms, hpart⟩ := h.part moments ht hcut
  refine ⟨ms, part ++ taken, by rw [hcarried, hms, List.append_assoc], ?_⟩
  rcases hpart with hpart | ⟨hbroken, -⟩
  · exact .inl ⟨t, m, rest, by simp, by rw [List.append_assoc, hpart]⟩
  · simp [htakes] at hbroken

theorem finishes (moments : List (Moment W J)) {m : OutgoingMessage} {rest : Bytes}
    (ht : hands t = .writes m rest) (htakes : w.takes S.output = true)
    (hcarried : v.carried S.output = w.carried S.output ++ rest) :
    S.Writing (past ++ moments) (update hands t .holds) x v := by
  have hne : hands t ≠ .away := by simp [ht]
  refine h.change moments _ (fun u => h.away_of_ne hne) (.inr rfl)
    ⟨fun _ => h.owner_of_holds hne, nofun⟩ fun hcut => ?_
  obtain ⟨ms, part, hms, hpart⟩ := h.part moments ht hcut
  rcases hpart with hpart | ⟨hbroken, -⟩
  · refine ⟨ms ++ [m], [], by simp [hcarried, hms, ← hpart], .inr (.inl ⟨rfl, ?_⟩)⟩
    intro u m' rest'
    by_cases hut : u = t
    · simp [hut]
    · simp [hut, h.away_of_ne hne hut]
  · simp [htakes] at hbroken

/-- The write stops, because the output is broken or because it is given up at the end of a frame. -/
theorem stops (moments : List (Moment W J)) {m : OutgoingMessage} {rest : Bytes}
    (ht : hands t = .writes m rest)
    (hwhole : (∀ m ∈ past ++ moments, ¬ S.Cuts m) → w.takes S.output = false ∨
      ∃ ms : List OutgoingMessage, w.carried S.output = ms.flatMap OutgoingMessage.frame) :
    S.Writing (past ++ moments) (update hands t .holds) x w := by
  have hne : hands t ≠ .away := by simp [ht]
  have hnone (u : TaskId) (m' : OutgoingMessage) (rest' : Bytes) :
      update hands t .holds u ≠ .writes m' rest' := by
    by_cases hut : u = t
    · simp [hut]
    · simp [hut, h.away_of_ne hne hut]
  refine h.change moments _ (fun u => h.away_of_ne hne) (.inr rfl)
    ⟨fun _ => h.owner_of_holds hne, nofun⟩ fun hcut => ?_
  obtain ⟨ms, part, hms, hpart⟩ := h.part moments ht hcut
  rcases hwhole hcut with hbroken | ⟨ms', hms'⟩
  · refine ⟨ms, part, hms, .inr (.inr ⟨hbroken, ?_⟩)⟩
    rcases hpart with hpart | ⟨-, hpart⟩
    · exact ⟨m, rest, hpart⟩
    · exact hpart
  · exact ⟨ms', [], by simpa using hms', .inr (.inl ⟨rfl, hnone⟩)⟩

end Held

end Writing

end Link.Setting

end LanguageClient
