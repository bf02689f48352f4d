import LanguageClient.Proofs.Transport.Stage
namespace LanguageClient

/-!
# Tearing

The bytes on the output of a link are whole frames and then a part of the one that is being written,
until a write is given up in the middle of a frame. From then on the frame is never finished, and
the lock is free for the next one.
-/

namespace Link.Setting

variable {W J : Type} [HasWiring W] {S : Setting W J} {past : List (Moment W J)}
  {c d : Hall W J Call.Out}

/-- The output has taken in whole frames and then a part of one. Unless that is nothing, a task has
still to write the rest with the lock in hand, or the output is broken and takes no more. -/
def Untorn (S : Setting W J) (c : Hall W J Call.Out) : Prop :=
  ∃ (ms : List OutgoingMessage) (part : Bytes),
    (HasWiring.wiring c.world).carried S.output = ms.flatMap OutgoingMessage.frame ++ part ∧
      (part = [] ∨
        (∃ m rest, part ++ rest = OutgoingMessage.frame m ∧
          (S.state c.world).writing.owner = .taken ∧
          c.Has fun task => task.program.Offers S.output rest) ∨
        ((HasWiring.wiring c.world).takes S.output = false ∧
          ∃ m rest, part ++ rest = OutgoingMessage.frame m))

variable [LawfulWiring W] {hS : S.Lawful} {n : Nat} {g : TaskId → Local W J}

theorem untorn_of_uncut (h : (S.discipline hS).Sound S.Comes (n + 1) past d g)
    (hcut : ∀ m ∈ past, ¬ S.Cuts m) : S.Untorn d := by
  have hholds : S.Holds past g d.world := h.holds
  obtain ⟨ms, part, hms, hpart⟩ := hholds.writing.stream hcut
  refine ⟨ms, part, hms, ?_⟩
  rcases hpart with ⟨t, m, rest, ht, hrest⟩ | ⟨hnil, -⟩ | hbroken
  · have hne : (g t).hand ≠ .away := by simp [ht]
    refine .inr (.inl ⟨m, rest, hrest, hholds.writing.owner_of_holds hne, ?_⟩)
    refine (h.has fun hrests => hne hrests.1).mono fun task ⟨_, hlive, hshows⟩ => ?_
    exact (hshows.2 m rest ht).resolve_left fun ⟨a, ha⟩ => hlive a ha
  · exact .inl hnil
  · exact .inr (.inr hbroken)

/-- The part of a frame that a cut leaves behind is nobody's. -/
theorem not_untorn_of_cuts (h : (S.discipline hS).Sound S.Comes (n + 1) past c g) [Nonempty W]
    {moments : List (Moment W J)} (s : Hall.Step S.rules c moments d) {m : Moment W J}
    (hm : m ∈ moments) (hcuts : S.Cuts m) : ¬ S.Untorn d := by
  cases m with
  | asks t p w u => exact hcuts.elim
  | givesUp t p w =>
    obtain ⟨⟨rest, hawaits⟩, htakes, hwhole⟩ := hcuts
    obtain ⟨g', hd, hgives⟩ := h.step (admits hS) s
    obtain ⟨hshows, hrests, hothers, hview⟩ := hgives hm
    have hc : S.Holds past g c.world := h.holds
    have hd : S.Holds (past ++ moments) g' d.world := hd.holds
    have hview : (HasWiring.wiring d.world).carried S.output = (HasWiring.wiring w).carried S.output ∧
        (HasWiring.wiring d.world).takes S.output = (HasWiring.wiring w).takes S.output :=
      Prod.mk.inj hview
    have hwrites : (g t).hand ≠ .away := by
      obtain ⟨m, rest, hhand⟩ := hshows.1 rest hawaits
      simp [hhand]
    have haway (u : TaskId) : (g' u).hand = .away := by
      by_cases hu : u = t
      · rw [hu]
        exact hrests.1
      · rw [hothers u hu]
        exact hc.writing.away_of_ne hwrites hu
    have howner : (S.state d.world).writing.owner ≠ .taken := fun howner => by
      obtain ⟨u, hu⟩ := hd.writing.taken.2 howner
      exact hu (haway u)
    rintro ⟨ms, part, hms, rfl | ⟨m, rest, -, htaken, -⟩ | ⟨hbroken, -⟩⟩
    · rw [List.append_nil, hview.1] at hms
      exact hwhole ⟨ms, hms⟩
    · exact howner htaken
    · rw [hview.2, htakes] at hbroken
      exact nomatch hbroken

/-- In a run from a new link the output is never torn if and only if no write is given up in the
middle of a frame. -/
theorem untorn_iff_uncut (hS : S.Lawful) (hc : S.Fresh c) {visited : List (Hall W J Call.Out)}
    (r : Hall.Run S.rules c visited past d) :
    (∀ e ∈ visited ++ [d], S.Untorn e) ↔ ∀ m ∈ past, ¬ S.Cuts m := by
  constructor
  · intro huntorn m hm hcuts
    obtain ⟨visited', past', moments, e, e', r', s, hm', he'⟩ := r.of_moment hm
    obtain ⟨g, he⟩ := hc.run hS r' 1
    have : Nonempty W := ⟨e.world⟩
    exact not_untorn_of_cuts he s hm' hcuts (huntorn e' he')
  · intro hcut e he
    obtain ⟨visited', past', later, r', rfl⟩ := r.of_mem he
    obtain ⟨g, he⟩ := hc.run hS r' 1
    exact untorn_of_uncut he fun m hm => hcut m (List.mem_append_left _ hm)

/-- A notification that is given up after the first byte of its frame tears the output. -/
theorem untorn_iff_uncut_tight : ∃ visited past d,
    Hall.Run (Rehearsal.stage 0 0 1).rules
      (Rehearsal.opening { Pipe.open_ with capacity := 1 }) visited past d ∧
    ¬ ∀ e ∈ visited ++ [d], (Rehearsal.stage 0 0 1).Untorn e := by
  have begun : Hall.Run (Rehearsal.stage 0 0 1).rules
      (Rehearsal.opening { Pipe.open_ with capacity := 1 }) [] [] _ := .start
  have called := begun.step (.called (.notify "a" Json.null))
  have connected := called.step (.went (.call (rfl : _ = [] ++ _ :: [])) rfl)
  have acquired := connected.step (.went (.call (rfl : _ = [] ++ _ :: [])) rfl)
  have held := acquired.step (.went (.call (rfl : _ = [] ++ _ :: [])) rfl)
  have found := held.step (.went (.call (rfl : _ = [] ++ _ :: [])) rfl)
  have looped := found.step (.went (.call (rfl : _ = [] ++ _ :: [])) rfl)
  have offered := looped.step (.went (.call (rfl : _ = [] ++ _ :: [])) rfl)
  have again := offered.step (.went (.call (rfl : _ = [] ++ _ :: [])) rfl)
  have dropped := again.step (.dropped (.call (rfl : _ = [] ++ _ :: [])) rfl)
  refine ⟨_, _, _, dropped, fun huntorn => ?_⟩
  refine (untorn_iff_uncut (Rehearsal.lawful (by decide)) (Rehearsal.fresh_opening _) dropped).1
    huntorn _ (List.mem_append_right _ (List.mem_singleton_self _)) ?_
  refine ⟨⟨_, List.cons_ne_nil 111 _, _, _, rfl⟩, rfl, ?_⟩
  rintro ⟨ms, hms⟩
  have hcarried : [67] = ms.flatMap OutgoingMessage.frame := hms
  cases ms with
  | nil => exact nomatch hcarried
  | cons m ms =>
      obtain ⟨rest, hm⟩ := m.frame_eq
      rw [List.flatMap_cons, hm] at hcarried
      exact nomatch hcarried

end Link.Setting

end LanguageClient
