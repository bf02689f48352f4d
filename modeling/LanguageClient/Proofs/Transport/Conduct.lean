import LanguageClient.Proofs.Task.Safety
import LanguageClient.Proofs.Transport.Books
import LanguageClient.Proofs.Transport.Line
namespace LanguageClient

/-!
# Conduct

The discipline of a link: the line, the books and the reports of disconnects together, and how what
tasks do and leave undone keeps it.
-/

open Function (update)

namespace Link.Setting

/-- What the discipline knows of a task. -/
structure Local (W J : Type) : Type 1 where
  hand : Hand
  /-- The request that the task has entered, with its promise. -/
  stake : Option (Int × PromiseId)
  /-- It reads and has not told the handler of the end. -/
  quiet : Bool
  /-- What has happened, whatever happens later. -/
  knows : List (Moment W J) → Prop

namespace Local

variable {W J : Type}

def idle : Local W J := ⟨.away, none, false, fun _ => True⟩

/-- Besides, something has happened. -/
def learn (ℓ : Local W J) (fact : List (Moment W J) → Prop) : Local W J :=
  { ℓ with knows := fun past => ℓ.knows past ∧ fact past }

def Rests (ℓ : Local W J) : Prop := ℓ.hand = .away ∧ ℓ.stake = none

def Writes (ℓ : Local W J) : Prop := ∃ m rest, ℓ.hand = .writes m rest

/-- The same but for what it knows, which is not less. -/
structure Learns (ℓ ℓ' : Local W J) : Prop where
  hand_eq : ℓ'.hand = ℓ.hand
  stake_eq : ℓ'.stake = ℓ.stake
  quiet_eq : ℓ'.quiet = ℓ.quiet
  knows {past : List (Moment W J)} : ℓ'.knows past → ℓ.knows past

namespace Learns

theorem refl (ℓ : Local W J) : Learns ℓ ℓ := ⟨rfl, rfl, rfl, id⟩

theorem trans {ℓ ℓ' ℓ'' : Local W J} (h : Learns ℓ ℓ') (k : Learns ℓ' ℓ'') : Learns ℓ ℓ'' :=
  ⟨k.hand_eq.trans h.hand_eq, k.stake_eq.trans h.stake_eq, k.quiet_eq.trans h.quiet_eq,
    fun hp => h.knows (k.knows hp)⟩

theorem learn (ℓ : Local W J) (fact : List (Moment W J) → Prop) : Learns ℓ (ℓ.learn fact) :=
  ⟨rfl, rfl, rfl, And.left⟩

end Learns

theorem Rests.not_writes {ℓ : Local W J} (h : ℓ.Rests) : ¬ ℓ.Writes := by
  rintro ⟨m, rest, hm⟩
  rw [h.1] at hm
  exact nomatch hm

theorem Rests.learns {ℓ ℓ' : Local W J} (h : ℓ.Rests) (hl : Learns ℓ ℓ') : ℓ'.Rests :=
  ⟨hl.hand_eq.trans h.1, hl.stake_eq.trans h.2⟩

end Local

/-- What is in one part of the local states after a change of one of them. -/
theorem part_update {W J β : Type} (part : Local W J → β) (g : TaskId → Local W J) (t : TaskId)
    (ℓ : Local W J) :
    (fun u => part (update g t ℓ u)) = update (fun u => part (g u)) t (part ℓ) := by
  funext u
  by_cases hu : u = t
  · subst hu
    simp
  · simp [hu]

variable {W J : Type} [HasWiring W] (S : Setting W J)

/-- The handler has heard of a disconnect at most once, after the stream ended of itself. -/
structure Reading (past : List (Moment W J)) (quiets : TaskId → Bool) (w : W) : Prop where
  unique {t u : TaskId} : quiets t = true → quiets u = true → t = u
  silent {t : TaskId} : quiets t = true → S.reports w = []
  reported : S.reports w ≠ [] → (S.reports w).length = 1 ∧
    ∃ m ∈ past, S.Ends m ∧ (S.state m.before).closing = false

/-- What happened could become of the link, and the ids of its requests were below the next. -/
structure Regular (m : Moment W J) : Prop where
  onward : Link.Onward (S.state m.before) (S.state m.after)
  lt_nextId {e : Int × PromiseId} :
    e ∈ (S.state m.before).pending → e.1 < (S.state m.before).nextId

structure Holds (past : List (Moment W J)) (g : TaskId → Local W J) (w : W) : Prop where
  present : ((HasWiring.wiring w).links.get? S.link).isSome
  input_eq : (S.state w).input = S.input
  writing : S.Writing past (fun t => (g t).hand) (S.state w) (HasWiring.wiring w)
  books : S.Books past (fun t => (g t).stake) (S.state w) (HasWiring.wiring w)
  reading : S.Reading past (fun t => (g t).quiet) w
  regular : ∀ m ∈ past, S.Regular m
  onward : ∀ m ∈ past, Link.Onward (S.state m.after) (S.state w)
  ordered : past.Pairwise fun m m' => Link.Onward (S.state m.after) (S.state m'.before)
  knows (t : TaskId) (later : List (Moment W J)) : (g t).knows (past ++ later)

variable {S} {past : List (Moment W J)} {g : TaskId → Local W J} {w u : W} {t : TaskId}
  {ℓ : Local W J} {m : Moment W J}

theorem Reading.same {quiets : TaskId → Bool} (h : S.Reading past quiets w)
    (moments : List (Moment W J)) (hreports : S.reports u = S.reports w) :
    S.Reading (past ++ moments) quiets u where
  unique := h.unique
  silent ht := hreports.trans (h.silent ht)
  reported hne := by
    rw [hreports] at hne ⊢
    obtain ⟨hone, m, hm, he⟩ := h.reported hne
    exact ⟨hone, m, List.mem_append_left _ hm, he⟩

theorem Reading.congr {quiets : TaskId → Bool} (h : S.Reading past quiets w)
    (hreports : S.reports u = S.reports w) : S.Reading past quiets u := by
  have := h.same [] hreports
  rwa [List.append_nil] at this

theorem Aside.state_eq (h : S.Aside w u) : S.state u = S.state w := by
  unfold state Wiring.link Store.get
  rw [h.link_eq]

namespace Holds

/-- Something has happened that has changed the world and a task. -/
theorem next (h : S.Holds past g w) (hbefore : S.state m.before = S.state w)
    (hafter : S.state m.after = S.state w ∨ S.state m.after = S.state u)
    (honward : Link.Onward (S.state w) (S.state u))
    (hpresent : ((HasWiring.wiring u).links.get? S.link).isSome)
    (hinput : (S.state u).input = (S.state w).input)
    (hwriting : S.Writing (past ++ [m]) (update (fun t => (g t).hand) t ℓ.hand) (S.state u)
      (HasWiring.wiring u))
    (hbooks : S.Books (past ++ [m]) (update (fun t => (g t).stake) t ℓ.stake) (S.state u)
      (HasWiring.wiring u))
    (hreading : S.Reading (past ++ [m]) (update (fun t => (g t).quiet) t ℓ.quiet) u)
    (hknows : ∀ later, ℓ.knows (past ++ m :: later)) :
    S.Holds (past ++ [m]) (update g t ℓ) u where
  present := hpresent
  input_eq := hinput.trans h.input_eq
  writing := by rwa [part_update Local.hand]
  books := by rwa [part_update Local.stake]
  reading := by rwa [part_update Local.quiet]
  regular m' hm' := by
    rcases List.mem_append.1 hm' with hm' | hm'
    · exact h.regular m' hm'
    · obtain rfl := List.mem_singleton.1 hm'
      refine ⟨?_, fun he => ?_⟩
      · rcases hafter with ha | ha
        · rw [hbefore, ha]
          exact .refl _
        · rwa [hbefore, ha]
      · rw [hbefore] at he ⊢
        exact h.books.lt_of_mem he
  onward m' hm' := by
    rcases List.mem_append.1 hm' with hm' | hm'
    · exact (h.onward m' hm').trans honward
    · obtain rfl := List.mem_singleton.1 hm'
      rcases hafter with ha | ha
      · rwa [ha]
      · rw [ha]
        exact .refl _
  ordered := by
    rw [List.pairwise_append]
    refine ⟨h.ordered, List.pairwise_singleton .., fun m' hm' m'' hm'' => ?_⟩
    obtain rfl := List.mem_singleton.1 hm''
    rw [hbefore]
    exact h.onward m' hm'
  knows s later := by
    rw [List.append_assoc]
    by_cases hs : s = t
    · subst hs
      simpa using hknows later
    · rw [Function.update_of_ne hs]
      exact h.knows s _

/-- A task has let something go. -/
theorem released (h : S.Holds past g w) (honward : Link.Onward (S.state w) (S.state u))
    (hpresent : ((HasWiring.wiring u).links.get? S.link).isSome)
    (hinput : (S.state u).input = (S.state w).input)
    (hwriting : S.Writing past (update (fun t => (g t).hand) t ℓ.hand) (S.state u)
      (HasWiring.wiring u))
    (hbooks : S.Books past (update (fun t => (g t).stake) t ℓ.stake) (S.state u)
      (HasWiring.wiring u))
    (hreading : S.Reading past (update (fun t => (g t).quiet) t ℓ.quiet) u)
    (hknows : ∀ {past}, (g t).knows past → ℓ.knows past) : S.Holds past (update g t ℓ) u where
  present := hpresent
  input_eq := hinput.trans h.input_eq
  writing := by rwa [part_update Local.hand]
  books := by rwa [part_update Local.stake]
  reading := by rwa [part_update Local.quiet]
  regular := h.regular
  onward m hm := (h.onward m hm).trans honward
  ordered := h.ordered
  knows s later := by
    by_cases hs : s = t
    · subst hs
      simpa using hknows (h.knows s later)
    · rw [Function.update_of_ne hs]
      exact h.knows s _

theorem aside (h : S.Holds past g w) (ha : S.Aside w u) : S.Holds past g u := by
  have hstate := ha.state_eq
  have hwriting := h.writing.same [] (y := S.state w) (v := HasWiring.wiring u) (.inr rfl) .rfl
    ha.carried_eq ha.takes
  have hbooks := h.books.same [] (y := S.state w) (v := HasWiring.wiring u) rfl rfl ha.length_le
    (fun e he => ha.outcome_pending he) fun p o ho => ha.outcome_kept ho
  rw [List.append_nil] at hwriting hbooks
  exact {
    present := by rw [ha.link_eq]; exact h.present
    input_eq := by rw [hstate]; exact h.input_eq
    writing := by rwa [hstate]
    books := by rwa [hstate]
    reading := h.reading.congr ha.reports_eq
    regular := h.regular
    onward := by rw [hstate]; exact h.onward
    ordered := h.ordered
    knows := h.knows }

/-- Something has happened that has changed nothing of the link; a task may have learnt of it. -/
theorem mark (h : S.Holds past g u) (hbefore : S.state m.before = S.state u)
    (hafter : S.state m.after = S.state u) (hlearns : Local.Learns (g t) ℓ)
    (hknows : ∀ later, ℓ.knows (past ++ m :: later)) :
    S.Holds (past ++ [m]) (update g t ℓ) u := by
  refine h.next hbefore (.inl hafter) (.refl _) h.present rfl ?_ ?_ ?_ hknows
  · rw [hlearns.hand_eq, Function.update_eq_self]
    exact h.writing.same [m] (.inr rfl) .rfl rfl id
  · rw [hlearns.stake_eq, Function.update_eq_self]
    exact h.books.same [m] rfl rfl (Nat.le_refl _) (fun _ _ => rfl) fun _ _ => id
  · rw [hlearns.quiet_eq, Function.update_eq_self]
    exact h.reading.same [m] rfl

theorem mark_same (h : S.Holds past g u) (hbefore : S.state m.before = S.state u)
    (hafter : S.state m.after = S.state u) : S.Holds (past ++ [m]) g u := by
  have := h.mark (t := 0) (m := m) hbefore hafter (.refl _) fun later => h.knows 0 (m :: later)
  rwa [Function.update_eq_self] at this

end Holds

/-! ## The discipline -/

/-- What a local state tells of a program: whether it writes, and which bytes. -/
def Shows {α : Type} (S : Setting W J) (ℓ : Local W J) (p : Program W J α) : Prop :=
  (∀ rest, p.AwaitsOffer S.output rest → ℓ.Writes) ∧
    ∀ m rest, ℓ.hand = .writes m rest → (∃ a, p = .done a) ∨ p.Offers S.output rest

theorem awaitsOffer_bind {α β : Type} {p : Program W J β} {k : β → Program W J α} {q : PipeId}
    {rest : Bytes} (hp : ∀ b, p ≠ .done b) :
    (p.bind k).AwaitsOffer q rest ↔ p.AwaitsOffer q rest := by
  constructor
  · rintro ⟨hne, cancel, next, h⟩
    refine ⟨hne, ?_⟩
    cases p with
    | done b => exact absurd rfl (hp b)
    | await poll cancel' next' =>
        cases h
        exact ⟨cancel, next', rfl⟩
    | _ => exact nomatch h
  · rintro ⟨hne, cancel, next, rfl⟩
    exact ⟨hne, cancel, fun b => (next b).bind k, rfl⟩

theorem Shows.bind {α β : Type} {p : Program W J β} (h : S.Shows ℓ p) (k : β → Program W J α)
    (hp : ∀ b, p ≠ .done b) : S.Shows ℓ (p.bind k) := by
  refine ⟨fun rest ho => h.1 rest ((awaitsOffer_bind hp).1 ho), fun m rest hm => .inr ?_⟩
  rcases h.2 m rest hm with ⟨b, hb⟩ | ho | ⟨k', hk'⟩
  · exact absurd hb (hp b)
  · exact .inl ((awaitsOffer_bind hp).2 ho)
  · exact .inr ⟨fun r => (k' r).bind k, by rw [hk', Program.bind_assoc]⟩

theorem shows_done {α : Type} (a : α) : S.Shows ℓ (.done a : Program W J α) :=
  ⟨fun _ ⟨_, _, _, h⟩ => (nomatch h), fun _ _ _ => .inl ⟨a, rfl⟩⟩

theorem Holds.idle (h : S.Holds past g w) (hrests : (g t).Rests) :
    S.Holds past (update g t Local.idle) w := by
  refine h.released (.refl _) h.present rfl ?_ ?_ ?_ fun _ => trivial
  · rw [show Local.idle.hand = (g t).hand from hrests.1.symm, Function.update_eq_self]
    exact h.writing
  · rw [show Local.idle.stake = (g t).stake from hrests.2.symm, Function.update_eq_self]
    exact h.books
  · have hquiet {s : TaskId} (hs : update (fun s => (g s).quiet) t false s = true) :
        (g s).quiet = true := by
      by_cases hst : s = t
      · subst hst
        simp at hs
      · simpa [hst] using hs
    exact {
      unique := fun ha hb => h.reading.unique (hquiet ha) (hquiet hb)
      silent := fun ha => h.reading.silent (hquiet ha)
      reported := h.reading.reported }

variable [LawfulWiring W]

/-- A change of the wiring that the link does not notice. -/
theorem unseen_setWiring {v : Wiring} {w : W}
    (hreports : S.reports (HasWiring.setWiring v w) = S.reports w)
    (hlinks : v.links = (HasWiring.wiring w).links)
    (hpromises : v.promises = (HasWiring.wiring w).promises)
    (hcarried : v.carried S.output = (HasWiring.wiring w).carried S.output)
    (htakes : v.takes S.output = (HasWiring.wiring w).takes S.output) :
    S.Unseen w (HasWiring.setWiring v w) := by
  have hw : HasWiring.wiring (HasWiring.setWiring v w) = v := LawfulWiring.wiring_setWiring v w
  have houtcome (p : PromiseId) : v.outcome p = (HasWiring.wiring w).outcome p := by
    unfold Wiring.outcome
    rw [hpromises]
  exact {
    link_eq := by rw [hw, hlinks]
    carried_eq := by rw [hw, hcarried]
    takes := fun h => by rwa [hw, htakes] at h
    length_le := Nat.le_of_eq (by rw [hw, hpromises])
    outcome_pending := fun _ => by rw [hw, houtcome]
    outcome_kept := fun h => by rwa [hw, houtcome]
    reports_eq := hreports
    takes_eq := by rw [hw, htakes] }

theorem unseen_agenda (hS : S.Lawful) (f : Agenda → Agenda) (w : W) :
    S.Unseen w (HasAgenda.modify f w) :=
  unseen_setWiring (hS.reports_setWiring _ w) rfl rfl rfl rfl

/-- The discipline of a link. -/
def discipline (hS : S.Lawful) : Discipline W J where
  Local := Local W J
  idle := Local.idle
  Holds := S.Holds
  Rests := Local.Rests
  Shows := S.Shows
  MayStart := S.mayStart
  View := Bytes × Bool
  view w := ((HasWiring.wiring w).carried S.output, (HasWiring.wiring w).takes S.output)
  rests_idle := ⟨rfl, rfl⟩
  shows_done _ := shows_done
  shows_bind k hp h := h.bind k hp
  holds_idle hrests h := h.idle hrests
  holds_agenda f h := h.aside (unseen_agenda hS f _).toAside
  view_agenda w f := by
    rw [(unseen_agenda hS f w).carried_eq, (unseen_agenda hS f w).takes_eq]

theorem state_updateLink {w : Wiring} {l : LinkId} (h : (w.links.get? l).isSome) (f : Link → Link) :
    (w.updateLink l f).link l = f (w.link l) :=
  Store.get_update_of_isSome h f

/-- A link that is not there is closed, and stays so. -/
theorem state_updateLink_of_closed (w : Wiring) (l : LinkId) {f : Link → Link}
    (hf : f Link.closed = Link.closed) : (w.updateLink l f).link l = f (w.link l) := by
  cases hl : w.links.get? l with
  | some x => exact state_updateLink (by rw [hl]; rfl) f
  | none =>
      unfold Wiring.link Wiring.updateLink Store.get
      rw [Store.get?_update_same, hl]
      exact hf.symm

theorem isSome_updateLink {w : Wiring} {l : LinkId} (h : (w.links.get? l).isSome)
    (f : Link → Link) : ((w.updateLink l f).links.get? l).isSome := by
  have : (w.updateLink l f).links.get? l = (w.links.get? l).map f := Store.get?_update_same ..
  rw [this]
  simpa using h

/-- Something has happened that has changed the wiring, and what it has changed of the link was for
the task to change. -/
theorem Holds.rewire (h : S.Holds past g w) (hS : S.Lawful) {v : Wiring}
    (hbefore : m.before = w) (hafter : m.after = w ∨ m.after = HasWiring.setWiring v w)
    (hpresent : (v.links.get? S.link).isSome) (hinput : (v.link S.link).input = (S.state w).input)
    (honward : Link.Onward (S.state w) (v.link S.link))
    (hwriting : S.Writing (past ++ [m]) (update (fun t => (g t).hand) t ℓ.hand) (v.link S.link) v)
    (hbooks : S.Books (past ++ [m]) (update (fun t => (g t).stake) t ℓ.stake) (v.link S.link) v)
    (hquiet : ℓ.quiet = (g t).quiet) (hknows : ∀ later, ℓ.knows (past ++ m :: later)) :
    S.Holds (past ++ [m]) (update g t ℓ) (HasWiring.setWiring v w) := by
  have hw : HasWiring.wiring (HasWiring.setWiring v w) = v := LawfulWiring.wiring_setWiring v w
  have hstate : S.state (HasWiring.setWiring v w) = v.link S.link := by
    unfold state
    rw [hw]
  refine h.next (by rw [hbefore]) (hafter.imp (fun ha => by rw [ha]) fun ha => by rw [ha])
    (by rwa [hstate]) (by rwa [hw]) (by rwa [hstate]) (by rwa [hstate, hw]) (by rwa [hstate, hw]) ?_
    hknows
  rw [hquiet, Function.update_eq_self]
  exact h.reading.same [m] (hS.reports_setWiring v w)

/-! ## Waits -/

/-- An open pipe takes something of what is offered to it. -/
theorem exists_carried_offering {p : PipeId} {rest : Bytes} (hrest : rest ≠ []) (w : W) :
    ∃ v : W, (HasWiring.wiring (Program.offering p rest 0 v).1).carried p ≠
      (HasWiring.wiring v).carried p := by
  refine ⟨HasWiring.setWiring Wiring.empty w, ?_⟩
  have hget : Wiring.empty.pipes.get p = Pipe.open_ := rfl
  have hoffer : Pipe.open_.offer rest 0 =
      ({ Pipe.open_ with content := rest.take Pipe.standardCapacity }, none,
        .took (rest.take Pipe.standardCapacity) (rest.drop Pipe.standardCapacity)) := rfl
  have htraffic : (Wiring.empty.offer p rest 0).1.traffic =
      [(p, rest.take Pipe.standardCapacity)] := by
    simp only [Wiring.offer, Wiring.visitPipe, Store.visit, hget, hoffer]
    rfl
  unfold Program.offering
  rw [HasWiring.wiring_visit, LawfulWiring.wiring_setWiring]
  dsimp only
  unfold Wiring.carried
  rw [htraffic]
  cases rest with
  | nil => exact absurd rfl hrest
  | cons b rest => simp [Wiring.empty, Pipe.standardCapacity]

/-- A wait that leaves the output alone is no offer. -/
theorem not_awaitsOffer [Nonempty W] {α β : Type} {poll : TaskId → W → W × Option β}
    {cancel : TaskId → W → W} {next : β → Program W J α} {p : PipeId}
    (h : ∀ t w, (HasWiring.wiring (poll t w).1).carried p = (HasWiring.wiring w).carried p)
    (rest : Bytes) : ¬ (Program.await poll cancel next).AwaitsOffer p rest := by
  rintro ⟨hne, cancel', next', heq⟩
  cases heq
  obtain ⟨w⟩ := ‹Nonempty W›
  obtain ⟨v, hv⟩ := exists_carried_offering (p := p) hne w
  exact hv (h 0 v)

theorem shows_await [Nonempty W] {α β : Type} {poll : TaskId → W → W × Option β}
    {cancel : TaskId → W → W} {next : β → Program W J α} (hℓ : ¬ ℓ.Writes)
    (h : ∀ t w, (HasWiring.wiring (poll t w).1).carried S.output =
      (HasWiring.wiring w).carried S.output) : S.Shows ℓ (.await poll cancel next) :=
  ⟨fun rest ho => absurd ho (not_awaitsOffer h rest), fun m rest hm => absurd ⟨m, rest, hm⟩ hℓ⟩

variable {hS : S.Lawful}

theorem plain_of_not_writes (hℓ : ¬ ℓ.Writes) : (S.discipline hS).Plain ℓ := by
  intro α p hp
  exact ⟨fun rest ⟨_, cancel, next, h⟩ => absurd h (hp _ _ cancel next),
    fun m rest hm => absurd ⟨m, rest, hm⟩ hℓ⟩

/-- Where giving up is not seen, the task is where it was. -/
theorem cancels_unseen {α : Type} {cancel : TaskId → W → W} (h : ∀ t w, S.Unseen w (cancel t w))
    (p : Program W J α) : (S.discipline hS).Cancels t cancel p ℓ (Local.Learns ℓ) := by
  refine ⟨?_, fun w => Prod.ext (h t w).carried_eq (h t w).takes_eq⟩
  intro past (g : TaskId → Local W J) w hg hw
  have hw : S.Holds past g w := hw
  obtain rfl := hg
  refine ⟨g t, ?_, .refl _⟩
  change S.Holds _ (update g t (g t)) _
  rw [Function.update_eq_self]
  exact (hw.aside (h t w).toAside).mark_same (h t w).state_eq.symm (h t w).state_eq.symm

omit [LawfulWiring W] in
theorem Unseen.refl (w : W) : S.Unseen w w :=
  ⟨⟨rfl, rfl, id, Nat.le_refl _, fun _ => rfl, id, rfl⟩, rfl⟩

/-- A wait that leaves the link alone. What one is told in the end, one may learn from. -/
theorem fine_wait [Nonempty W] {α : Type} {poll : TaskId → W → W × Option α}
    {cancel : TaskId → W → W} (hℓ : ¬ ℓ.Writes) (hpoll : ∀ t w, S.Aside w (poll t w).1)
    (hcancel : ∀ t w, S.Unseen w (cancel t w)) (fact : α → List (Moment W J) → Prop)
    (hfact : ∀ {γ : Type} (k : α → Program W J γ) {past : List (Moment W J)}
      {g : TaskId → Local W J} {w : W} {a : α}, g t = ℓ → S.Holds past g w →
      (poll t w).2 = some a →
      ∀ later, fact a (past ++ .asks t (.await poll cancel k) w (poll t w).1 :: later)) :
    (S.discipline hS).Fine t (Local.Learns ℓ) (fun ℓ' a => ℓ' = ℓ.learn (fact a)) ℓ
      (.await poll cancel .done) := by
  refine Discipline.fine_await (shows_await hℓ fun s w => (hpoll s w).carried_eq)
    (fun k => ⟨?_, ?_⟩) fun k => cancels_unseen hcancel _
  · intro past (g : TaskId → Local W J) w u a hg h hp
    have h : S.Holds past g w := h
    obtain rfl := hg
    obtain rfl : (poll t w).1 = u := congrArg Prod.fst hp
    have ha : (poll t w).2 = some a := congrArg Prod.snd hp
    refine ⟨_, ?_, rfl⟩
    exact (h.aside (hpoll t w)).mark (hpoll t w).state_eq.symm rfl (.learn _ _)
      fun later => ⟨h.knows t _, hfact k rfl h ha later⟩
  · intro past (g : TaskId → Local W J) w u hg h hp
    have h : S.Holds past g w := h
    obtain rfl : (poll t w).1 = u := congrArg Prod.fst hp
    exact (h.aside (hpoll t w)).mark_same (hpoll t w).state_eq.symm rfl

/-- What does not touch the output can be given up at any time. -/
theorem fine_act [Nonempty W] {α : Type} {f : W → W × α} {post : Local W J → α → Prop}
    (hℓ : ¬ ℓ.Writes) (hcarried : ∀ w, (HasWiring.wiring (f w).1).carried S.output =
      (HasWiring.wiring w).carried S.output)
    (hacts : ∀ {γ : Type} (k : α → Program W J γ) {past : List (Moment W J)}
      {g : TaskId → Local W J} {w : W}, g t = ℓ → S.Holds past g w →
      ∃ ℓ', S.Holds (past ++ [.asks t ((Program.act f).bind k) w (f w).1]) (update g t ℓ')
        (f w).1 ∧ post ℓ' (f w).2) :
    (S.discipline hS).Fine t (Local.Learns ℓ) post ℓ (.act f) :=
  Discipline.fine_act (shows_await hℓ fun _ => hcarried) hacts
    fun _ => (cancels_unseen (fun _ => Unseen.refl) _).holds

/-- What one reads off the world, one may learn from. -/
theorem fine_read [Nonempty W] {α : Type} (f : W → α) (fact : α → List (Moment W J) → Prop)
    (hℓ : ¬ ℓ.Writes)
    (hfact : ∀ {γ : Type} (k : α → Program W J γ) {past : List (Moment W J)}
      {g : TaskId → Local W J} {w : W}, g t = ℓ → S.Holds past g w →
      ∀ later, fact (f w) (past ++ .asks t ((Program.read f).bind k) w w :: later)) :
    (S.discipline hS).Fine t (Local.Learns ℓ) (fun ℓ' a => ℓ' = ℓ.learn (fact a)) ℓ
      (.read f) := by
  refine fine_wait hℓ (fun _ w => (Unseen.refl w).toAside) (fun _ => Unseen.refl) fact ?_
  intro γ k past g w a hg h ha
  obtain rfl := Option.some.inj ha
  intro later
  exact hfact k hg h later

end Link.Setting

end LanguageClient
