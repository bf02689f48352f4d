import LanguageClient.Proofs.Server.Leading
namespace LanguageClient

/-!
# Courtesy

A courteous program keeps the role of its task: it may talk to servers and work on documents, but
starts and stops nothing, so that it can stand anywhere in a task.
-/

open Regime

variable {E K : Type} {α β : Type}

namespace Scene

variable (given : String → Prop) (t : TaskId)

/-- Since scene `s`, task `t` has paid its debts up to scene `o'` and has kept its role. -/
structure Stays (s o' s' : Scene (Client E) (Job K) (Role K)) : Prop where
  owed : Leads given o' s'
  since : Leads given s s'
  role : s'.roles t = s.roles t

/-- What is left when the task is given up at a pause. -/
structure Rests (s o' s' : Scene (Client E) (Job K) (Role K)) : Prop extends
    Stays given t s o' s' where
  paused : o'.roles t = s.roles t

/-- What holds of a task for as long as it keeps its role. -/
def Lasting (P : Scene (Client E) (Job K) (Role K) → Prop) : Prop :=
  ∀ ⦃s s' : Scene (Client E) (Job K) (Role K)⦄, s.Sane → P s → Leads given s s' →
    s'.roles t = s.roles t → P s'

variable {given t} {P Q : Scene (Client E) (Job K) (Role K) → Prop}
  {o s s' s'' : Scene (Client E) (Job K) (Role K)}

theorem Stays.refl (h : Leads given o s) : Stays given t s o s := ⟨h, .refl, rfl⟩

theorem Stays.sane (h : Stays given t s o s') (hs : s.Sane) : s'.Sane := h.since.sane hs

theorem lasting_true : Lasting given t fun _ : Scene (Client E) (Job K) (Role K) => True :=
  fun _ _ _ _ _ _ => trivial

theorem Lasting.and (hP : Lasting given t P) (hQ : Lasting given t Q) :
    Lasting given t fun s => P s ∧ Q s :=
  fun _ _ hs h hl hr => ⟨hP hs h.1 hl hr, hQ hs h.2 hl hr⟩

theorem lasting_genuine (a : Access) :
    Lasting given t fun s : Scene (Client E) (Job K) (Role K) => s.affairs.Genuine a :=
  fun _ _ hs h hl _ => hl.genuine hs h

theorem lasting_founded (job : Job K) :
    Lasting given t fun s : Scene (Client E) (Job K) (Role K) => s.affairs.Founded job :=
  fun _ _ hs h hl _ => hl.founded hs h

end Scene

open Scene (Leads Stays Rests Lasting)

/-- Task `t` can run `p` wherever `P` holds; at the end `Q` holds of its value. -/
def Courteous (given : String → Prop) (t : TaskId)
    (P : Scene (Client E) (Job K) (Role K) → Prop) (p : Prog E K α)
    (Q : α → Scene (Client E) (Job K) (Role K) → Prop) : Prop :=
  ∀ ⦃o s : Scene (Client E) (Job K) (Role K)⦄, Leads given o s → s.Sane → P s →
    (ofClient given).From t o s p (fun a o' s' => Stays given t s o' s' ∧ Q a s')
      fun o' s' => Rests given t s o' s'

variable {given : String → Prop} {t : TaskId}
  {P P' : Scene (Client E) (Job K) (Role K) → Prop}
  {Q : α → Scene (Client E) (Job K) (Role K) → Prop}

theorem Courteous.mono {Q' : α → Scene (Client E) (Job K) (Role K) → Prop} {p : Prog E K α}
    (h : Courteous given t P p Q) (hP : ∀ s, s.Sane → P' s → P s) (hQ : ∀ a s, Q a s → Q' a s) :
    Courteous given t P' p Q' := fun _ _ ho hs hp =>
  (h ho hs (hP _ hs hp)).mono (fun a _ s' hq => ⟨hq.1, hQ a s' hq.2⟩) fun _ _ => id

theorem courteous_done {a : α} (h : ∀ s, P s → Q a s) : Courteous given t P (.done a) Q :=
  fun _ _ ho _ hp => from_done ⟨.refl ho, h _ hp⟩

theorem courteous_pure (a : α) : Courteous given t P (pure a) fun _ => P :=
  courteous_done fun _ hp => hp

theorem Courteous.bind {p : Prog E K α} {k : α → Prog E K β}
    {S : β → Scene (Client E) (Job K) (Role K) → Prop} (h : Courteous given t P p Q)
    (hk : ∀ a, Courteous given t (Q a) (k a) S) : Courteous given t P (p.bind k) S := by
  intro o s ho hs hp
  -- What is left of `p` is left of the whole.
  refine From.bind (h ho hs hp) fun a o' s' hq => ?_
  refine (hk a hq.1.owed (hq.1.sane hs) hq.2).mono ?_ ?_
  · intro b o'' s'' hb
    exact ⟨⟨hb.1.owed, hq.1.since.trans hb.1.since, hb.1.role.trans hq.1.role⟩, hb.2⟩
  · intro o'' s'' hb
    exact ⟨⟨hb.owed, hq.1.since.trans hb.since, hb.role.trans hq.1.role⟩,
      hb.paused.trans hq.1.role⟩

/-- A step for oneself. -/
theorem courteous_act {f : Client E → Client E × α}
    (h : ∀ s : Scene (Client E) (Job K) (Role K), s.Sane → P s → ∀ {γ : Type} (k : α → Prog E K γ),
      let s' := s.asked t ((Program.act f).bind k) (f s.world).1
      Leads given s s' ∧ Q (f s.world).2 s') : Courteous given t P (.act f) Q := by
  intro o s ho hs hp
  refine from_act fun k => ?_
  obtain ⟨hl, hq⟩ := h s hs hp k
  exact ⟨⟨ho.trans hl, hl, rfl⟩, hq⟩

theorem courteous_quiet {f : Client E → Client E × α} (hP : Lasting given t P)
    (hf : ∀ w, (f w).1.ledger = w.ledger) : Courteous given t P (.act f) fun _ => P := by
  refine courteous_act fun s hs hp γ k => ?_
  have hl : Leads given s (s.asked t ((Program.act f).bind k) (f s.world).1) :=
    .asked hs (hf s.world)
  exact ⟨hl, hP hs hp hl rfl⟩

theorem courteous_modify {f : Client E → Client E} (hP : Lasting given t P)
    (hf : ∀ w, (f w).ledger = w.ledger) : Courteous given t P (.modify f) fun _ => P :=
  courteous_quiet hP hf

/-- What is read is so at the time. -/
theorem courteous_read {f : Client E → α} (hP : Lasting given t P)
    (hQ : ∀ s : Scene (Client E) (Job K) (Role K), s.Sane → P s → ∀ s', s'.affairs = s.affairs →
      P s' → Q (f s.world) s') : Courteous given t P (.read f) Q := by
  refine courteous_act fun s hs hp γ k => ?_
  have hl : Leads given s (s.asked t ((Program.read f).bind k) s.world) := .asked hs rfl
  exact ⟨hl, hQ s hs hp _ rfl (hP hs hp hl rfl)⟩

theorem courteous_look {f : Client E → α} (hP : Lasting given t P) :
    Courteous given t P (.read f) fun _ => P :=
  courteous_read hP fun _ _ _ _ _ hp => hp

theorem courteous_await {poll : TaskId → Client E → Client E × Option α}
    {cancel : TaskId → Client E → Client E} (hP : Lasting given t P)
    (hpoll : ∀ w, (poll t w).1.ledger = w.ledger)
    (hcancel : ∀ w, (cancel t w).ledger = w.ledger) :
    Courteous given t P (.await poll cancel .done) fun _ => P := by
  intro o s ho hs hp
  refine from_await (ℓ := s.roles t) ?_ fun s' hrely hrole γ k => ?_
  · rw [Scene.become_roles]
    exact ho
  rw [Scene.become_roles] at hrely
  have hrely : Leads given s s' := hrely
  have hs' : s'.Sane := hrely.sane hs
  have hp' : P s' := hP hs hp hrely hrole
  have hasked {u : Client E} (hu : u.ledger = s'.world.ledger) :
      Leads given s' (s'.asked t (.await poll cancel k) u) := .asked hs' hu
  have hgaveUp : Leads given s' (s'.gaveUp t (.await poll cancel k) (cancel t s'.world)) :=
    .gaveUp (hcancel s'.world)
  have hledger {u : Client E} {b : Option α} (hu : poll t s'.world = (u, b)) :
      u.ledger = s'.world.ledger := by
    have h := hpoll s'.world
    rwa [hu] at h
  refine ⟨fun hu => ?_, fun hu => hasked (hledger hu), ⟨⟨hgaveUp, ?_, hrole⟩, hrole⟩⟩
  · have hl := hasked (hledger hu)
    exact ⟨⟨hl, hrely.trans hl, hrole⟩, hP hs' hp' hl rfl⟩
  · exact hrely.trans hgaveUp

theorem Courteous.holding {p : Prog E K α} {release : Client E → Client E}
    (hrelease : ∀ w, (release w).ledger = w.ledger) (h : Courteous given t P p Q)
    (hQ : ∀ a, Lasting given t (Q a)) : Courteous given t P (.holding release p) Q := by
  intro o s ho hs hp
  have hput (s' : Scene (Client E) (Job K) (Role K)) :
      Leads given s' (s'.put (release s'.world)) := .put (hrelease s'.world)
  refine From.holding ((h ho hs hp).mono ?_ ?_)
  · intro a o' s' hq
    have hl := hput s'
    exact ⟨⟨hq.1.owed.trans hl, hq.1.since.trans hl, hq.1.role⟩,
      hQ a (hq.1.sane hs) hq.2 hl rfl⟩
  · intro o' s' hq
    have hl := hput s'
    exact ⟨⟨hq.owed.trans hl, hq.since.trans hl, hq.role⟩, hq.paused⟩

theorem Courteous.timeout {p : Prog E K α} (millis : Nat) (hP : Lasting given t P)
    (h : Courteous given t P p fun _ => P) :
    Courteous given t P (.timeout millis p) fun _ => P := by
  intro o s ho hs hp
  have hput (s' : Scene (Client E) (Job K) (Role K)) (f : Agenda → Agenda) :
      Leads given s' (s'.put (HasAgenda.modify f s'.world)) := .put (s'.world.ledger_modifyAgenda f)
  refine From.timeout millis fun time => ?_
  have hset := hput s (·.setAlarm time t)
  have hs₁ := hset.sane hs
  refine (h (ho.trans hset) hs₁ (hP hs hp hset rfl)).mono ?_ ?_
  · intro a o' s' hq
    have hl := hput s' (·.dropAlarm time t)
    exact ⟨⟨hq.1.owed.trans hl, (hset.trans hq.1.since).trans hl, hq.1.role⟩,
      hP (hq.1.sane hs₁) hq.2 hl rfl⟩
  · intro o' s' hq
    have hl := hput s' (·.dropAlarm time t)
    have hrests : Rests given t s o' (s'.put (HasAgenda.modify (·.dropAlarm time t) s'.world)) :=
      ⟨⟨hq.owed.trans hl, (hset.trans hq.since).trans hl, hq.role⟩, hq.paused⟩
    refine ⟨⟨hrests.toStays, ?_⟩, hrests⟩
    exact hP hs hp hrests.since hrests.role

theorem courteous_iterate {σ : Type} {body : σ → Prog E K (σ ⊕ α)}
    (h : ∀ x, Courteous given t P (body x) fun _ => P) (x : σ) :
    Courteous given t P (.iterate x body) fun _ => P := by
  intro o s ho hs hp
  refine from_iterate (I := fun _ o' s' => Stays given t s o' s' ∧ P s') ?_ ⟨.refl ho, hp⟩
  intro x o' s' hq
  refine (h x hq.1.owed (hq.1.sane hs) hq.2).mono ?_ ?_
  · intro r o'' s'' hr
    have hstays : Stays given t s o'' s'' ∧ P s'' :=
      ⟨⟨hr.1.owed, hq.1.since.trans hr.1.since, hr.1.role.trans hq.1.role⟩, hr.2⟩
    cases r <;> exact hstays
  · intro o'' s'' hr
    exact ⟨⟨hr.owed, hq.1.since.trans hr.since, hr.role.trans hq.1.role⟩,
      hr.paused.trans hq.1.role⟩

theorem courteous_each {f : α → Prog E K Unit} (cs : List α)
    (h : ∀ c ∈ cs, Courteous given t P (f c) fun _ => P) :
    Courteous given t P (.each f cs) fun _ => P := by
  induction cs with
  | nil => exact courteous_pure _
  | cons c cs ih =>
    refine (h c (List.mem_cons_self ..)).bind fun _ => ih fun d hd => ?_
    exact h d (List.mem_cons_of_mem _ hd)

theorem courteous_collect {f : α → Prog E K β} (cs : List α)
    (h : ∀ c ∈ cs, Courteous given t P (f c) fun _ => P) :
    Courteous given t P (.collect f cs) fun _ => P := by
  induction cs with
  | nil => exact courteous_pure _
  | cons c cs ih =>
    refine (h c (List.mem_cons_self ..)).bind fun _ => (ih fun d hd => ?_).bind fun _ =>
      courteous_pure _
    exact h d (List.mem_cons_of_mem _ hd)

/-- Hiring a task for a job that has its foundation. -/
theorem courteous_hire (job : Job K) (hP : Lasting given t P)
    (hjob : ∀ s : Scene (Client E) (Job K) (Role K), s.Sane → P s → s.affairs.Founded job)
    (hg : (Origin.hired job).greeting? = none) :
    Courteous given t P (.start job) fun u s => P s ∧ (s.roles u).origin = .hired job := by
  intro o s ho hs hp
  refine from_start (ℓ := .ofJob job) rfl fun u hu hr => ?_
  let s' := (s.put (HasAgenda.wake u s.world)).become u (.ofJob job)
  have hjob' : Role.ofJob job = .new (.hired job) := by
    cases job with
    | handshake => exact nomatch hg
    | _ => rfl
  have hact : Act s.affairs s'.affairs := by
    have h := Act.hired (A := s.affairs) hr (hjob s hs hp) hg
    rw [← hjob'] at h
    exact h
  have hl : Leads given s s' :=
    .single ⟨[], (List.append_nil _).symm, nofun, .nil (.refl _), .act hact⟩
  have hrole : s'.roles t = s.roles t := Scene.roles_become_ne _ _ (Ne.symm hu)
  refine ⟨⟨ho.trans hl, hl, hrole⟩, hP hs hp hl hrole, ?_⟩
  rw [Scene.roles_become_same, Role.origin_ofJob]

theorem courteous_start (job : Job K) (hP : Lasting given t P)
    (hjob : ∀ s : Scene (Client E) (Job K) (Role K), s.Sane → P s → s.affairs.Founded job)
    (hg : (Origin.hired job).greeting? = none) :
    Courteous given t P (.start job) fun _ => P :=
  (courteous_hire job hP hjob hg).mono (fun _ _ hp => hp) fun _ _ hp => hp.1

/-- Whoever has no lifecycle can be stopped. -/
theorem courteous_stop {task : TaskId} (hP : Lasting given t P) :
    Courteous given t (fun s => P s ∧ (s.roles task).hold = none) (.stop task) fun _ => P := by
  intro o s ho hs hp
  have hl : Leads given s (s.put (HasAgenda.wake task s.world)) := .put (s.world.ledger_wake task)
  exact from_stop hp.2 ⟨.refl ho, hp.1⟩ ⟨⟨ho.trans hl, hl, rfl⟩, hP hs hp.1 hl rfl⟩

/-! ## Locks and limits -/

theorem courteous_locked {place : Lock.Place (Client E)}
    (hplace : ∀ lock w, (place.write lock w).ledger = w.ledger) {p : Prog E K α}
    (hP : Lasting given t P) (hQ : ∀ a, Lasting given t (Q a)) (h : Courteous given t P p Q) :
    Courteous given t P (Program.locked place p) Q := by
  have hwait : Courteous given t P
      (.await place.acquire place.giveUp .done : Prog E K Unit) fun _ => P :=
    courteous_await hP (fun _ => hplace _ _)
      fun w => (Client.ledger_wakeAll _ _).trans (hplace _ w)
  refine hwait.bind fun _ => h.holding (fun w => ?_) hQ
  exact (Client.ledger_wakeAll _ _).trans (hplace _ w)

theorem courteous_limit {p : Prog E K α} (kind : RequestKind) (hP : Lasting given t P)
    (h : Courteous given t P p fun _ => P) :
    Courteous given t P (Prog.limit kind p) fun _ => P := by
  refine (courteous_look hP).bind fun millis => (h.timeout millis hP).bind fun r => ?_
  cases r <;> refine (courteous_modify hP ?_).bind fun _ => courteous_pure _ <;> exact fun _ => rfl

theorem courteous_limited {p : Prog E K (Option α)} (kind : RequestKind) (hP : Lasting given t P)
    (h : Courteous given t P p fun _ => P) :
    Courteous given t P (Prog.limited kind p) fun _ => P := by
  refine (courteous_limit kind hP h).bind fun r => ?_
  cases r <;> exact courteous_pure _

end LanguageClient
