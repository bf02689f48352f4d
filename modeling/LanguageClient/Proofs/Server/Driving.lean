import LanguageClient.Proofs.Server.Manners
namespace LanguageClient

/-!
# Driving servers

What starts, stops and initializes servers, step by step in the role of its task.
-/

open Function (update)
open Regime Courteous
open Scene (Leads Stays Rests Lasting)

variable {E K : Type} {α β : Type}

/-- A task with a lifecycle still has one. -/
def Scene.Holds (t : TaskId) (s s' : Scene (Client E) (Job K) (Role K)) : Prop :=
  (s.roles t).hold ≠ none → (s'.roles t).hold ≠ none

open Scene (Holds)

/-- Task `t` can run `p` wherever `P` holds, in whatever roles; at the end `Q` holds of its value.
It lets go of no lifecycle that it had before. -/
def Handles (given : String → Prop) (t : TaskId)
    (P : Scene (Client E) (Job K) (Role K) → Prop) (p : Prog E K α)
    (Q : α → Scene (Client E) (Job K) (Role K) → Prop) : Prop :=
  ∀ ⦃o s : Scene (Client E) (Job K) (Role K)⦄, Leads given o s → s.Sane → P s →
    (ofClient given).From t o s p
      (fun a o' s' => Leads given o' s' ∧ Leads given s s' ∧ Holds t s s' ∧ Q a s')
      fun o' s' => Holds t s o' ∧ (ofClient given).Spares t o' s'

variable {given : String → Prop} {t : TaskId} {ρ : Role K}
  {P P' : Scene (Client E) (Job K) (Role K) → Prop}
  {Q Q' : α → Scene (Client E) (Job K) (Role K) → Prop}

/-! ## Rules -/

theorem Scene.Rests.spares {s o' s' : Scene (Client E) (Job K) (Role K)}
    (h : Rests given t s o' s') : (ofClient given).Spares t o' s' := by
  refine fun _ => ⟨s'.roles t, ?_⟩
  rw [Scene.become_roles]
  exact h.owed

theorem Scene.holds_of_role {s s' : Scene (Client E) (Job K) (Role K)}
    (h : s'.roles t = s.roles t) : Holds t s s' := fun hs => h ▸ hs

/-- What was done in the same go before counts as well. -/
theorem Handles.since {p : Prog E K α} (h : Handles given t P p Q)
    {o s s' : Scene (Client E) (Job K) (Role K)} (ho : Leads given o s') (hs : s.Sane)
    (hfree : (s.roles t).hold = none) (hl : Leads given s s') (hp : P s') :
    (ofClient given).From t o s' p
      (fun a o' s'' => Leads given o' s'' ∧ Leads given s s'' ∧ Holds t s s'' ∧ Q a s'')
      fun o' s'' => Holds t s o' ∧ (ofClient given).Spares t o' s'' :=
  (h ho (hl.sane hs) hp).mono
    (fun _ _ _ hq => ⟨hq.1, hl.trans hq.2.1, fun hheld => absurd hfree hheld, hq.2.2.2⟩)
    fun _ _ hr => ⟨fun hheld => absurd hfree hheld, hr.2⟩

theorem Courteous.handles {p : Prog E K α} (h : Courteous given t P p Q) :
    Handles given t P p Q := fun _ _ ho hs hp =>
  (h ho hs hp).mono
    (fun _ _ _ hq => ⟨hq.1.owed, hq.1.since, Scene.holds_of_role hq.1.role, hq.2⟩)
    fun _ _ hr => ⟨Scene.holds_of_role hr.paused, hr.spares⟩

/-- What is courteous can be done in any role. -/
theorem Courteous.Always.handles {p : Prog E K α} (h : Always given t p)
    (hP : Lasting given t P) : Handles given t P p fun _ => P := (h hP).handles

theorem Courteous.Using.handles {a : Access} {p : Prog E K α} (h : Using given t (· = a) p)
    (hP : Lasting given t P) :
    Handles given t (fun s => P s ∧ s.affairs.Genuine a) p fun _ => P := by
  refine ((h (hP.and (Scene.lasting_genuine a)) ?_).fst).handles
  rintro s hs b rfl
  exact hs.2

theorem Handles.mono {p : Prog E K α} (h : Handles given t P p Q)
    (hP : ∀ s, s.Sane → P' s → P s) (hQ : ∀ a s, Q a s → Q' a s) : Handles given t P' p Q' :=
  fun _ _ ho hs hp => (h ho hs (hP _ hs hp)).mono
    (fun a _ s' hq => ⟨hq.1, hq.2.1, hq.2.2.1, hQ a s' hq.2.2.2⟩) fun _ _ => id

theorem Handles.of_imp {p : Prog E K α} (h : Handles given t P p Q) (hP : ∀ s, P' s → P s) :
    Handles given t P' p Q :=
  h.mono (fun s _ => hP s) fun _ _ => id

theorem handles_done {a : α} (h : ∀ s, P s → Q a s) : Handles given t P (.done a) Q :=
  fun _ _ ho _ hp => from_done ⟨ho, .refl, id, h _ hp⟩

theorem Handles.bind {p : Prog E K α} {k : α → Prog E K β}
    {S : β → Scene (Client E) (Job K) (Role K) → Prop} (h : Handles given t P p Q)
    (hk : ∀ a, Handles given t (Q a) (k a) S) : Handles given t P (p.bind k) S := by
  intro o s ho hs hp
  refine From.bind (h ho hs hp) fun a o' s' ⟨howed, hsince, hholds, hq⟩ => ?_
  refine (hk a howed (hsince.sane hs) hq).mono ?_ fun _ _ hl => ⟨hl.1 ∘ hholds, hl.2⟩
  exact fun b o'' s'' hb => ⟨hb.1, hsince.trans hb.2.1, hb.2.2.1 ∘ hholds, hb.2.2.2⟩

/-- What holds from some time on, whoever goes on. -/
def Scene.Durable (given : String → Prop) (F : Scene (Client E) (Job K) (Role K) → Prop) : Prop :=
  ∀ ⦃s s' : Scene (Client E) (Job K) (Role K)⦄, s.Sane → F s → Leads given s s' → F s'

open Scene (Durable)

theorem Handles.frame {F : Scene (Client E) (Job K) (Role K) → Prop} {p : Prog E K α}
    (h : Handles given t P p Q) (hF : Durable given F) :
    Handles given t (fun s => P s ∧ F s) p fun a s => Q a s ∧ F s := by
  intro o s ho hs hp
  refine (h ho hs hp.1).mono (fun a o' s' hq => ?_) fun _ _ => id
  exact ⟨hq.1, hq.2.1, hq.2.2.1, hq.2.2.2, hF hs hp.2 hq.2.1⟩

/-! ## Attempts -/

/-- Task `t` can run `p` with a limit to its time: given up at a pause, it leaves `L`. -/
def Attempts (given : String → Prop) (t : TaskId)
    (P : Scene (Client E) (Job K) (Role K) → Prop) (p : Prog E K α)
    (Q : α → Scene (Client E) (Job K) (Role K) → Prop)
    (L : Scene (Client E) (Job K) (Role K) → Prop) : Prop :=
  ∀ ⦃o s : Scene (Client E) (Job K) (Role K)⦄, Leads given o s → s.Sane → P s →
    (ofClient given).From t o s p
      (fun a o' s' => Leads given o' s' ∧ Leads given s s' ∧ Holds t s s' ∧ Q a s')
      fun o' s' => Holds t s o' ∧ Leads given o' s' ∧ Leads given s s' ∧ Holds t s s' ∧ L s'

variable {L : Scene (Client E) (Job K) (Role K) → Prop}

theorem Courteous.attempts {p : Prog E K α} (h : Courteous given t P p Q)
    (hP : Lasting given t P) : Attempts given t P p Q P := by
  intro o s ho hs hp
  refine (h ho hs hp).mono ?_ ?_
  · exact fun _ _ _ hq => ⟨hq.1.owed, hq.1.since, Scene.holds_of_role hq.1.role, hq.2⟩
  · exact fun o' s' hl => ⟨Scene.holds_of_role hl.paused, hl.owed, hl.since,
      Scene.holds_of_role hl.role, hP hs hp hl.since hl.role⟩

theorem attempts_done {a : α} (h : ∀ s, P s → Q a s) : Attempts given t P (.done a) Q L :=
  fun _ _ ho _ hp => from_done ⟨ho, .refl, id, h _ hp⟩

theorem Attempts.bind {p : Prog E K α} {k : α → Prog E K β}
    {S : β → Scene (Client E) (Job K) (Role K) → Prop} (h : Attempts given t P p Q L)
    (hk : ∀ a, Attempts given t (Q a) (k a) S L) : Attempts given t P (p.bind k) S L := by
  intro o s ho hs hp
  refine From.bind (h ho hs hp) fun a o' s' ⟨howed, hsince, hholds, hq⟩ => ?_
  refine (hk a howed (hsince.sane hs) hq).mono ?_ ?_
  · exact fun b o'' s'' hb => ⟨hb.1, hsince.trans hb.2.1, hb.2.2.1 ∘ hholds, hb.2.2.2⟩
  · exact fun o'' s'' ⟨hpaused, hl, hsince', hheld, hL⟩ =>
      ⟨hpaused ∘ hholds, hl, hsince.trans hsince', hheld ∘ hholds, hL⟩

theorem Attempts.timeout {p : Prog E K α} (millis : Nat) (h : Attempts given t P p Q L)
    (hP : Lasting given t P) (hQ : ∀ a, Lasting given t (Q a)) (hL : Lasting given t L) :
    Handles given t P (.timeout millis p) fun r s => match r with
      | some a => Q a s
      | none => L s := by
  intro o s ho hs hp
  have hput (s' : Scene (Client E) (Job K) (Role K)) (f : Agenda → Agenda) :
      Leads given s' (s'.put (HasAgenda.modify f s'.world)) := .put (s'.world.ledger_modifyAgenda f)
  refine From.timeout millis fun time => ?_
  have hset := hput s (·.setAlarm time t)
  refine (h (ho.trans hset) (hset.sane hs) (hP hs hp hset rfl)).mono ?_ ?_
  · intro a o' s' ⟨howed, hsince, hholds, hq⟩
    have hsince := hset.trans hsince
    have hdrop := hput s' (·.dropAlarm time t)
    exact ⟨howed.trans hdrop, hsince.trans hdrop, hholds,
      hQ a (Leads.sane hsince hs) hq hdrop rfl⟩
  · intro o' s' ⟨hpaused, howed, hsince, hholds, hl⟩
    have hsince := hset.trans hsince
    have hdrop := hput s' (·.dropAlarm time t)
    refine ⟨⟨howed.trans hdrop, hsince.trans hdrop, hholds,
      hL (Leads.sane hsince hs) hl hdrop rfl⟩, hpaused, fun _ => ⟨s'.roles t, ?_⟩⟩
    have hrole := Scene.become_roles (s'.put (HasAgenda.modify (·.dropAlarm time t) s'.world)) t
    rw [Scene.roles_put] at hrole
    rw [hrole]
    exact howed.trans hdrop

theorem Attempts.limit {p : Prog E K α} (kind : RequestKind) (h : Attempts given t P p Q L)
    (hP : Lasting given t P) (hQ : ∀ a, Lasting given t (Q a)) (hL : Lasting given t L) :
    Handles given t P (Prog.limit kind p) fun r s => match r with
      | .ok a => Q a s
      | .error _ => L s := by
  refine (courteous_look hP).handles.bind fun millis => (h.timeout millis hP hQ hL).bind fun r => ?_
  cases r with
  | some a =>
    refine (courteous_modify (hQ a) ?_).handles.bind fun _ => handles_done fun _ => id
    exact fun _ => rfl
  | none =>
    refine (courteous_modify hL ?_).handles.bind fun _ => handles_done fun _ => id
    exact fun _ => rfl

/-- A step in a role, with another role to follow. -/
theorem attempts_act {f : Client E → Client E × α}
    (h : ∀ s : Scene (Client E) (Job K) (Role K), s.Sane → P s → ∃ ρ,
      Step (fun _ _ => False) given s.affairs ⟨update s.roles t ρ, (f s.world).1.ledger⟩ ∧
        ((s.roles t).hold ≠ none → ρ.hold ≠ none) ∧
        ∀ s' : Scene (Client E) (Job K) (Role K), s'.roles t = ρ →
          (∀ u, u ≠ t → s'.roles u = s.roles u) → Q (f s.world).2 s') :
    Attempts given t P (.act f) Q L := by
  intro o s ho hs hp
  obtain ⟨ρ, hstep, hholds, hq⟩ := h s hs hp
  refine from_act_become fun k => ⟨ρ, ?_⟩
  have hl : Leads given s ((s.asked t ((Program.act f).bind k) (f s.world).1).become t ρ) :=
    Scene.One.leads hs (hstep.mono fun _ _ => False.elim)
  have hrole := Scene.roles_become_same (s.asked t ((Program.act f).bind k) (f s.world).1) t ρ
  refine ⟨ho.trans hl, hl, fun hold => ?_, hq _ hrole fun u hu => Scene.roles_become_ne _ ρ hu⟩
  rw [hrole]
  exact hholds hold

/-- What can be given up can be dropped. -/
theorem Attempts.handles {p : Prog E K α} (h : Attempts given t P p Q L) :
    Handles given t P p Q := by
  intro o s ho hs hp
  refine (h ho hs hp).mono (fun _ _ _ => id) fun o' s' hl => ⟨hl.1, fun _ => ⟨s'.roles t, ?_⟩⟩
  rw [Scene.become_roles]
  exact hl.2.1

theorem handles_act {f : Client E → Client E × α}
    (h : ∀ s : Scene (Client E) (Job K) (Role K), s.Sane → P s → ∃ ρ,
      Step (fun _ _ => False) given s.affairs ⟨update s.roles t ρ, (f s.world).1.ledger⟩ ∧
        ((s.roles t).hold ≠ none → ρ.hold ≠ none) ∧
        ∀ s' : Scene (Client E) (Job K) (Role K), s'.roles t = ρ →
          (∀ u, u ≠ t → s'.roles u = s.roles u) → Q (f s.world).2 s') :
    Handles given t P (.act f) Q := (attempts_act (L := fun _ => True) h).handles

/-- A step beside all roles. -/
theorem courteous_aside {f : Client E → Client E × α} (hP : Lasting given t P)
    {F : Scene (Client E) (Job K) (Role K) → Prop}
    (h : ∀ s : Scene (Client E) (Job K) (Role K), s.Sane → F s →
      Aside (fun _ _ => False) given s.affairs ⟨s.roles, (f s.world).1.ledger⟩) :
    Courteous given t (fun s => P s ∧ F s) (.act f) fun _ => P := by
  refine courteous_act fun s hs hp γ k => ?_
  have hl : Leads given s (s.asked t ((Program.act f).bind k) (f s.world).1) :=
    .one hs (.aside ((h s hs hp.2).mono fun _ _ => False.elim))
  exact ⟨hl, hP hs hp.1 hl rfl⟩

theorem lasting_role (ρ : Role K) :
    Lasting given t fun s : Scene (Client E) (Job K) (Role K) => s.roles t = ρ :=
  fun _ _ _ h _ hr => hr.trans h

end LanguageClient
