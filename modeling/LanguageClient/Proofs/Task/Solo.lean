import LanguageClient.Proofs.Task.Stride
import LanguageClient.Task.Lock
namespace LanguageClient

/-!
# Solo runs

A run of one task from where it is to its end, no other task in between. While it waits, the world
may change as `outside` allows. `Program.Brings` says to what runtime such runs take a program,
whatever comes after it and whatever is held around it, and `Program.Does` what it does to the world.
-/

namespace Runtime

variable {W J : Type} {α : Type}

/-- Scopes without a deadline. -/
def Calm (scopes : List (Task.Scope W J α)) : Prop := ∀ now, expired? now scopes = none

theorem calm_nil : Calm ([] : List (Task.Scope W J α)) := fun _ => rfl

theorem Calm.held {scopes : List (Task.Scope W J α)} (h : Calm scopes) (release : W → W) :
    Calm (.held release :: scopes) := by
  intro now
  simp [expired?, h now]

variable [HasAgenda W]

/-- The task comes to its end after so many strides. -/
inductive Ran (outside : W → W → Prop) :
    Nat → Runtime W J → Task W J α → Runtime W J → α → Prop where
  | ended {rt rt' : Runtime W J} {task : Task W J α} {a : α}
      (h : rt.stride task = (rt', .ended a)) : Ran outside 0 rt task rt' a
  | went {n : Nat} {rt rt₁ rt' : Runtime W J} {task next : Task W J α} {a : α}
      (h : rt.stride task = (rt₁, .going next)) (r : Ran outside n rt₁ next rt' a) :
      Ran outside (n + 1) rt task rt' a
  | waited {n : Nat} {rt rt₁ rt' : Runtime W J} {task : Task W J α} {a : α} {w : W}
      (h : rt.stride task = (rt₁, .waits)) (o : outside rt₁.world w)
      (r : Ran outside n { rt₁ with world := w } task rt' a) : Ran outside (n + 1) rt task rt' a

theorem ran_of_turn {outside : W → W → Prop} {fuel : Nat} {rt rt' : Runtime W J}
    {task : Task W J α} {a : α} (h : turn fuel rt task = (rt', .inr a)) :
    ∃ n, Ran outside n rt task rt' a := by
  induction fuel generalizing rt task with
  | zero => simp [turn] at h
  | succ fuel ih =>
      rw [turn_succ] at h
      rcases hs : rt.stride task with ⟨rt₁, b | next | _⟩
      · rw [hs] at h
        simp only [Prod.mk.injEq, Sum.inr.injEq] at h
        obtain ⟨rfl, rfl⟩ := h
        exact ⟨0, .ended hs⟩
      · rw [hs] at h
        obtain ⟨n, r⟩ := ih h
        exact ⟨n + 1, .went hs r⟩
      · simp [hs] at h

/-- A turn that comes to the end is a solo run. -/
theorem exists_ran {outside : W → W → Prop} {fuel : Nat} {rt : Runtime W J} {task : Task W J α}
    {a : α} (h : (turn fuel rt task).2.getRight? = some a) :
    ∃ n, Ran outside n rt task (turn fuel rt task).1 a :=
  ran_of_turn (Prod.ext rfl (Sum.getRight?_eq_some_iff.1 h))

section Inversion

variable {outside : W → W → Prop} {n : Nat} {rt rt' : Runtime W J} {t : TaskId}
  {scopes : List (Task.Scope W J α)} {b : Bool} {a : α}

theorem Ran.of_done {c : α} (h : Ran outside n rt ⟨t, .done c, scopes, b⟩ rt' a) :
    rt' = rt ∧ a = c := by
  cases h with
  | ended h =>
      simp only [stride, Prod.mk.injEq, Stride.ended.injEq] at h
      exact ⟨h.1.symm, h.2.symm⟩
  | went h _ => simp [stride] at h
  | waited h _ _ => simp [stride] at h

/-- Where the next stride is certain, the run goes on from there. -/
theorem Ran.of_going {rt₁ : Runtime W J} {task next : Task W J α}
    (h : Ran outside n rt task rt' a) (hs : rt.stride task = (rt₁, .going next)) :
    ∃ m, n = m + 1 ∧ Ran outside m rt₁ next rt' a := by
  cases h with
  | ended h => simp [hs] at h
  | went h r =>
      rw [hs] at h
      simp only [Prod.mk.injEq, Stride.going.injEq] at h
      obtain ⟨rfl, rfl⟩ := h
      exact ⟨_, rfl, r⟩
  | waited h _ _ => simp [hs] at h

end Inversion

/-! ### What jobs stand for -/

theorem perform_stride {rt rt' : Runtime W J} {task : Task W J α} {r : Stride W J α}
    (h : rt.stride task = (rt', r)) : rt'.perform = rt.perform := by
  obtain ⟨t, p, scopes, aborted⟩ := task
  obtain ⟨moments, -, hstrode⟩ := strode h
  dsimp only at hstrode
  cases hstrode with
  | abort other next =>
      unfold abortTask
      split <;> rfl
  | _ => rfl

/-- No run changes what jobs make tasks do. -/
theorem Ran.perform_eq {outside : W → W → Prop} {n : Nat} {rt rt' : Runtime W J}
    {task : Task W J α} {a : α} (h : Ran outside n rt task rt' a) : rt'.perform = rt.perform := by
  induction h with
  | ended hs => exact perform_stride hs
  | went hs _ ih => exact ih.trans (perform_stride hs)
  | waited hs _ _ ih =>
      have hperform := perform_stride hs
      exact ih.trans hperform

end Runtime

open LanguageClient.Runtime (Calm Ran Stride calm_nil stride)

namespace Program

variable {W J : Type} [HasAgenda W] {α β γ : Type}

/-- From `rt`, every solo run of task `t` takes `p` to a value and a runtime that satisfy `Q`. -/
structure Brings (outside : W → W → Prop) (t : TaskId) (p : Program W J β) (rt : Runtime W J)
    (Q : β → Runtime W J → Prop) : Prop where
  goes {α : Type} {k : β → Program W J α} {scopes : List (Task.Scope W J α)} {aborted : Bool}
    {n : Nat} {rt' : Runtime W J} {a : α} : Calm scopes →
    Ran outside n rt ⟨t, p.bind k, scopes, aborted⟩ rt' a →
    ∃ m rt₁ b, m ≤ n ∧ Q b rt₁ ∧ Ran outside m rt₁ ⟨t, k b, scopes, aborted⟩ rt' a

section

variable {outside : W → W → Prop} {t : TaskId} {rt : Runtime W J} {Q : β → Runtime W J → Prop}

theorem Brings.ran {p : Program W J β} (h : p.Brings outside t rt Q) {n : Nat}
    {rt' : Runtime W J} {aborted : Bool} {b : β}
    (hr : Ran outside n rt ⟨t, p, [], aborted⟩ rt' b) : Q b rt' := by
  rw [← bind_done p] at hr
  obtain ⟨m, rt₁, c, _, hQ, hr₁⟩ := h.goes calm_nil hr
  obtain ⟨rfl, rfl⟩ := hr₁.of_done
  exact hQ

theorem Brings.mono {p : Program W J β} {R : β → Runtime W J → Prop} (h : p.Brings outside t rt Q)
    (hQ : ∀ b rt', Q b rt' → R b rt') : p.Brings outside t rt R := by
  constructor
  intro α k scopes aborted n rt' a hcalm hr
  obtain ⟨m, rt₁, b, hm, hb, hr₁⟩ := h.goes hcalm hr
  exact ⟨m, rt₁, b, hm, hQ b rt₁ hb, hr₁⟩

theorem brings_done {b : β} (h : Q b rt) : (done b : Program W J β).Brings outside t rt Q := by
  constructor
  intro α k scopes aborted n rt' a _ hr
  exact ⟨n, rt, b, Nat.le_refl n, h, hr⟩

theorem Brings.bind {p : Program W J γ} {f : γ → Program W J β}
    (h : p.Brings outside t rt fun c rt₁ => (f c).Brings outside t rt₁ Q) :
    (p.bind f).Brings outside t rt Q := by
  constructor
  intro α k scopes aborted n rt' a hcalm hr
  rw [bind_assoc] at hr
  obtain ⟨m, rt₁, c, hm, hf, hr₁⟩ := h.goes hcalm hr
  obtain ⟨l, rt₂, b, hl, hb, hr₂⟩ := hf.goes hcalm hr₁
  exact ⟨l, rt₂, b, Nat.le_trans hl hm, hb, hr₂⟩

/-- Where a program is always one stride from its value, it comes to it. -/
theorem brings_of_going {p : Program W J β} {b : β} {rt₁ : Runtime W J}
    (hs : ∀ {α : Type} (k : β → Program W J α) (scopes : List (Task.Scope W J α)) (aborted : Bool),
      rt.stride ⟨t, p.bind k, scopes, aborted⟩ = (rt₁, .going ⟨t, k b, scopes, aborted⟩))
    (h : Q b rt₁) : p.Brings outside t rt Q := by
  constructor
  intro α k scopes aborted n rt' a _ hr
  obtain ⟨m, hm, hr₁⟩ := hr.of_going (hs k scopes aborted)
  exact ⟨m, rt₁, b, by omega, h, hr₁⟩

theorem brings_act {f : W → W × β} (h : Q (f rt.world).2 { rt with world := (f rt.world).1 }) :
    (act f : Program W J β).Brings outside t rt Q :=
  brings_of_going (fun _ _ _ => rfl) h

theorem brings_read {f : W → β} (h : Q (f rt.world) rt) :
    (read f : Program W J β).Brings outside t rt Q :=
  brings_act h

theorem brings_modify {f : W → W} {Q : Unit → Runtime W J → Prop}
    (h : Q () { rt with world := f rt.world }) :
    (modify f : Program W J Unit).Brings outside t rt Q :=
  brings_act h

theorem brings_start {job : J} {Q : TaskId → Runtime W J → Prop}
    (h : Q rt.nextId (rt.addTask (rt.perform job))) :
    (start job : Program W J TaskId).Brings outside t rt Q :=
  brings_of_going (fun _ _ _ => rfl) h

theorem brings_stop {task : TaskId} {Q : Unit → Runtime W J → Prop} (h : Q () (rt.abortTask task)) :
    (stop task : Program W J Unit).Brings outside t rt Q :=
  brings_of_going (fun _ _ _ => rfl) h

theorem Brings.holding {p : Program W J β} {release : W → W}
    (h : p.Brings outside t rt fun b rt₁ => Q b { rt₁ with world := release rt₁.world }) :
    (holding release p).Brings outside t rt Q := by
  constructor
  intro α k scopes aborted n rt' a hcalm hr
  have hs : rt.stride ⟨t, (Program.holding release p).bind k, scopes, aborted⟩ =
      (rt, .going ⟨t, p.bind fun b => letGo (k b), .held release :: scopes, aborted⟩) := by
    simp only [Program.holding, Program.bind, stride, bind_assoc]
  obtain ⟨m, hm, hr₁⟩ := hr.of_going hs
  obtain ⟨l, rt₁, b, hl, hQ, hr₂⟩ := h.goes (hcalm.held release) hr₁
  have hs₂ : rt₁.stride ⟨t, letGo (k b), .held release :: scopes, aborted⟩ =
      ({ rt₁ with world := release rt₁.world }, .going ⟨t, k b, scopes, aborted⟩) := rfl
  obtain ⟨i, hi, hr₃⟩ := hr₂.of_going hs₂
  exact ⟨i, _, b, by omega, hQ, hr₃⟩

/-- `P` holds before every part, of what is left. -/
theorem brings_each {f : γ → Program W J Unit} {P : List γ → Runtime W J → Prop}
    (hf : ∀ c cs rt, P (c :: cs) rt → (f c).Brings outside t rt fun _ => P cs) (cs : List γ)
    (h : P cs rt) : (each f cs).Brings outside t rt fun _ => P [] := by
  induction cs generalizing rt with
  | nil => exact brings_done h
  | cons c cs ih => exact ((hf c cs rt h).mono fun _ _ hrt => ih hrt).bind

end

/-- In every solo run of task `t`, what `p` makes of the world and its value are related so. -/
structure Does (outside : W → W → Prop) (t : TaskId) (p : Program W J β) (R : W → β → W → Prop) :
    Prop where
  goes {α : Type} {k : β → Program W J α} {scopes : List (Task.Scope W J α)} {aborted : Bool}
    {n : Nat} {rt rt' : Runtime W J} {a : α} : Calm scopes →
    Ran outside n rt ⟨t, p.bind k, scopes, aborted⟩ rt' a →
    ∃ m rt₁ b, m ≤ n ∧ R rt.world b rt₁.world ∧ Ran outside m rt₁ ⟨t, k b, scopes, aborted⟩ rt' a

variable {outside : W → W → Prop} {t : TaskId}

/-- What a program does is what it brings about from everywhere. -/
theorem does_iff {p : Program W J β} {R : W → β → W → Prop} :
    Does outside t p R ↔ ∀ rt, p.Brings outside t rt fun b rt' => R rt.world b rt'.world :=
  ⟨fun h _ => ⟨h.goes⟩, fun h => ⟨fun hcalm hr => (h _).goes hcalm hr⟩⟩

theorem Does.brings {p : Program W J β} {R : W → β → W → Prop} (h : Does outside t p R)
    (rt : Runtime W J) : p.Brings outside t rt fun b rt' => R rt.world b rt'.world :=
  does_iff.1 h rt

theorem Does.ran {p : Program W J β} {R : W → β → W → Prop} (hp : Does outside t p R) {n : Nat}
    {rt rt' : Runtime W J} {aborted : Bool} {b : β}
    (h : Ran outside n rt ⟨t, p, [], aborted⟩ rt' b) : R rt.world b rt'.world :=
  (hp.brings rt).ran h

theorem Does.mono {p : Program W J β} {R S : W → β → W → Prop} (hp : Does outside t p R)
    (h : ∀ w b w', R w b w' → S w b w') : Does outside t p S :=
  does_iff.2 fun rt => (hp.brings rt).mono fun _ _ => h _ _ _

theorem does_done (b : β) :
    Does outside t (done b : Program W J β) fun w c w' => c = b ∧ w' = w :=
  does_iff.2 fun _ => brings_done ⟨rfl, rfl⟩

theorem Does.bind {p : Program W J β} {f : β → Program W J γ} {R : W → β → W → Prop}
    {S : β → W → γ → W → Prop} (hp : Does outside t p R) (hf : ∀ b, Does outside t (f b) (S b)) :
    Does outside t (p.bind f) fun w c w' => ∃ b u, R w b u ∧ S b u c w' := by
  refine does_iff.2 fun rt => Brings.bind ((hp.brings rt).mono fun b rt₁ hR => ?_)
  exact ((hf b).brings rt₁).mono fun _ _ hS => ⟨b, rt₁.world, hR, hS⟩

/-- A wait ends with an answer; until then the world changes by what is asked and from outside. -/
theorem does_await {poll : TaskId → W → W × Option β} {cancel : TaskId → W → W}
    {R : W → β → W → Prop} (hend : ∀ w b w', poll t w = (w', some b) → R w b w')
    (hwait : ∀ w u v b w', poll t w = (u, none) → outside u v → R v b w' → R w b w') :
    Does outside t (await poll cancel done : Program W J β) R := by
  constructor
  intro α k scopes aborted n rt rt' a hcalm hr
  induction n generalizing rt with
  | zero =>
      cases hr with
      | ended h =>
          simp only [Program.bind, stride] at h
          rcases hp : poll t rt.world with ⟨w, _ | b⟩
          · simp [hp, hcalm (HasAgenda.now w)] at h
          · simp [hp] at h
  | succ n ih =>
      rcases hp : poll t rt.world with ⟨u, _ | b⟩
      · have hs : rt.stride ⟨t, (await poll cancel done).bind k, scopes, aborted⟩ =
            ({ rt with world := u }, .waits) := by
          simp [Program.bind, stride, hp, hcalm (HasAgenda.now u)]
        cases hr with
        | went h _ => simp [hs] at h
        | waited h o r =>
            rw [hs] at h
            simp only [Prod.mk.injEq, and_true] at h
            subst h
            obtain ⟨m, rt₁, b, hm, hR, hr₁⟩ := ih r
            exact ⟨m, rt₁, b, by omega, hwait _ _ _ _ _ hp o hR, hr₁⟩
      · have hs : rt.stride ⟨t, (await poll cancel done).bind k, scopes, aborted⟩ =
            ({ rt with world := u }, .going ⟨t, k b, scopes, aborted⟩) := by
          simp [Program.bind, stride, hp]
        obtain ⟨m, hm, hr₁⟩ := hr.of_going hs
        exact ⟨m, _, b, by omega, hend _ _ _ hp, hr₁⟩

theorem does_act (f : W → W × β) :
    Does outside t (act f : Program W J β) fun w b w' => b = (f w).2 ∧ w' = (f w).1 :=
  does_iff.2 fun _ => brings_act ⟨rfl, rfl⟩

theorem does_read (f : W → β) :
    Does outside t (read f : Program W J β) fun w b w' => b = f w ∧ w' = w :=
  does_act _

theorem does_modify (f : W → W) :
    Does outside t (modify f : Program W J Unit) fun w _ w' => w' = f w :=
  (does_act _).mono fun _ _ _ h => h.2

/-- A new task does not run in a solo run. -/
theorem does_start (job : J) :
    Does outside t (start job : Program W J TaskId) fun w u w' => w' = HasAgenda.wake u w :=
  does_iff.2 fun _ => brings_start rfl

theorem does_stop (task : TaskId) :
    Does outside t (stop task : Program W J Unit) fun w _ w' =>
      w' = w ∨ w' = HasAgenda.wake task w := by
  refine does_iff.2 fun rt => brings_stop ?_
  unfold Runtime.abortTask
  split
  · exact .inr rfl
  · exact .inl rfl

theorem Does.holding {p : Program W J β} {R : W → β → W → Prop} (hp : Does outside t p R)
    (release : W → W) :
    Does outside t (holding release p) fun w b w' => ∃ u, R w b u ∧ w' = release u :=
  does_iff.2 fun rt => Brings.holding ((hp.brings rt).mono fun _ rt₁ hR => ⟨rt₁.world, hR, rfl⟩)

/-- What every round does, all rounds do, given that `R` takes in a round before it. -/
theorem does_iterate {σ : Type} {body : σ → Program W J (σ ⊕ β)}
    {Q : σ → W → σ ⊕ β → W → Prop} {R : σ → W → β → W → Prop}
    (hbody : ∀ s, Does outside t (body s) (Q s))
    (hend : ∀ s w b w', Q s w (.inr b) w' → R s w b w')
    (hgo : ∀ s s' w u b w', Q s w (.inl s') u → R s' u b w' → R s w b w') (s : σ) :
    Does outside t (iterate s body) (R s) := by
  constructor
  intro α k scopes aborted n rt rt' a hcalm hr
  induction n using Nat.strongRecOn generalizing s rt with
  | ind n ih =>
    have hs : rt.stride ⟨t, (iterate s body).bind k, scopes, aborted⟩ =
        (rt, .going ⟨t, (body s).bind (Sum.elim (fun s' => (iterate s' body).bind k) k), scopes,
          aborted⟩) := by
      refine congrArg (fun f => (rt, Stride.going ⟨t, (body s).bind f, scopes, aborted⟩))
        (funext fun r => ?_)
      cases r <;> rfl
    obtain ⟨m, hm, hr₁⟩ := hr.of_going hs
    obtain ⟨l, rt₁, r, hl, hQ, hr₂⟩ := (hbody s).goes hcalm hr₁
    cases r with
    | inl s' =>
        obtain ⟨i, rt₂, b, hi, hR, hr₃⟩ := ih l (by omega) s' hr₂
        exact ⟨i, rt₂, b, by omega, hgo _ _ _ _ _ _ hQ hR, hr₃⟩
    | inr b => exact ⟨l, rt₁, b, by omega, hend _ _ _ _ hQ, hr₂⟩

end Program

/-- Nobody outside touches the lock at this place, and writing it there keeps it or does nothing. -/
structure Lock.Place.Steady {W : Type} (place : Lock.Place W) (outside : W → W → Prop) : Prop where
  read_outside {w w' : W} : outside w w' → place.read w' = place.read w
  read_write (lock : Lock) (w : W) :
    place.read (place.write lock w) = lock ∨ place.read (place.write lock w) = place.read w

namespace Lock

theorem acquire_eq_none_iff (l : Lock) (t : TaskId) :
    (l.acquire t).2 = none ↔ l.owner ≠ .nobody ∧ l.owner ≠ .promised t := by
  rw [← not_or, ← acquire_eq_some_iff]
  cases (l.acquire t).2 <;> simp

theorem owner_acquire_of_eq_none {l : Lock} {t : TaskId} (h : (l.acquire t).2 = none) :
    (l.acquire t).1.owner = l.owner := by
  obtain ⟨hn, hp⟩ := (acquire_eq_none_iff l t).1 h
  unfold acquire
  cases ho : l.owner with
  | nobody => exact absurd ho hn
  | promised u =>
      have hu : u ≠ t := by
        rintro rfl
        exact hp ho
      simp only [hu, if_false]
      split <;> simp [ho]
  | taken =>
      dsimp only
      split <;> simp [ho]

end Lock

namespace Program

variable {W J : Type} [HasAgenda W] {α : Type} {outside : W → W → Prop} {t : TaskId}

/-- By itself a task that has to wait for a lock waits for ever. -/
theorem Does.locked {place : Lock.Place W} (hplace : place.Steady outside) {p : Program W J α}
    {R : W → α → W → Prop} (hp : Does outside t p R) :
    Does outside t (locked place p) fun w a w' =>
      ∃ u v, place.acquire t w = (u, some ()) ∧ R u a v ∧ w' = place.release v := by
  have hacquire : Does outside t (await place.acquire place.giveUp done : Program W J Unit)
      fun w _ w' => place.acquire t w = (w', some ()) := by
    refine does_await (fun w _ w' h => h) ?_
    intro w u v _ w' hnone ho hsome
    simp only [Lock.Place.acquire, Prod.mk.injEq] at hnone hsome
    obtain ⟨rfl, hnone⟩ := hnone
    exfalso
    have hstill : (place.read v).owner = (place.read w).owner := by
      rw [hplace.read_outside ho]
      rcases hplace.read_write ((place.read w).acquire t).1 w with h | h
      · rw [h, Lock.owner_acquire_of_eq_none hnone]
      · rw [h]
    rw [Lock.acquire_eq_none_iff, ← hstill, ← Lock.acquire_eq_none_iff, hsome.2] at hnone
    exact absurd hnone (by simp)
  refine (hacquire.bind fun _ => hp.holding place.release).mono ?_
  rintro w a w' ⟨_, u, hu, v, hR, rfl⟩
  exact ⟨u, v, hu, hR, rfl⟩

end Program

/-! ## Values -/

namespace Program

variable {W J : Type} {α β : Type}

/-- Wherever the program comes to its end, its value is so. -/
def Gives {α : Type} (Q : α → Prop) : Program W J α → Prop
  | done a => Q a
  | await _ _ next => ∀ b, (next b).Gives Q
  | hold _ next | letGo next | leave next | abort _ next => next.Gives Q
  | within _ next => ∀ late, (next late).Gives Q
  | spawn _ next => ∀ t, (next t).Gives Q
  | loop _ _ next => ∀ b, (next b).Gives Q

theorem gives_any (p : Program W J α) : p.Gives fun _ => True := by
  induction p with
  | done b => trivial
  | hold _ _ ih | letGo _ ih | leave _ ih | abort _ _ ih => exact ih
  | await _ _ _ ih | within _ _ ih | spawn _ _ ih | loop _ _ _ _ ih => exact ih

theorem Gives.bind {Q : α → Prop} {R : β → Prop} {p : Program W J β} {k : β → Program W J α}
    (hp : p.Gives R) (h : ∀ b, R b → (k b).Gives Q) : (p.bind k).Gives Q := by
  induction p with
  | done b => exact h b hp
  | hold _ _ ih | letGo _ ih | leave _ ih | abort _ _ ih => exact ih hp h
  | await _ _ _ ih | within _ _ ih | spawn _ _ ih => exact fun b => ih b (hp b) h
  | loop _ _ _ _ ih => exact fun b => ih b (hp b) h

end Program

/-- So is the value of what comes after a deadline. -/
def Task.Scope.Gives {W J α : Type} (Q : α → Prop) : Task.Scope W J α → Prop
  | .held _ => True
  | .deadline _ late => late.Gives Q

structure Task.Gives {W J α : Type} (Q : α → Prop) (task : Task W J α) : Prop where
  program : task.program.Gives Q
  scopes : ∀ scope ∈ task.scopes, scope.Gives Q

namespace Runtime

variable {W J : Type} {α : Type}

/-- What comes after a deadline that has passed, and what stands around it. -/
theorem of_expired {now : Nat} {scopes inner rest : List (Task.Scope W J α)}
    {late : Program W J α} (h : expired? now scopes = some (inner, late, rest)) :
    (∃ time, .deadline time late ∈ scopes) ∧ ∀ scope ∈ rest, scope ∈ scopes := by
  induction scopes generalizing inner with
  | nil => cases h
  | cons scope scopes ih =>
      have hpassed (h : (expired? now scopes).map (fun r => (scope :: r.1, r.2.1, r.2.2)) =
          some (inner, late, rest)) : (∃ time, .deadline time late ∈ scope :: scopes) ∧
            ∀ x ∈ rest, x ∈ scope :: scopes := by
        obtain ⟨⟨inner', late', rest'⟩, hbehind, heq⟩ := Option.map_eq_some_iff.1 h
        cases heq
        obtain ⟨⟨time, hlate⟩, hrest⟩ := ih hbehind
        exact ⟨⟨time, List.mem_cons_of_mem _ hlate⟩,
          fun x hx => List.mem_cons_of_mem _ (hrest x hx)⟩
      cases scope with
      | held release => exact hpassed h
      | deadline time late' =>
          by_cases htime : time ≤ now
          · simp only [expired?, if_pos htime, Option.some.injEq, Prod.mk.injEq] at h
            obtain ⟨rfl, rfl, rfl⟩ := h
            exact ⟨⟨time, List.mem_cons_self⟩, fun x hx => List.mem_cons_of_mem _ hx⟩
          · simp only [expired?, if_neg htime] at h
            exact hpassed h

variable [HasAgenda W] {Q : α → Prop} {rt rt' : Runtime W J}

theorem gives_stride {task next : Task W J α} (h : task.Gives Q)
    (hs : rt.stride task = (rt', .going next)) : next.Gives Q := by
  obtain ⟨t, p, scopes, aborted⟩ := task
  obtain ⟨hp, hscopes⟩ := h
  obtain ⟨moments, -, hstrode⟩ := strode hs
  dsimp only at hp hscopes hstrode
  cases hstrode with
  | answered _ => exact ⟨hp _, hscopes⟩
  | gaveUp _ he =>
      obtain ⟨⟨time, hlate⟩, hrest⟩ := of_expired he
      exact ⟨hscopes _ hlate, fun x hx => hscopes x (hrest x hx)⟩
  | hold release cont => exact ⟨hp, List.forall_mem_cons.2 ⟨trivial, hscopes⟩⟩
  | released | left => exact ⟨hp, (List.forall_mem_cons.1 hscopes).2⟩
  | unheld | unbound | abort => exact ⟨hp, hscopes⟩
  | within millis cont => exact ⟨hp false, List.forall_mem_cons.2 ⟨hp true, hscopes⟩⟩
  | spawn job cont => exact ⟨hp _, hscopes⟩
  | loop state body cont =>
      refine ⟨(Program.gives_any _).bind fun r _ => ?_, hscopes⟩
      cases r with
      | inl state => exact hp
      | inr b => exact hp b

theorem Ran.gives {outside : W → W → Prop} {n : Nat} {task : Task W J α} {a : α}
    (h : Ran outside n rt task rt' a) (htask : task.Gives Q) : Q a := by
  induction h with
  | ended hs =>
      obtain ⟨moments, -, hstrode⟩ := strode hs
      have hp := htask.program
      rwa [hstrode.of_ended.1] at hp
  | went hs _ ih => exact ih (gives_stride htask hs)
  | waited _ _ _ ih => exact ih htask

end Runtime

end LanguageClient
