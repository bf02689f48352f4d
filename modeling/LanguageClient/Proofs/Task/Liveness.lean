import LanguageClient.Proofs.Task.View
namespace LanguageClient

/-!
# Lively tasks

A task is lively if its solo runs never get stuck: however far one has come, it can come to its end,
provided that the world outside does its part.
-/

variable {W J G : Type} [HasAgenda W] {α β γ : Type}

namespace Runtime

/-- A solo run comes from one runtime and task to another. -/
inductive Comes (outside : W → W → Prop) :
    Runtime W J → Task W J α → Runtime W J → Task W J α → Prop where
  | here (rt : Runtime W J) (task : Task W J α) : Comes outside rt task rt task
  | went {rt rt₁ rt' : Runtime W J} {task next task' : Task W J α}
      (h : rt.stride task = (rt₁, .going next)) (c : Comes outside rt₁ next rt' task') :
      Comes outside rt task rt' task'
  | waited {rt rt₁ rt' : Runtime W J} {task task' : Task W J α} {w : W}
      (h : rt.stride task = (rt₁, .waits)) (o : outside rt₁.world w)
      (c : Comes outside { rt₁ with world := w } task rt' task') : Comes outside rt task rt' task'

/-- However far a solo run of the task has come, it can come to its end. -/
def Lively (outside : W → W → Prop) (rt : Runtime W J) (task : Task W J α) : Prop :=
  ∀ rt' task', Comes outside rt task rt' task' → ∃ n rt'' a, Ran outside n rt' task' rt'' a

variable {outside : W → W → Prop} {rt rt₁ : Runtime W J} {task next : Task W J α}

theorem Lively.ends (h : rt.Lively outside task) : ∃ n rt' a, Ran outside n rt task rt' a :=
  h rt task (.here rt task)

theorem lively_done {t : TaskId} {a : α} {scopes : List (Task.Scope W J α)} {aborted : Bool} :
    rt.Lively outside ⟨t, .done a, scopes, aborted⟩ := by
  intro rt' task' hcomes
  cases hcomes with
  | here => exact ⟨0, rt, a, .ended rfl⟩
  | went h _ | waited h _ _ => simp [stride] at h

/-- Where the next stride is certain, it is enough to be lively after it. -/
theorem Lively.of_going (h : rt₁.Lively outside next) (hs : rt.stride task = (rt₁, .going next)) :
    rt.Lively outside task := by
  intro rt' task' hcomes
  cases hcomes with
  | here =>
      obtain ⟨n, rt', a, hr⟩ := h.ends
      exact ⟨n + 1, rt', a, .went hs hr⟩
  | went hs' hcomes =>
      rw [hs] at hs'
      obtain ⟨rfl, hnext⟩ := Prod.mk.inj hs'
      obtain rfl := Stride.going.inj hnext
      exact h _ _ hcomes
  | waited hs' _ _ => simp [hs] at hs'

/-- Whatever comes once a deadline around the task has passed is lively. -/
structure LateLively (view : View W G) (t : TaskId) (I : G → Prop)
    (scopes : List (Task.Scope W J α)) (aborted : Bool) : Prop where
  late {now : Nat} {inner rest : List (Task.Scope W J α)} {late : Program W J α} {w : W}
    (rt : Runtime W J) : expired? now scopes = some (inner, late, rest) → I (view.see w) →
    Runtime.Lively view.Same { rt with world := unwind t inner w } ⟨t, late, rest, aborted⟩

variable {view : View W G} {t : TaskId} {I I' : G → Prop} {scopes : List (Task.Scope W J α)}
  {aborted : Bool}

theorem lateLively_nil : LateLively (J := J) (α := α) view t I [] aborted := ⟨nofun⟩

theorem LateLively.mono (h : LateLively view t I scopes aborted) (hI : ∀ g, I' g → I g) :
    LateLively view t I' scopes aborted := ⟨fun rt he hw => h.late rt he (hI _ hw)⟩

theorem LateLively.held {release : W → W} (h : LateLively view t I scopes aborted)
    (hI : ∀ w, I' (view.see w) → I (view.see (release w))) :
    LateLively view t I' (.held release :: scopes) aborted := by
  constructor
  intro now inner rest late w rt he hw
  simp only [expired?, Option.map_eq_some_iff, Prod.mk.injEq] at he
  obtain ⟨⟨inner, late, rest⟩, he, rfl, rfl, rfl⟩ := he
  exact h.late (w := release w) rt he (hI w hw)

theorem LateLively.deadline {time : Nat} {late : Program W J α}
    (h : LateLively view t I scopes aborted)
    (hlate : ∀ rt : Runtime W J, I (view.see rt.world) →
      rt.Lively view.Same ⟨t, late, scopes, aborted⟩) :
    LateLively view t I (.deadline time late :: scopes) aborted := by
  constructor
  intro now inner rest late' w rt he hw
  have hdrop : view.see (HasAgenda.modify (·.dropAlarm time t) w) = view.see w :=
    view.see_modify _ w
  simp only [expired?] at he
  split at he
  · simp only [Option.some.injEq, Prod.mk.injEq] at he
    obtain ⟨rfl, rfl, rfl⟩ := he
    exact hlate _ (hdrop.symm ▸ hw)
  · simp only [Option.map_eq_some_iff, Prod.mk.injEq] at he
    obtain ⟨⟨inner, late', rest⟩, he, rfl, rfl, rfl⟩ := he
    exact h.late (w := HasAgenda.modify (·.dropAlarm time t) w) rt he (hdrop.symm ▸ hw)

end Runtime

open LanguageClient.Runtime (Comes LateLively Ran Stride stride unwind lateLively_nil lively_done)

namespace Program

/-- From a world that is seen as `g`, a task that is lively wherever the program comes to a value
that satisfies `Q` is lively before it, if it is lively too where a deadline has it given up. -/
structure Lively (view : View W G) (t : TaskId) (p : Program W J β) (g : G) (Q : β → G → Prop)
    (I : G → Prop) : Prop where
  goes {α : Type} {k : β → Program W J α} {scopes : List (Task.Scope W J α)} {aborted : Bool}
    {rt : Runtime W J} : view.see rt.world = g →
    (∀ (b : β) (rt₁ : Runtime W J), Q b (view.see rt₁.world) →
      rt₁.Lively view.Same ⟨t, k b, scopes, aborted⟩) →
    LateLively view t I scopes aborted → rt.Lively view.Same ⟨t, p.bind k, scopes, aborted⟩

variable {view : View W G} {t : TaskId} {g : G} {Q : β → G → Prop} {I : G → Prop}

theorem Lively.task {p : Program W J β} {rt : Runtime W J} {aborted : Bool}
    (h : p.Lively view t (view.see rt.world) Q I) : rt.Lively view.Same ⟨t, p, [], aborted⟩ := by
  have hp : rt.Lively view.Same ⟨t, p.bind .done, [], aborted⟩ :=
    h.goes rfl (fun _ _ _ => lively_done) lateLively_nil
  rwa [bind_done] at hp

theorem Lively.mono {p : Program W J β} {Q' : β → G → Prop} {I' : G → Prop}
    (h : p.Lively view t g Q I) (hQ : ∀ b g', Q b g' → Q' b g') (hI : ∀ g', I g' → I' g') :
    p.Lively view t g Q' I' := by
  constructor
  intro α k scopes aborted rt hg hnext hlate
  exact h.goes hg (fun b rt₁ hb => hnext b rt₁ (hQ _ _ hb)) (hlate.mono hI)

theorem lively_done {b : β} (h : Q b g) : (done b : Program W J β).Lively view t g Q I := by
  constructor
  rintro α k scopes aborted rt rfl hnext _
  exact hnext b rt h

theorem Lively.bind {p : Program W J γ} {f : γ → Program W J β}
    (h : p.Lively view t g (fun c g' => (f c).Lively view t g' Q I) I) :
    (p.bind f).Lively view t g Q I := by
  constructor
  intro α k scopes aborted rt hg hnext hlate
  rw [bind_assoc]
  exact h.goes hg (fun c rt₁ hf => hf.goes rfl hnext hlate) hlate

/-- A wait is lively if something that is not seen can happen outside to end it. -/
theorem lively_await {poll : TaskId → W → W × Option β} {cancel : TaskId → W → W}
    (hanswer : ∀ w u b, view.see w = g → poll t w = (u, some b) → Q b (view.see u))
    (hwait : ∀ w u, view.see w = g → poll t w = (u, none) →
      view.see u = g ∧ I (view.see (cancel t u)) ∧ ∃ v, view.Same u v ∧ (poll t v).2.isSome) :
    (await poll cancel done : Program W J β).Lively view t g Q I := by
  constructor
  intro α k scopes aborted rt hg hnext hlate
  have hanswered {rt : Runtime W J} {u : W} {b : β} (hg : view.see rt.world = g)
      (hp : poll t rt.world = (u, some b)) :
      rt.stride ⟨t, await poll cancel k, scopes, aborted⟩ =
          ({ rt with world := u }, .going ⟨t, k b, scopes, aborted⟩) ∧
        Runtime.Lively view.Same { rt with world := u } ⟨t, k b, scopes, aborted⟩ :=
    ⟨by simp [stride, hp], hnext b _ (hanswer _ _ _ hg hp)⟩
  change rt.Lively view.Same ⟨t, await poll cancel k, scopes, aborted⟩
  intro rt' task' hcomes
  generalize htask : (⟨t, await poll cancel k, scopes, aborted⟩ : Task W J α) = task at hcomes
  -- As long as the task waits, the world is seen as it was in the beginning.
  induction hcomes with
  | here rt task =>
      subst htask
      rcases hp : poll t rt.world with ⟨u, _ | b⟩
      · obtain ⟨hu, hI, v, hsame, hsome⟩ := hwait _ _ hg hp
        obtain ⟨b, hb⟩ := Option.isSome_iff_exists.1 hsome
        have hv : poll t v = ((poll t v).1, some b) := Prod.ext rfl hb
        cases he : Runtime.expired? (HasAgenda.now u) scopes with
        | none =>
            have hs : rt.stride ⟨t, await poll cancel k, scopes, aborted⟩ =
                ({ rt with world := u }, .waits) := by
              simp [stride, hp, he]
            have hg : view.see ({ rt with world := v } : Runtime W J).world = g :=
              Eq.trans hsame hu
            obtain ⟨hs', hlively⟩ := hanswered hg hv
            obtain ⟨n, rt', a, hr⟩ := hlively.ends
            exact ⟨n + 1 + 1, rt', a, .waited hs hsame (.went hs' hr)⟩
        | some r =>
            obtain ⟨inner, late, rest⟩ := r
            have hs : rt.stride ⟨t, await poll cancel k, scopes, aborted⟩ =
                ({ rt with world := unwind t inner (cancel t u) },
                  .going ⟨t, late, rest, aborted⟩) := by
              simp [stride, hp, he]
            obtain ⟨n, rt', a, hr⟩ := (hlate.late rt he hI).ends
            exact ⟨n + 1, rt', a, .went hs hr⟩
      · obtain ⟨hs, hlively⟩ := hanswered hg hp
        obtain ⟨n, rt', a, hr⟩ := hlively.ends
        exact ⟨n + 1, rt', a, .went hs hr⟩
  | @went rt rt₁ rt' task next task' hs hcomes _ =>
      subst htask
      rcases hp : poll t rt.world with ⟨u, _ | b⟩
      · obtain ⟨hu, hI, -⟩ := hwait _ _ hg hp
        cases he : Runtime.expired? (HasAgenda.now u) scopes with
        | none => simp [stride, hp, he] at hs
        | some r =>
            obtain ⟨inner, late, rest⟩ := r
            simp only [stride, hp, he, Prod.mk.injEq, Stride.going.injEq] at hs
            obtain ⟨rfl, rfl⟩ := hs
            exact hlate.late rt he hI _ _ hcomes
      · obtain ⟨hs', hlively⟩ := hanswered hg hp
        rw [hs'] at hs
        simp only [Prod.mk.injEq, Stride.going.injEq] at hs
        obtain ⟨rfl, rfl⟩ := hs
        exact hlively _ _ hcomes
  | @waited rt rt₁ rt' task task' w hs o _ ih =>
      subst htask
      refine ih ?_ rfl
      rcases hp : poll t rt.world with ⟨u, _ | b⟩
      · have hu := (hwait _ _ hg hp).1
        cases he : Runtime.expired? (HasAgenda.now u) scopes with
        | none =>
            simp only [stride, hp, he, Prod.mk.injEq, and_true] at hs
            subst hs
            exact Eq.trans o hu
        | some r => simp [stride, hp, he] at hs
      · simp [(hanswered hg hp).1] at hs

theorem lively_act {f : W → W × β} (h : ∀ w, view.see w = g → Q (f w).2 (view.see (f w).1)) :
    (act f : Program W J β).Lively view t g Q I := by
  refine lively_await (fun w u b hw hp => ?_) fun w u _ hp => ?_
  · simp only [Prod.mk.injEq, Option.some.injEq] at hp
    obtain ⟨rfl, rfl⟩ := hp
    exact h w hw
  · simp at hp

theorem lively_start {job : J} {Q : TaskId → G → Prop} (h : ∀ u, Q u g) :
    (start job : Program W J TaskId).Lively view t g Q I := by
  constructor
  rintro α k scopes aborted rt hg hnext _
  have hsee : view.see (rt.addTask (rt.perform job)).world = g := (view.see_wake _ _).trans hg
  exact (hnext rt.nextId _ (hsee ▸ h _)).of_going rfl

theorem lively_stop {task : TaskId} {Q : Unit → G → Prop} (h : Q () g) :
    (stop task : Program W J Unit).Lively view t g Q I := by
  constructor
  rintro α k scopes aborted rt hg hnext _
  have hsee : view.see (rt.abortTask task).world = g := by
    unfold Runtime.abortTask
    split
    · exact (view.see_wake _ _).trans hg
    · exact hg
  exact (hnext () _ (hsee ▸ h)).of_going rfl

theorem Lively.holding {p : Program W J β} {release : W → W}
    (h : p.Lively view t g (fun b g' => ∀ w, view.see w = g' → Q b (view.see (release w)))
      fun g' => ∀ w, view.see w = g' → I (view.see (release w))) :
    (holding release p).Lively view t g Q I := by
  constructor
  intro α k scopes aborted rt hg hnext hlate
  have hs : rt.stride ⟨t, (Program.holding release p).bind k, scopes, aborted⟩ =
      (rt, .going ⟨t, p.bind fun b => letGo (k b), .held release :: scopes, aborted⟩) := by
    simp only [Program.holding, Program.bind, stride, bind_assoc]
  refine (h.goes hg (fun b rt₁ hb => ?_) (hlate.held fun w hw => hw w rfl)).of_going hs
  have hs₁ : rt₁.stride ⟨t, letGo (k b), .held release :: scopes, aborted⟩ =
      ({ rt₁ with world := release rt₁.world }, .going ⟨t, k b, scopes, aborted⟩) := rfl
  exact (hnext b _ (hb rt₁.world rfl)).of_going hs₁

theorem Lively.timeout {p : Program W J γ} {Q : Option γ → G → Prop} (millis : Nat)
    (h : p.Lively view t g (fun c => Q (some c)) fun g' => Q none g' ∧ I g') :
    (timeout millis p).Lively view t g Q I := by
  constructor
  intro α k scopes aborted rt hg hnext hlate
  let time := HasAgenda.now rt.world + millis
  let late : Program W J α := k none
  have hs : rt.stride ⟨t, (Program.timeout millis p).bind k, scopes, aborted⟩ =
      ({ rt with world := HasAgenda.modify (·.setAlarm time t) rt.world },
        .going ⟨t, p.bind fun c => leave (k (some c)), .deadline time late :: scopes, aborted⟩) := by
    simp only [Program.timeout, Program.bind, stride, if_true, Bool.false_eq_true, if_false,
      bind_assoc]
    rfl
  have hset : view.see (HasAgenda.modify (·.setAlarm time t) rt.world) = g :=
    (view.see_modify _ _).trans hg
  refine (h.goes hset (fun c rt₁ hc => ?_) ?_).of_going hs
  · have hs₁ : rt₁.stride ⟨t, leave (k (some c)), .deadline time late :: scopes, aborted⟩ =
        ({ rt₁ with world := HasAgenda.modify (·.dropAlarm time t) rt₁.world },
          .going ⟨t, k (some c), scopes, aborted⟩) := rfl
    have hdrop : view.see (HasAgenda.modify (·.dropAlarm time t) rt₁.world) =
        view.see rt₁.world := view.see_modify _ _
    exact (hnext (some c) _ (hdrop.symm ▸ hc)).of_going hs₁
  · exact (hlate.mono fun _ hg' => hg'.2).deadline fun rt₁ hg' => hnext none rt₁ hg'.1

/-- `P` holds before every round, and `size` becomes less with every round. -/
theorem lively_iterate {σ : Type} {body : σ → Program W J (σ ⊕ β)} {P : σ → G → Prop}
    (size : σ → Nat)
    (hbody : ∀ s g, P s g → (body s).Lively view t g (fun r g' => match r with
      | .inl s' => P s' g' ∧ size s' < size s
      | .inr b => Q b g') I) {s : σ} (h : P s g) :
    (iterate s body).Lively view t g Q I := by
  constructor
  intro α k scopes aborted rt hg hnext hlate
  induction hn : size s using Nat.strongRecOn generalizing s g rt with
  | ind n ih =>
    have hs : rt.stride ⟨t, (iterate s body).bind k, scopes, aborted⟩ =
        (rt, .going ⟨t, (body s).bind (Sum.elim (fun s' => (iterate s' body).bind k) k), scopes,
          aborted⟩) := by
      refine congrArg (fun f => (rt, Stride.going ⟨t, (body s).bind f, scopes, aborted⟩))
        (funext fun r => ?_)
      cases r <;> rfl
    refine ((hbody s g h).goes hg (fun r rt₁ hr => ?_) hlate).of_going hs
    cases r with
    | inl s' => exact ih _ (hn ▸ hr.2) hr.1 rfl rfl
    | inr b => exact hnext b rt₁ hr

/-! ## Programs that can always end -/

/-- From every world of which `P` holds the program can come to its end, and `P` holds again. -/
def Vital (view : View W G) (t : TaskId) (P : G → Prop) (p : Program W J β) : Prop :=
  ∀ g, P g → p.Lively view t g (fun _ => P) P

variable {P : G → Prop}

theorem Vital.lively {p : Program W J β} {rt : Runtime W J} {aborted : Bool}
    (h : p.Vital view t P) (hrt : P (view.see rt.world)) :
    rt.Lively view.Same ⟨t, p, [], aborted⟩ :=
  (h _ hrt).task

theorem vital_done (b : β) : (done b : Program W J β).Vital view t P :=
  fun _ hg => lively_done (Q := fun _ => P) hg

theorem Vital.bind {p : Program W J γ} {f : γ → Program W J β} (h : p.Vital view t P)
    (hf : ∀ c, (f c).Vital view t P) : (p.bind f).Vital view t P :=
  fun g hg => Lively.bind ((h g hg).mono (fun c g' => hf c g') fun _ => id)

/-- What is asked is not seen, and something else that is not seen can end the wait. -/
theorem vital_await {poll : TaskId → W → W × Option β} {cancel : TaskId → W → W}
    (hpoll : ∀ w, view.see (poll t w).1 = view.see w)
    (hcancel : ∀ w, view.see (cancel t w) = view.see w)
    (hwait : ∀ w, ∃ v, view.Same w v ∧ (poll t v).2.isSome) :
    (await poll cancel done : Program W J β).Vital view t P := by
  intro g hP
  refine lively_await (fun w u b hw hp => ?_) fun w u hw hp => ?_
  all_goals have hu : view.see u = g := by rw [← hw, ← hpoll w, hp]
  · rwa [hu]
  · refine ⟨hu, ?_, hwait u⟩
    rwa [hcancel, hu]

theorem vital_act {f : W → W × β} (h : ∀ w, P (view.see w) → P (view.see (f w).1)) :
    (act f : Program W J β).Vital view t P := by
  rintro g hg
  refine lively_act fun w hw => h w ?_
  rwa [hw]

theorem vital_read (f : W → β) : (read f : Program W J β).Vital view t P := vital_act fun _ => id

theorem vital_modify {f : W → W} (h : ∀ w, P (view.see w) → P (view.see (f w))) :
    (modify f : Program W J Unit).Vital view t P :=
  vital_act h

theorem vital_start (job : J) : (start job : Program W J TaskId).Vital view t P :=
  fun _ hg => lively_start fun _ => hg

theorem vital_stop (task : TaskId) : (stop task : Program W J Unit).Vital view t P :=
  fun _ hg => lively_stop hg

theorem Vital.holding {p : Program W J β} {release : W → W} (h : p.Vital view t P)
    (hrelease : ∀ w, P (view.see w) → P (view.see (release w))) :
    (holding release p).Vital view t P := by
  intro g hg
  have hreleased {g' : G} (hg' : P g') (w : W) (hw : view.see w = g') : P (view.see (release w)) :=
    hrelease w (hw.symm ▸ hg')
  exact ((h g hg).mono (fun _ _ => hreleased) fun _ => hreleased).holding

theorem Vital.timeout {p : Program W J β} (millis : Nat) (h : p.Vital view t P) :
    (timeout millis p).Vital view t P :=
  fun g hg => ((h g hg).mono (fun _ _ => id) fun _ hg' => ⟨hg', hg'⟩).timeout millis

theorem vital_each {f : γ → Program W J Unit} (h : ∀ c, (f c).Vital view t P) (cs : List γ) :
    (each f cs).Vital view t P := by
  induction cs with
  | nil => exact vital_done ()
  | cons c cs ih => exact (h c).bind fun _ => ih

/-- Under a lock that is not seen: others give it back. -/
theorem Vital.locked {place : Lock.Place W} {p : Program W J β} (h : p.Vital view t P)
    (hwrite : ∀ lock w, view.see (place.write lock w) = view.see w)
    (hfree : ∀ w, place.read (place.write Lock.free w) = Lock.free) :
    (locked place p).Vital view t P := by
  have hacquire : (await place.acquire place.giveUp done : Program W J Unit).Vital view t P := by
    refine vital_await (fun w => hwrite _ w) (fun w => ?_) fun w => ?_
    · exact (view.see_wakeAll _ _).trans (hwrite _ w)
    · refine ⟨place.write Lock.free w, hwrite _ w, ?_⟩
      simp [Lock.Place.acquire, hfree, Lock.acquire_free]
  refine hacquire.bind fun _ => h.holding fun w hw => ?_
  have hrelease : view.see (place.release w) = view.see w :=
    (view.see_wakeAll _ _).trans (hwrite _ w)
  rwa [hrelease]

end Program

end LanguageClient
