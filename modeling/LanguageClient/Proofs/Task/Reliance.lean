import LanguageClient.Proofs.Task.Regime
import LanguageClient.Proofs.Task.Safety
namespace LanguageClient

/-!
# Reliance

When all tasks of a hall keep a regime, and what can begin keeps it, every walk leads to scenes that
the tasks could rely on.
-/

namespace Regime

variable {W J L : Type} [HasAgenda W] {R : Regime W J L} {α : Type} {n : Nat} {t : TaskId}
  {o s : Scene W J L}

variable (R) in
structure Fair : Prop where
  refl (s : Scene W J L) : R.guar s s
  rely {s s' : Scene W J L} : R.guar s s' → R.rely s s'
  trans {s s' s'' : Scene W J L} : R.rely s s' → R.rely s' s'' → R.rely s s''

variable (R) in
/-- A task that may be aborted keeps the regime when it is dropped. -/
def Spares (t : TaskId) (o s : Scene W J L) : Prop :=
  R.Droppable (o.roles t) → ∃ ℓ, R.guar o (s.become t ℓ)

variable (R) in
/-- Between its turns a task can go on, or be dropped, in every scene that it relies on. -/
structure Ready (n : Nat) (o : Scene W J L) (ℓ : L) (task : Task W J α) : Prop where
  droppable : task.aborted = true → R.Droppable ℓ
  goes {s : Scene W J L} : R.rely o s → s.roles task.id = ℓ →
    R.Follows task.id (R.Spares task.id) (fun _ => R.guar) n s s task.program task.scopes
  dropped {s : Scene W J L} : R.rely o s → s.roles task.id = ℓ →
    Unwinds task.id (R.Spares task.id) (fun _ _ _ _ => True) s task.scopes
      (s.gaveUp task.id task.program (task.program.cancelled task.id s.world))

theorem Ready.later {o' : Scene W J L} {ℓ : L} {task : Task W J α} (h : R.Ready n o ℓ task)
    (hR : R.Fair) (ho : R.rely o o') : R.Ready n o' ℓ task :=
  ⟨h.droppable, fun hs => h.goes (hR.trans ho hs), fun hs => h.dropped (hR.trans ho hs)⟩

theorem Ready.of_le {m : Nat} {ℓ : L} {task : Task W J α} (h : R.Ready n o ℓ task) (hm : m ≤ n) :
    R.Ready m o ℓ task :=
  ⟨h.droppable, fun hs hr => (h.goes hs hr).of_le hm, h.dropped⟩

theorem Ready.mark {ℓ : L} {task : Task W J α} (h : R.Ready n o ℓ task) (hℓ : R.Droppable ℓ) :
    R.Ready n o ℓ { task with aborted := true } :=
  ⟨fun _ => hℓ, h.goes, h.dropped⟩

/-! ## Unwinding -/

theorem Unwinds.unwind {left : Scene W J L → Scene W J L → Prop}
    {go : Scene W J L → Scene W J L → Program W J α → List (Task.Scope W J α) → Prop}
    {scopes : List (Task.Scope W J α)} (h : Unwinds t left go o scopes s) :
    left o (s.put (Runtime.unwind t scopes s.world)) := by
  induction scopes generalizing s with
  | nil => exact h
  | cons scope rest ih =>
      cases scope with
      | held release => exact ih (s := s.put (release s.world)) h
      | deadline time late =>
          exact ih (s := s.put (HasAgenda.modify (·.dropAlarm time t) s.world)) h.2

/-- Unwinding down to a deadline that has passed. -/
theorem Unwinds.expired {left : Scene W J L → Scene W J L → Prop}
    {go : Scene W J L → Scene W J L → Program W J α → List (Task.Scope W J α) → Prop}
    {now : Nat} {scopes inner rest : List (Task.Scope W J α)} {late : Program W J α}
    (h : Unwinds t left go o scopes s)
    (he : Runtime.expired? now scopes = some (inner, late, rest)) :
    go o (s.put (Runtime.unwind t inner s.world)) late rest := by
  induction scopes generalizing s inner with
  | nil => exact nomatch he
  | cons scope outer ih =>
      cases scope with
      | held release =>
          simp only [Runtime.expired?, Option.map_eq_some_iff, Prod.mk.injEq] at he
          obtain ⟨⟨inner, late, rest⟩, he, rfl, rfl, rfl⟩ := he
          exact ih (s := s.put (release s.world)) h he
      | deadline time l =>
          simp only [Runtime.expired?] at he
          split at he
          · simp only [Option.some.injEq, Prod.mk.injEq] at he
            obtain ⟨rfl, rfl, rfl⟩ := he
            exact h.1
          · simp only [Option.map_eq_some_iff, Prod.mk.injEq] at he
            obtain ⟨⟨inner, late, rest⟩, he, rfl, rfl, rfl⟩ := he
            exact ih (s := s.put (HasAgenda.modify (·.dropAlarm time t) s.world)) h.2 he

/-! ## Pauses -/

/-- At a pause a task has accounted for itself, and is ready to go on. -/
theorem Follows.pause (hR : R.Fair) {left : Scene W J L → Scene W J L → Prop}
    {post : α → Scene W J L → Scene W J L → Prop} {p : Program W J α}
    {scopes : List (Task.Scope W J α)} (h : R.Follows t left post (n + 1) o s p scopes)
    (hp : p.Pauses) : ∃ ℓ, R.guar o (s.become t ℓ) ∧
      ∀ s', R.rely (s.become t ℓ) s' → s'.roles t = ℓ →
        R.Follows t left post (n + 1) s' s' p scopes ∧
          Unwinds t left (fun _ _ _ _ => True) s' scopes
            (s'.gaveUp t p (p.cancelled t s'.world)) ∧
          ∀ {β : Type} {poll : TaskId → W → W × Option β} {cancel : TaskId → W → W}
            {next : β → Program W J α} {u : W}, p = .await poll cancel next →
            poll t s'.world = (u, none) → R.guar s' (s'.asked t p u) := by
  obtain ⟨ℓ, h⟩ := h
  cases p with
  | await poll cancel next =>
      have hnext {γ : Type} (k : α → Program W J γ) := (h k).resolve_left fun hk => hp hk.1
      refine ⟨ℓ, (hnext .done).1, fun s' hs hr => ⟨⟨ℓ, fun k => .inr ⟨?_, ?_⟩⟩, ?_, ?_⟩⟩
      · rw [← hr, Scene.become_roles]
        exact hR.refl s'
      · intro s'' hs' hr'
        rw [← hr, Scene.become_roles] at hs' hr'
        refine (hnext k).2 s'' (hR.trans hs hs') ?_
        rw [hr', hr, Scene.roles_become_same]
      · have hdropped := ((hnext .done).2 s' hs (by rw [hr, Scene.roles_become_same])).dropped
        rw [Program.bind_done] at hdropped
        exact hdropped.mono (fun _ _ => id) fun _ _ _ _ _ => trivial
      · rintro _ _ _ _ u ⟨⟩ hu
        have hwaits := ((hnext .done).2 s' hs (by rw [hr, Scene.roles_become_same])).waits hu
        rwa [Program.bind_done] at hwaits
  | _ => exact hp.elim

/-! ## Strides -/

variable (R) in
/-- A task has its turn: it went on in scene `o` and is in scene `s`; the others wait. -/
structure Stage (n : Nat) (t : TaskId) (o s : Scene W J L) (rt : Runtime W J) : Prop where
  world_eq : s.world = rt.world
  unborn {u : TaskId} : rt.nextId ≤ u → s.roles u = R.unborn
  lt : t < rt.nextId
  apart : ∀ task ∈ rt.tasks, task.id ≠ t ∧ task.id < rt.nextId
  ready : ∀ task ∈ rt.tasks, R.Ready n o (s.roles task.id) task

/-- What some strides of a task leave of the runtime and of the roles of the others. -/
structure Passes (t : TaskId) (s : Scene W J L) (rt : Runtime W J) (s' : Scene W J L)
    (rt' : Runtime W J) : Prop where
  perform_eq : rt'.perform = rt.perform
  nextId_le : rt.nextId ≤ rt'.nextId
  roles_eq {u : TaskId} : u ≠ t → u < rt.nextId → s'.roles u = s.roles u
  ids : ∃ news, rt'.tasks.map Task.id = rt.tasks.map Task.id ++ news ∧ news.Nodup ∧
    ∀ u ∈ news, rt.nextId ≤ u ∧ u < rt'.nextId

omit [HasAgenda W] in
theorem Passes.of_world {s' : Scene W J L} {rt : Runtime W J} (w : W)
    (h : ∀ u, u ≠ t → s'.roles u = s.roles u) : Passes t s rt s' { rt with world := w } where
  perform_eq := rfl
  nextId_le := Nat.le_refl _
  roles_eq hu _ := h _ hu
  ids := ⟨[], (List.append_nil _).symm, List.nodup_nil, nofun⟩

omit [HasAgenda W] in
theorem Passes.trans {s' s'' : Scene W J L} {rt rt' rt'' : Runtime W J}
    (h : Passes t s rt s' rt') (k : Passes t s' rt' s'' rt'') : Passes t s rt s'' rt'' := by
  obtain ⟨news, hids, hnodup, hnews⟩ := h.ids
  obtain ⟨news', hids', hnodup', hnews'⟩ := k.ids
  have hle := h.nextId_le
  have hle' := k.nextId_le
  refine {
    perform_eq := k.perform_eq.trans h.perform_eq
    nextId_le := Nat.le_trans hle hle'
    roles_eq := fun hu hlt =>
      (k.roles_eq hu (Nat.lt_of_lt_of_le hlt hle)).trans (h.roles_eq hu hlt)
    ids := ⟨news ++ news', by rw [hids', hids, List.append_assoc], ?_, ?_⟩ }
  · refine List.nodup_append.2 ⟨hnodup, hnodup', fun u hu v hv => ?_⟩
    exact Nat.ne_of_lt (Nat.lt_of_lt_of_le (hnews u hu).2 (hnews' v hv).1)
  · intro u hu
    rcases List.mem_append.1 hu with hu | hu
    · exact ⟨(hnews u hu).1, Nat.lt_of_lt_of_le (hnews u hu).2 hle'⟩
    · exact ⟨Nat.le_trans hle (hnews' u hu).1, (hnews' u hu).2⟩

variable {rt rt' : Runtime W J} {s₀ : Scene W J L}

theorem Stage.later {o' : Scene W J L} (h : R.Stage n t o s rt) (hR : R.Fair)
    (ho : R.rely o o') : R.Stage n t o' s rt :=
  { h with ready := fun task ht => (h.ready task ht).later hR ho }

theorem Stage.of_le {m : Nat} (h : R.Stage n t o s rt) (hm : m ≤ n) : R.Stage m t o s rt :=
  { h with ready := fun task ht => (h.ready task ht).of_le hm }

/-- Only the world changes, and the role of the task whose turn it is. -/
theorem Stage.set {s' : Scene W J L} {w : W} (h : R.Stage n t o s rt) (hw : s'.world = w)
    (hroles : ∀ u, u ≠ t → s'.roles u = s.roles u) :
    R.Stage n t o s' { rt with world := w } where
  world_eq := hw
  unborn hu := by
    rw [hroles _ (Nat.ne_of_gt (Nat.lt_of_lt_of_le h.lt hu))]
    exact h.unborn hu
  lt := h.lt
  apart := h.apart
  ready task ht := by
    rw [hroles _ (h.apart task ht).1]
    exact h.ready task ht

theorem Stage.become (h : R.Stage n t o s rt) (ℓ : L) : R.Stage n t o (s.become t ℓ) rt :=
  h.set h.world_eq fun _ hu => s.roles_become_ne ℓ hu

theorem Stage.spawn {p : Program W J Unit} {ℓ : L} (h : R.Stage n t o s rt)
    (hnew : R.Ready n o ℓ ⟨rt.nextId, p, [], false⟩) :
    R.Stage n t o ((s.put (HasAgenda.wake rt.nextId s.world)).become rt.nextId ℓ) (rt.addTask p) ∧
      Passes t s rt ((s.put (HasAgenda.wake rt.nextId s.world)).become rt.nextId ℓ)
        (rt.addTask p) := by
  have hother {u : TaskId} (hu : u ≠ rt.nextId) :
      ((s.put (HasAgenda.wake rt.nextId s.world)).become rt.nextId ℓ).roles u = s.roles u :=
    Scene.roles_become_ne _ ℓ hu
  refine ⟨⟨?_, fun {u} hu => ?_, Nat.lt_succ_of_lt h.lt, fun task ht => ?_, fun task ht => ?_⟩,
    rfl, Nat.le_succ _, fun _ hlt => hother (Nat.ne_of_lt hlt), [rt.nextId], ?_, ?_, ?_⟩
  · exact congrArg (HasAgenda.wake rt.nextId) h.world_eq
  · have hlt : rt.nextId < u := hu
    rw [hother (Nat.ne_of_gt hlt)]
    exact h.unborn (Nat.le_of_lt hlt)
  · rcases List.mem_append.1 ht with ht | ht
    · exact ⟨(h.apart task ht).1, Nat.lt_succ_of_lt (h.apart task ht).2⟩
    · obtain rfl := List.mem_singleton.1 ht
      exact ⟨(Nat.ne_of_lt h.lt).symm, Nat.lt_succ_self _⟩
  · rcases List.mem_append.1 ht with ht | ht
    · rw [hother (Nat.ne_of_lt (h.apart task ht).2)]
      exact h.ready task ht
    · obtain rfl := List.mem_singleton.1 ht
      rw [Scene.roles_become_same]
      exact hnew
  · simp [Runtime.addTask]
  · exact List.nodup_cons.2 ⟨List.not_mem_nil, List.nodup_nil⟩
  · intro u hu
    obtain rfl := List.mem_singleton.1 hu
    exact ⟨Nat.le_refl _, Nat.lt_succ_self _⟩

theorem Stage.abort {other : TaskId} (h : R.Stage n t o s rt)
    (hdrop : R.Droppable (s.roles other)) :
    ∃ s', (s' = s ∨ s' = s.put (HasAgenda.wake other s.world)) ∧
      R.Stage n t o s' (rt.abortTask other) ∧ Passes t s rt s' (rt.abortTask other) := by
  unfold Runtime.abortTask
  split
  · have hid : ((fun task : Task W J Unit =>
        Task.id (if task.id = other then { task with aborted := true } else task))) = Task.id := by
      funext task
      split <;> rfl
    refine ⟨_, .inr rfl, ⟨congrArg (HasAgenda.wake other) h.world_eq, h.unborn, h.lt, ?_, ?_⟩,
      rfl, Nat.le_refl _, fun _ _ => rfl, [], ?_, List.nodup_nil, nofun⟩
    · intro task ht
      obtain ⟨old, hold, rfl⟩ := List.mem_map.1 ht
      rw [congrFun hid old]
      exact h.apart old hold
    · intro task ht
      obtain ⟨old, hold, rfl⟩ := List.mem_map.1 ht
      rw [congrFun hid old]
      split
      · rename_i heq
        refine (h.ready old hold).mark ?_
        rwa [heq]
      · exact h.ready old hold
    · rw [List.map_map, List.append_nil]
      exact congrArg (fun f => rt.tasks.map f) hid
  · exact ⟨s, .inl rfl, h, .of_world rt.world fun _ _ => rfl⟩

/-- Jobs that are hired begin as their role says. -/
def Apt (R : Regime W J L) (s₀ : Scene W J L) (perform : J → Program W J Unit) : Prop :=
  ∀ {job : J} {ℓ : L}, R.Hires job ℓ → ∀ n u o, R.rely s₀ o →
    R.Ready n o ℓ ⟨u, perform job, [], false⟩

/-- A stride after which the task goes on. -/
theorem Follows.stride (hR : R.Fair) (hjob : R.Apt s₀ rt.perform) {task next : Task W J α}
    (h : R.Follows task.id (R.Spares task.id) (fun _ => R.guar) (n + 1) o s task.program
      task.scopes) (hsince : R.rely s₀ o) (hstage : R.Stage (n + 1) task.id o s rt)
    (hs : rt.stride task = (rt', .going next)) :
    ∃ o' s', R.rely o o' ∧ R.Stage n task.id o' s' rt' ∧ Passes task.id s rt s' rt' ∧
      s'.past = s.past ++ rt.moments task ∧
      R.Follows task.id (R.Spares task.id) (fun _ => R.guar) n o' s' next.program next.scopes := by
  obtain ⟨t, program, scopes, aborted⟩ := task
  obtain ⟨moments, hmoments, hstrode⟩ := Runtime.strode hs
  rw [hmoments]
  dsimp only at h hstage hstrode ⊢
  obtain ⟨ℓ, h⟩ := h
  have hstage := (hstage.of_le (Nat.le_succ n)).become ℓ
  have hroles : ∀ u, u ≠ t → (s.become t ℓ).roles u = s.roles u :=
    fun u hu => s.roles_become_ne ℓ hu
  have hself := hR.rely (hR.refl o)
  have hworld : s.world = rt.world := hstage.world_eq
  cases hstrode with
  | @answered _ poll cancel next _ u b hp =>
      have h := h .done
      rw [Program.bind_done] at h
      rw [← hworld] at hp ⊢
      let s' := (s.become t ℓ).asked t (Program.await poll cancel next) u
      rcases h with ⟨-, h⟩ | ⟨hguar, h⟩
      · exact ⟨o, s', hself, hstage.set rfl fun _ _ => rfl, .of_world _ hroles, rfl,
          h hp⟩
      · have hresumes := h _ (hR.rely (hR.refl _)) rfl
        exact ⟨s.become t ℓ, s', hR.rely hguar,
          (hstage.later hR (hR.rely hguar)).set rfl fun _ _ => rfl, .of_world _ hroles, rfl,
          hresumes.answered hp⟩
  | @gaveUp _ poll cancel next _ inner rest late u hp he =>
      have h := h .done
      rw [Program.bind_done] at h
      rw [← hworld] at hp ⊢
      rcases h with ⟨hprompt, -⟩ | ⟨hguar, h⟩
      · have hsome := hprompt t s.world
        rw [hp] at hsome
        cases hsome
      · have hthen := hR.rely ((h _ (hR.rely (hR.refl _)) rfl).waits hp)
        have hresumes := h _ hthen rfl
        have hsteps := hR.trans (hR.rely hguar) hthen
        let whole := Program.await poll cancel next
        let s' := ((s.become t ℓ).asked t whole u).gaveUp t whole (cancel t u)
        exact ⟨_, s'.put (Runtime.unwind t inner (cancel t u)), hsteps,
          (hstage.later hR hsteps).set rfl fun _ _ => rfl, .of_world _ hroles,
          List.append_assoc .., hresumes.dropped.expired he⟩
  | hold release next =>
      exact ⟨o, s.become t ℓ, hself, hstage, .of_world _ hroles, (List.append_nil _).symm, h⟩
  | released release next =>
      exact ⟨o, (s.become t ℓ).put (release (s.become t ℓ).world), hself,
        hstage.set (congrArg release hstage.world_eq) fun _ _ => rfl, .of_world _ hroles,
        (List.append_nil _).symm, h⟩
  | within millis next =>
      rw [← hworld]
      let later := HasAgenda.now (s.become t ℓ).world + millis
      let s' := (s.become t ℓ).put (HasAgenda.modify (·.setAlarm later t) (s.become t ℓ).world)
      exact ⟨o, s', hself, hstage.set rfl fun _ _ => rfl, .of_world _ hroles,
        (List.append_nil _).symm, h⟩
  | left time late next =>
      rw [← hworld]
      let s' := (s.become t ℓ).put (HasAgenda.modify (·.dropAlarm time t) (s.become t ℓ).world)
      exact ⟨o, s', hself, hstage.set rfl fun _ _ => rfl, .of_world _ hroles,
        (List.append_nil _).symm, h⟩
  | unheld hscopes =>
      rcases scopes with _ | ⟨release | _, rest⟩
      · exact h.elim
      · exact absurd rfl (hscopes release rest)
      · exact h.elim
  | unbound hscopes =>
      rcases scopes with _ | ⟨_ | ⟨time, late⟩, rest⟩
      · exact h.elim
      · exact h.elim
      · exact absurd rfl (hscopes time late rest)
  | spawn job next =>
      obtain ⟨ℓ', hhires, h⟩ := h
      obtain ⟨hstage', hpasses⟩ := hstage.spawn (hjob hhires n rt.nextId o hsince)
      refine ⟨o, _, hself, hstage', (Passes.of_world rt.world hroles).trans hpasses,
        (List.append_nil _).symm, h _ (Nat.ne_of_gt hstage.lt) (hstage.unborn (Nat.le_refl _))⟩
  | abort other next =>
      obtain ⟨hdrop, hstay, hwake⟩ := h
      obtain ⟨s', hs', hstage', hpasses⟩ := hstage.abort hdrop
      refine ⟨o, s', hself, hstage', (Passes.of_world rt.world hroles).trans hpasses, ?_,
        ?_⟩
      · rcases hs' with rfl | rfl <;> exact (List.append_nil _).symm
      · rcases hs' with rfl | rfl
        · exact hstay
        · exact hwake
  | loop state body next =>
      exact ⟨o, s.become t ℓ, hself, hstage, .of_world _ hroles, (List.append_nil _).symm, h⟩

/-! ## Turns -/

variable (R) in
/-- What a turn leaves of a task: nothing, or the task, ready to go on. -/
structure Leaves (n : Nat) (t : TaskId) (s : Scene W J L) (left : List (Task W J α)) : Prop where
  ids : left.map Task.id = [] ∨ left.map Task.id = [t]
  ready : ∀ task ∈ left, task.aborted = false ∧ R.Ready n s (s.roles t) task

theorem Leaves.nil : R.Leaves n t s ([] : List (Task W J α)) := ⟨.inl rfl, nofun⟩

theorem Leaves.task {task : Task W J α} (ha : task.aborted = false)
    (h : R.Ready n s (s.roles task.id) task) : R.Leaves n task.id s [task] := by
  refine ⟨.inr rfl, fun next hnext => ?_⟩
  obtain rfl := List.mem_singleton.1 hnext
  exact ⟨ha, h⟩

/-- A task that pauses is ready in the scene in which it has accounted for itself. -/
theorem Follows.leaves (hR : R.Fair) {task : Task W J α} (ha : task.aborted = false)
    (h : R.Follows task.id (R.Spares task.id) (fun _ => R.guar) (n + 1) o s task.program
      task.scopes) (hp : task.program.Pauses) :
    ∃ ℓ, R.guar o (s.become task.id ℓ) ∧
      (∀ s', R.rely (s.become task.id ℓ) s' → s'.roles task.id = ℓ →
        R.Leaves n task.id s' [task]) ∧
      ∀ {β : Type} {poll : TaskId → W → W × Option β} {cancel : TaskId → W → W}
        {next : β → Program W J α} {u : W}, task.program = .await poll cancel next →
        poll task.id s.world = (u, none) →
        R.guar (s.become task.id ℓ) ((s.become task.id ℓ).asked task.id task.program u) := by
  obtain ⟨ℓ, hguar, hready⟩ := h.pause hR hp
  have hself := hready _ (hR.rely (hR.refl _)) (Scene.roles_become_same s task.id ℓ)
  refine ⟨ℓ, hguar, fun s' hs' hℓ => .task ha ⟨fun h => ?_, fun hs hr => ?_, fun hs hr => ?_⟩,
    hself.2.2⟩
  · exact nomatch ha.symm.trans h
  · exact (hready _ (hR.trans hs' hs) (hr.trans hℓ)).1.of_le (Nat.le_succ n)
  · exact (hready _ (hR.trans hs' hs) (hr.trans hℓ)).2.1

theorem Follows.ended {task : Task W J α} {a : α}
    (h : R.Follows task.id (R.Spares task.id) (fun _ => R.guar) (n + 1) o s task.program
      task.scopes) (hs : rt.stride task = (rt', .ended a)) :
    rt' = rt ∧ rt.moments task = [] ∧ ∃ ℓ, R.guar o (s.become task.id ℓ) := by
  obtain ⟨t, program, scopes, aborted⟩ := task
  obtain ⟨moments, hmoments, hstrode⟩ := Runtime.strode hs
  obtain ⟨rfl, rfl, rfl⟩ := hstrode.of_ended
  obtain ⟨ℓ, h⟩ := h
  exact ⟨rfl, hmoments, ℓ, h.2⟩

/-- A task that has to wait has asked and got no answer. -/
theorem Follows.waits (hR : R.Fair) {task : Task W J α} (ha : task.aborted = false)
    (h : R.Follows task.id (R.Spares task.id) (fun _ => R.guar) (n + 1) o s task.program
      task.scopes) (hw : s.world = rt.world) (hs : rt.stride task = (rt', .waits)) :
    ∃ s', R.rely o s' ∧ rt' = { rt with world := s'.world } ∧
      (∀ u, u ≠ task.id → s'.roles u = s.roles u) ∧ s'.past = s.past ++ rt.moments task ∧
      R.Leaves n task.id s' [task] := by
  obtain ⟨t, program, scopes, aborted⟩ := task
  obtain ⟨moments, hmoments, hstrode⟩ := Runtime.strode hs
  rw [hmoments]
  dsimp only at hstrode
  cases hstrode with
  | @waits _ poll cancel next _ u hu he =>
      have hp : (Program.await poll cancel next).Pauses := by
        intro hprompt
        have hsome := hprompt t rt.world
        rw [hu] at hsome
        cases hsome
      obtain ⟨ℓ, hguar, hleaves, hwaits⟩ := h.leaves hR ha hp
      rw [← hw] at hu ⊢
      have hthen := hR.rely (hwaits rfl hu)
      refine ⟨_, hR.trans (hR.rely hguar) hthen, rfl, fun u hne => ?_, rfl,
        hleaves _ hthen (Scene.roles_become_same s t ℓ)⟩
      exact s.roles_become_ne ℓ hne

theorem Follows.turn (hR : R.Fair) {task : Task W J α} {moments : List (Moment W J)}
    {left : List (Task W J α)} (h : rt.Turn task moments rt' left)
    (ha : task.aborted = false) : ∃ m, ∀ {n : Nat} {s₀ o s : Scene W J L}, R.Apt s₀ rt.perform →
      R.rely s₀ o → R.Stage (n + m) task.id o s rt →
      R.Follows task.id (R.Spares task.id) (fun _ => R.guar) (n + m) o s task.program
        task.scopes →
      ∃ s', R.rely o s' ∧ R.Stage n task.id s' s' rt' ∧ Passes task.id s rt s' rt' ∧
        s'.past = s.past ++ moments ∧ R.Leaves n task.id s' left := by
  induction h with
  | @ended rt rt' task a hs =>
      refine ⟨1, fun {n s₀ o s} _ _ hstage h => ?_⟩
      obtain ⟨rfl, hmoments, ℓ, hguar⟩ := h.ended hs
      have hroles : ∀ u, u ≠ task.id → (s.become task.id ℓ).roles u = s.roles u :=
        fun u hu => s.roles_become_ne ℓ hu
      refine ⟨_, hR.rely hguar, ?_, .of_world rt'.world hroles, ?_, .nil⟩
      · exact ((hstage.of_le (Nat.le_succ n)).later hR (hR.rely hguar)).become ℓ
      · rw [hmoments, List.append_nil, Scene.past_become]
  | @waits rt rt' task hs =>
      refine ⟨1, fun {n s₀ o s} _ _ hstage h => ?_⟩
      obtain ⟨s', hs', rfl, hroles, hpast, hleaves⟩ := h.waits hR ha hstage.world_eq hs
      refine ⟨s', hs', ?_, .of_world _ hroles, hpast, hleaves⟩
      exact ((hstage.of_le (Nat.le_succ n)).later hR hs').set rfl hroles
  | @pauses rt rt' task next hs hp =>
      refine ⟨2, fun {n s₀ o s} hjob hsince hstage h => ?_⟩
      obtain ⟨hid, hab⟩ := Runtime.stride_going hs
      obtain ⟨o', s', ho', hstage', hpasses, hpast, h'⟩ := h.stride hR hjob hsince hstage hs
      rw [← hid] at h' hstage' hpasses ⊢
      obtain ⟨ℓ, hguar, hleaves, -⟩ := h'.leaves hR (hab.trans ha) hp
      have hroles : ∀ u, u ≠ next.id → (s'.become next.id ℓ).roles u = s'.roles u :=
        fun u hu => s'.roles_become_ne ℓ hu
      refine ⟨_, hR.trans ho' (hR.rely hguar), ?_, hpasses.trans (.of_world rt'.world hroles), hpast,
        hleaves _ (hR.rely (hR.refl _)) (Scene.roles_become_same s' next.id ℓ)⟩
      exact ((hstage'.of_le (Nat.le_succ n)).later hR (hR.rely hguar)).become ℓ
  | @goes rt rt₁ rt' task next later left hs _ ih =>
      obtain ⟨hid, hab⟩ := Runtime.stride_going hs
      obtain ⟨m, ih⟩ := ih (hab.trans ha)
      refine ⟨m + 1, fun {n s₀ o s} hjob hsince hstage h => ?_⟩
      obtain ⟨o', s', ho', hstage', hpasses, hpast, h'⟩ := h.stride hR hjob hsince hstage hs
      rw [← hid] at h' hstage' hpasses ⊢
      rw [← hpasses.perform_eq] at hjob
      obtain ⟨s'', ho'', hstage'', hpasses', hpast', hleaves⟩ :=
        ih hjob (hR.trans hsince ho') hstage' h'
      refine ⟨s'', hR.trans ho' ho'', hstage'', hpasses.trans hpasses', ?_, hleaves⟩
      rw [hpast', hpast, List.append_assoc]

/-! ## Halls -/

variable {K : Type} {Out : K → Type} {rules : Hall.Rules W J Out} {c d : Hall W J Out}
  {past : List (Moment W J)} {perform : J → Program W J Unit} {s₀ : Scene W J L}

variable (R) in
/-- All tasks of a hall are ready for so many strides. -/
structure Kept (perform : J → Program W J Unit) (s₀ : Scene W J L) (n : Nat)
    (past : List (Moment W J)) (c : Hall W J Out) (s : Scene W J L) : Prop where
  since : R.rely s₀ s
  world_eq : s.world = c.world
  past_eq : s.past = past
  perform_eq : c.runtime.perform = perform
  nodup : c.ids.Nodup
  lt : ∀ t ∈ c.ids, t < c.runtime.nextId
  unborn {u : TaskId} : c.runtime.nextId ≤ u → s.roles u = R.unborn
  tasks : ∀ task ∈ c.runtime.tasks, R.Ready n s (s.roles task.id) task
  calls : ∀ call ∈ c.calls, R.Ready n s (s.roles call.task.id) call.task

variable (R) in
/-- Whatever can begin or change under the rules keeps a regime. -/
structure Admits (perform : J → Program W J Unit) (s₀ : Scene W J L)
    (rules : Hall.Rules W J Out) : Prop where
  job : R.Apt s₀ perform
  call (name : K) : ∃ ℓ, (∀ {s : Scene W J L} {u : TaskId}, R.rely s₀ s → s.roles u = R.unborn →
      R.rely s (s.become u ℓ)) ∧
    ∀ n u o, R.rely s₀ o → R.Ready n o ℓ ⟨u, rules.call name, [], false⟩
  start {job : J} : rules.mayStart job → ∃ ℓ, R.Hires job ℓ ∧
    ∀ {s : Scene W J L} {u : TaskId}, R.rely s₀ s → s.roles u = R.unborn →
      R.rely s ((s.put (HasAgenda.wake u s.world)).become u ℓ)
  outside {s : Scene W J L} {w : W} : R.rely s₀ s → rules.outside s.world w → R.rely s (s.put w)

section Focus

variable {task : Task W J α} {put : List (Task W J α) → Runtime W J → Hall W J Out}

theorem Kept.focus (h : R.Kept perform s₀ n past c s) (f : c.Focus task rt put) :
    R.Ready n s (s.roles task.id) task := by
  cases f with
  | task hc => exact h.tasks _ (by simp [hc])
  | @call front back name task hc => exact h.calls ⟨name, task⟩ (by simp [hc])

theorem Kept.stage (h : R.Kept perform s₀ n past c s) (f : c.Focus task rt put) :
    R.Stage n task.id s s rt := by
  obtain ⟨hworld, hnext, -⟩ := f.runtime_eq
  refine ⟨h.world_eq.trans hworld.symm, fun hu => h.unborn (hnext ▸ hu), ?_, fun other ho => ?_,
    fun other ho => h.tasks other (f.mem_tasks ho).1⟩
  · rw [hnext]
    exact h.lt _ f.mem
  · obtain ⟨hmem, hin⟩ := f.mem_tasks ho
    refine ⟨fun heq => f.not_mem h.nodup (heq ▸ hin), ?_⟩
    rw [hnext]
    exact h.lt _ (List.mem_append_left _ (List.mem_map_of_mem hmem))

/-- Numbers stay apart and below the next one. -/
theorem Kept.ids_put {s' : Scene W J L} {left : List (Task W J α)}
    (h : R.Kept perform s₀ n past c s) (f : c.Focus task rt put)
    (hpasses : Passes task.id s rt s' rt')
    (hleft : left.map Task.id = [] ∨ left.map Task.id = [task.id]) :
    (put left rt').ids.Nodup ∧ ∀ t ∈ (put left rt').ids, t < rt'.nextId := by
  obtain ⟨news, hids, hnews, hnew⟩ := hpasses.ids
  have hput : (put left rt').ids.Perm (left.map Task.id ++ (put [] rt).ids ++ news) := f.perm_put hids
  have hnext := f.runtime_eq.2.1
  have hperm := f.perm
  have hlt (t : TaskId) (ht : t ∈ task.id :: (put [] rt).ids) : t < rt.nextId := by
    rw [hnext]
    exact h.lt t (hperm.mem_iff.2 ht)
  have hsub (t : TaskId) (ht : t ∈ left.map Task.id ++ (put [] rt).ids) :
      t ∈ task.id :: (put [] rt).ids := by
    rcases hleft with hl | hl <;> rw [hl] at ht
    · exact List.mem_cons_of_mem _ ht
    · exact ht
  have hold : (left.map Task.id ++ (put [] rt).ids).Nodup := by
    have hall := hperm.nodup_iff.1 h.nodup
    rcases hleft with hl | hl <;> rw [hl]
    · exact hall.of_cons
    · exact hall
  refine ⟨?_, fun t ht => ?_⟩
  · rw [hput.nodup_iff, List.nodup_append]
    refine ⟨hold, hnews, fun t ht u hu => ?_⟩
    exact Nat.ne_of_lt (Nat.lt_of_lt_of_le (hlt t (hsub t ht)) (hnew u hu).1)
  · rw [hput.mem_iff, List.mem_append] at ht
    rcases ht with ht | ht
    · exact Nat.lt_of_lt_of_le (hlt t (hsub t ht)) hpasses.nextId_le
    · exact (hnew t ht).2

theorem Kept.put_back {m : Nat} {moments : List (Moment W J)} {s' : Scene W J L}
    {left : List (Task W J α)} (h : R.Kept perform s₀ (n + m) past c s) (hR : R.Fair)
    (f : c.Focus task rt put) (hs : R.rely s s') (hstage : R.Stage n task.id s' s' rt')
    (hpasses : Passes task.id s rt s' rt') (hpast : s'.past = s.past ++ moments)
    (hleaves : R.Leaves n task.id s' left) :
    R.Kept perform s₀ n (past ++ moments) (put left rt') s' := by
  obtain ⟨hnodup, hlt⟩ := h.ids_put f hpasses hleaves.ids
  obtain ⟨hworld, hnext, hperform⟩ := f.put_eq left rt'
  have hids (next : Task W J α) (hn : next ∈ left) : next.id = task.id := by
    rcases hleaves.ids with hl | hl
    · rw [List.map_eq_nil_iff] at hl
      rw [hl] at hn
      exact nomatch hn
    · have := List.mem_map_of_mem (f := Task.id) hn
      rw [hl] at this
      exact List.mem_singleton.1 this
  have hcalls (other : Hall.Call W J Out) (ho : other ∈ (put [] rt').calls) :
      R.Ready n s' (s'.roles other.task.id) other.task := by
    obtain ⟨hmem, hin⟩ := f.mem_calls ho
    have hroles : s'.roles other.task.id = s.roles other.task.id := by
      refine hpasses.roles_eq (fun heq => f.not_mem h.nodup (heq ▸ hin)) ?_
      rw [f.runtime_eq.2.1]
      exact h.lt _ (List.mem_append_right _
        (List.mem_map_of_mem (f := fun call : Hall.Call W J Out => call.task.id) hmem))
    rw [hroles]
    exact ((h.calls other hmem).later hR hs).of_le (Nat.le_add_right n m)
  refine {
    since := hR.trans h.since hs
    world_eq := by rw [Hall.world, hworld, hstage.world_eq]
    past_eq := by rw [hpast, h.past_eq]
    perform_eq := by rw [hperform, hpasses.perform_eq, f.runtime_eq.2.2, h.perform_eq]
    nodup := hnodup
    lt := by rwa [hnext]
    unborn := by
      rw [hnext]
      exact hstage.unborn
    tasks := ?_
    calls := ?_ }
  · cases f with
    | task hc =>
        intro other ho
        rcases List.mem_append.1 ho with ho | ho
        · rw [hids other ho]
          exact (hleaves.ready other ho).2
        · exact hstage.ready other ho
    | call hc => exact hstage.ready
  · cases f with
    | task hc => exact hcalls
    | @call front back name task hc =>
        intro other ho
        simp only [List.map_nil, List.append_nil, List.mem_append] at ho hcalls
        rcases ho with (ho | ho) | ho
        · exact hcalls other (.inl ho)
        · obtain ⟨next, hnext, rfl⟩ := List.mem_map.1 ho
          rw [hids next hnext]
          exact (hleaves.ready next hnext).2
        · exact hcalls other (.inr ho)

end Focus

/-- A task begins under the next number. -/
theorem Kept.born {s' : Scene W J L} (h : R.Kept perform s₀ n past c s) (hR : R.Fair)
    (hd : d.ids.Perm (c.runtime.nextId :: c.ids)) (hs : R.rely s s')
    (hroles : ∀ u, u ≠ c.runtime.nextId → s'.roles u = s.roles u)
    (hworld : s'.world = d.world) (hpast : s'.past = s.past)
    (hperform : d.runtime.perform = c.runtime.perform)
    (hnext : d.runtime.nextId = c.runtime.nextId + 1)
    (htasks : ∀ task ∈ d.runtime.tasks, task ∈ c.runtime.tasks ∨
      R.Ready n s' (s'.roles task.id) task)
    (hcalls : ∀ call ∈ d.calls, call ∈ c.calls ∨
      R.Ready n s' (s'.roles call.task.id) call.task) : R.Kept perform s₀ n past d s' := by
  have hold {u : TaskId} (hu : u ∈ c.ids) : s'.roles u = s.roles u :=
    hroles u (Nat.ne_of_lt (h.lt u hu))
  refine ⟨hR.trans h.since hs, hworld, hpast.trans h.past_eq, hperform.trans h.perform_eq, ?_,
    fun t ht => ?_, fun {u} hu => ?_, fun task ht => ?_, fun call hc => ?_⟩
  · rw [hd.nodup_iff, List.nodup_cons]
    exact ⟨fun hm => Nat.lt_irrefl _ (h.lt _ hm), h.nodup⟩
  · rw [hnext]
    rcases List.mem_cons.1 (hd.mem_iff.1 ht) with rfl | ht
    · exact Nat.lt_succ_self _
    · exact Nat.lt_succ_of_lt (h.lt t ht)
  · have hlt : c.runtime.nextId < u := by rwa [hnext] at hu
    rw [hroles u (Nat.ne_of_gt hlt)]
    exact h.unborn (Nat.le_of_lt hlt)
  · rcases htasks task ht with ht | ht
    · rw [hold (List.mem_append_left _ (List.mem_map_of_mem ht))]
      exact (h.tasks task ht).later hR hs
    · exact ht
  · rcases hcalls call hc with hc | hc
    · rw [hold (List.mem_append_right _
        (List.mem_map_of_mem (f := fun call : Hall.Call W J Out => call.task.id) hc))]
      exact (h.calls call hc).later hR hs
    · exact hc

theorem Kept.call (h : R.Kept perform s₀ n past c s) (hR : R.Fair)
    (hrules : R.Admits perform s₀ rules) (name : K) :
    ∃ s', R.rely s s' ∧ R.Kept perform s₀ n past (c.begin_ name (rules.call name)) s' := by
  obtain ⟨ℓ, hborn, hready⟩ := hrules.call name
  have hs := hborn h.since (h.unborn (Nat.le_refl _))
  have hids : (c.begin_ name (rules.call name)).ids.Perm (c.runtime.nextId :: c.ids) := by
    simp only [Hall.ids, Hall.begin_, List.map_append, List.map_cons, List.map_nil]
    rw [← List.append_assoc]
    exact List.perm_append_singleton _ _
  refine ⟨_, hs, h.born hR hids hs (fun _ hu => s.roles_become_ne ℓ hu) h.world_eq rfl rfl rfl
    (fun _ => .inl) fun call hc => ?_⟩
  rcases List.mem_append.1 hc with hc | hc
  · exact .inl hc
  · obtain rfl := List.mem_singleton.1 hc
    right
    rw [Scene.roles_become_same]
    exact hready n _ _ (hR.trans h.since hs)

theorem Kept.start {job : J} (h : R.Kept perform s₀ n past c s) (hR : R.Fair)
    (hrules : R.Admits perform s₀ rules) (hjob : rules.mayStart job) :
    ∃ s', R.rely s s' ∧ R.Kept perform s₀ n past
      { c with runtime := c.runtime.addTask (c.runtime.perform job) } s' := by
  obtain ⟨ℓ, hhires, hborn⟩ := hrules.start hjob
  have hs := hborn h.since (h.unborn (Nat.le_refl _))
  have hids : (Hall.ids { c with runtime := c.runtime.addTask (c.runtime.perform job) }).Perm
      (c.runtime.nextId :: c.ids) := by
    simp only [Hall.ids, Runtime.addTask, List.map_append, List.map_cons, List.map_nil,
      List.append_assoc, List.singleton_append]
    exact List.perm_middle
  refine ⟨_, hs, h.born hR hids hs (fun _ hu => Scene.roles_become_ne _ ℓ hu)
    (congrArg (HasAgenda.wake c.runtime.nextId) h.world_eq) rfl rfl rfl (fun task ht => ?_)
    fun _ => .inl⟩
  rcases List.mem_append.1 ht with ht | ht
  · exact .inl ht
  · obtain rfl := List.mem_singleton.1 ht
    right
    rw [Scene.roles_become_same, h.perform_eq]
    exact hrules.job hhires n _ _ (hR.trans h.since hs)

theorem Kept.move (hR : R.Fair) (hrules : R.Admits perform s₀ rules)
    {moments : List (Moment W J)} (hm : Hall.Move rules c moments d) :
    ∃ m, ∀ {n : Nat} {past : List (Moment W J)} {s : Scene W J L},
      R.Kept perform s₀ (n + m) past c s →
      ∃ s', R.rely s s' ∧ R.Kept perform s₀ n (past ++ moments) d s' := by
  cases hm with
  | @went α task rt rt' put moments left f ha hturn =>
      obtain ⟨m, hturn⟩ := Follows.turn hR hturn ha
      refine ⟨m, fun {n past s} h => ?_⟩
      have hself := hR.rely (hR.refl s)
      have hjob : R.Apt s₀ rt.perform := by
        rw [f.runtime_eq.2.2, h.perform_eq]
        exact hrules.job
      obtain ⟨s', hs', hstage, hpasses, hpast, hleaves⟩ :=
        hturn hjob h.since (h.stage f) ((h.focus f).goes hself rfl)
      exact ⟨s', hs', h.put_back hR f hs' hstage hpasses hpast hleaves⟩
  | @dropped α task rt put f ha =>
      refine ⟨0, fun {n past s} h => ?_⟩
      have hready := h.focus f
      have hstage := h.stage f
      obtain ⟨ℓ, hguar⟩ := (hready.dropped (hR.rely (hR.refl s)) rfl).unwind
        (hready.droppable ha)
      refine ⟨_, hR.rely hguar, h.put_back
        hR f (hR.rely hguar) ?_ ?_ ?_ .nil⟩
      · rw [Runtime.giveUp_eq, ← hstage.world_eq]
        refine (hstage.later hR (hR.rely hguar)).set rfl fun u hu => ?_
        exact Scene.roles_become_ne _ ℓ hu
      · rw [Runtime.giveUp_eq]
        exact .of_world _ fun u hu => Scene.roles_become_ne _ ℓ hu
      · rw [← hstage.world_eq]
        rfl
  | called name =>
      refine ⟨0, fun {n past s} h => ?_⟩
      rw [List.append_nil]
      exact h.call hR hrules name
  | started hjob =>
      refine ⟨0, fun {n past s} h => ?_⟩
      rw [List.append_nil]
      exact h.start hR hrules hjob
  | @changed w hout =>
      refine ⟨0, fun {n past s} h => ?_⟩
      rw [List.append_nil]
      rw [← h.world_eq] at hout
      have hs := hrules.outside h.since hout
      exact ⟨_, hs, {
        h with
        since := hR.trans h.since hs
        world_eq := rfl
        tasks := fun task ht => (h.tasks task ht).later hR hs
        calls := fun call hc => (h.calls call hc).later hR hs }⟩

/-- A walk leads to a scene that the tasks could rely on. -/
theorem Kept.walk (hR : R.Fair) (hrules : R.Admits perform s₀ rules)
    {moments : List (Moment W J)} (r : Hall.Walk rules c moments d) :
    ∃ m, ∀ {n : Nat} {past : List (Moment W J)} {s : Scene W J L},
      R.Kept perform s₀ (n + m) past c s →
      ∃ s', R.rely s s' ∧ R.Kept perform s₀ n (past ++ moments) d s' := by
  induction r with
  | start =>
      refine ⟨0, fun {n past s} h => ⟨s, hR.rely (hR.refl s), ?_⟩⟩
      rwa [List.append_nil]
  | move r hm ih =>
      obtain ⟨m, ih⟩ := ih
      obtain ⟨k, hm⟩ := Kept.move hR hrules hm
      refine ⟨k + m, fun {n past s} h => ?_⟩
      rw [← Nat.add_assoc] at h
      obtain ⟨s', hs', h'⟩ := ih h
      obtain ⟨s'', hs'', h''⟩ := hm h'
      rw [List.append_assoc] at h''
      exact ⟨s'', hR.trans hs' hs'', h''⟩

end Regime

end LanguageClient
