import LanguageClient.Task.Scheduler
namespace LanguageClient

/-!
# Strides

A turn is a row of strides, each of which takes one construct off the program of the task. What
tasks do together and what one does by itself are both told in strides. What a task does while it
awaits something is told in moments. All that a stride can do is said here, once for each construct.
-/

/-- What happened to a task that awaited something. -/
inductive Moment (W J : Type) : Type 1 where
  | asks (task : TaskId) {β : Type} (program : Program W J β) (before after : W)
  | givesUp (task : TaskId) {β : Type} (program : Program W J β) (before : W)

namespace Moment

variable {W J : Type}

def before : Moment W J → W
  | asks _ _ w _ => w
  | givesUp _ _ w => w

/-- The world after asking; what giving up changes is not part of the moment. -/
def after : Moment W J → W
  | asks _ _ _ u => u
  | givesUp _ _ w => w

/-- The world after asking is what asking makes of it. -/
def Faithful : Moment W J → Prop
  | asks t p w u => ∀ (β : Type) poll cancel (next : β → _), p = .await poll cancel next →
    u = (poll t w).1
  | givesUp _ _ _ => True

end Moment

namespace Runtime

variable {W J : Type} [HasAgenda W] {α : Type}

/-- What a stride leaves of a task. -/
inductive Stride (W J α : Type) : Type 1 where
  | ended (value : α)
  | going (task : Task W J α)
  | waits

/-- Takes the first construct off the program of a task. -/
def stride (rt : Runtime W J) (task : Task W J α) : Runtime W J × Stride W J α :=
  match task.program with
  | .done a => (rt, .ended a)
  | .await poll cancel next =>
    match poll task.id rt.world with
    | (w, some b) => ({ rt with world := w }, .going { task with program := next b })
    | (w, none) =>
      match expired? (HasAgenda.now w) task.scopes with
      | none => ({ rt with world := w }, .waits)
      | some (inner, late, rest) =>
        ({ rt with world := unwind task.id inner (cancel task.id w) },
          .going { task with program := late, scopes := rest })
  | .hold release next =>
    (rt, .going { task with program := next, scopes := .held release :: task.scopes })
  | .letGo next =>
    match task.scopes with
    | .held release :: rest =>
      ({ rt with world := release rt.world }, .going { task with program := next, scopes := rest })
    | _ => (rt, .going { task with program := next })
  | .within millis next =>
    let time := HasAgenda.now rt.world + millis
    ({ rt with world := HasAgenda.modify (·.setAlarm time task.id) rt.world },
      .going
        { task with program := next false, scopes := .deadline time (next true) :: task.scopes })
  | .leave next =>
    match task.scopes with
    | .deadline time _ :: rest =>
      ({ rt with world := HasAgenda.modify (·.dropAlarm time task.id) rt.world },
        .going { task with program := next, scopes := rest })
    | _ => (rt, .going { task with program := next })
  | .spawn job next =>
    (rt.addTask (rt.perform job), .going { task with program := next rt.nextId })
  | .abort other next => (rt.abortTask other, .going { task with program := next })
  | .loop state body next =>
    (rt, .going
      { task with program := (body state).bind fun r => match r with
          | .inl s => .loop s body next
          | .inr b => next b })

/-- A turn goes on stride by stride until the task waits or ends. -/
theorem turn_succ (fuel : Nat) (rt : Runtime W J) (task : Task W J α) :
    turn (fuel + 1) rt task =
      match rt.stride task with
      | (rt, .ended a) => (rt, .inr a)
      | (rt, .going task) => turn fuel rt task
      | (rt, .waits) => (rt, .inl task) := by
  obtain ⟨id, program, scopes, aborted⟩ := task
  cases program with
  | done a => rfl
  | await poll cancel next =>
      simp only [turn, stride]
      rcases poll id rt.world with ⟨w, _ | b⟩
      · dsimp only
        cases expired? (HasAgenda.now w) scopes with
        | none => rfl
        | some r => rfl
      · rfl
  | hold release next => rfl
  | letGo next =>
      rcases scopes with _ | ⟨_ | _, rest⟩ <;> rfl
  | within millis next => rfl
  | leave next =>
      rcases scopes with _ | ⟨_ | _, rest⟩ <;> rfl
  | spawn job next => rfl
  | abort other next => rfl
  | loop state body next => rfl

/-- The moments of the next stride of a task. -/
def moments (rt : Runtime W J) (task : Task W J α) : List (Moment W J) :=
  match task.program with
  | .await poll _ _ =>
    match poll task.id rt.world with
    | (w, some _) => [.asks task.id task.program rt.world w]
    | (w, none) =>
      match expired? (HasAgenda.now w) task.scopes with
      | none => [.asks task.id task.program rt.world w]
      | some _ => [.asks task.id task.program rt.world w, .givesUp task.id task.program w]
  | _ => []

/-! ## What a stride does -/

/-- From a runtime and a task a stride comes to a runtime, with moments on the way, and leaves so
much of the task. -/
inductive Strode (rt : Runtime W J) (t : TaskId) (aborted : Bool) :
    Program W J α → List (Task.Scope W J α) → Runtime W J → List (Moment W J) → Stride W J α →
      Prop where
  | ended {scopes : List (Task.Scope W J α)} (a : α) :
      Strode rt t aborted (.done a) scopes rt [] (.ended a)
  | answered {β : Type} {poll : TaskId → W → W × Option β} {cancel : TaskId → W → W}
      {next : β → Program W J α} {scopes : List (Task.Scope W J α)} {u : W} {b : β}
      (h : poll t rt.world = (u, some b)) :
      Strode rt t aborted (.await poll cancel next) scopes { rt with world := u }
        [.asks t (.await poll cancel next) rt.world u] (.going ⟨t, next b, scopes, aborted⟩)
  | waits {β : Type} {poll : TaskId → W → W × Option β} {cancel : TaskId → W → W}
      {next : β → Program W J α} {scopes : List (Task.Scope W J α)} {u : W}
      (h : poll t rt.world = (u, none)) (he : expired? (HasAgenda.now u) scopes = none) :
      Strode rt t aborted (.await poll cancel next) scopes { rt with world := u }
        [.asks t (.await poll cancel next) rt.world u] .waits
  /-- A deadline has passed while there was no answer. -/
  | gaveUp {β : Type} {poll : TaskId → W → W × Option β} {cancel : TaskId → W → W}
      {next : β → Program W J α} {scopes inner rest : List (Task.Scope W J α)}
      {late : Program W J α} {u : W} (h : poll t rt.world = (u, none))
      (he : expired? (HasAgenda.now u) scopes = some (inner, late, rest)) :
      Strode rt t aborted (.await poll cancel next) scopes
        { rt with world := unwind t inner (cancel t u) }
        [.asks t (.await poll cancel next) rt.world u, .givesUp t (.await poll cancel next) u]
        (.going ⟨t, late, rest, aborted⟩)
  | hold {scopes : List (Task.Scope W J α)} (release : W → W) (next : Program W J α) :
      Strode rt t aborted (.hold release next) scopes rt []
        (.going ⟨t, next, .held release :: scopes, aborted⟩)
  | released {rest : List (Task.Scope W J α)} (release : W → W) (next : Program W J α) :
      Strode rt t aborted (.letGo next) (.held release :: rest)
        { rt with world := release rt.world } [] (.going ⟨t, next, rest, aborted⟩)
  /-- Nothing is held at this place. -/
  | unheld {scopes : List (Task.Scope W J α)} {next : Program W J α}
      (h : ∀ release rest, scopes ≠ .held release :: rest) :
      Strode rt t aborted (.letGo next) scopes rt [] (.going ⟨t, next, scopes, aborted⟩)
  | within {scopes : List (Task.Scope W J α)} (millis : Nat) (next : Bool → Program W J α) :
      Strode rt t aborted (.within millis next) scopes
        { rt with world :=
            HasAgenda.modify (·.setAlarm (HasAgenda.now rt.world + millis) t) rt.world } []
        (.going ⟨t, next false,
          .deadline (HasAgenda.now rt.world + millis) (next true) :: scopes, aborted⟩)
  | left {rest : List (Task.Scope W J α)} (time : Nat) (late next : Program W J α) :
      Strode rt t aborted (.leave next) (.deadline time late :: rest)
        { rt with world := HasAgenda.modify (·.dropAlarm time t) rt.world } []
        (.going ⟨t, next, rest, aborted⟩)
  /-- There is no deadline at this place. -/
  | unbound {scopes : List (Task.Scope W J α)} {next : Program W J α}
      (h : ∀ time late rest, scopes ≠ .deadline time late :: rest) :
      Strode rt t aborted (.leave next) scopes rt [] (.going ⟨t, next, scopes, aborted⟩)
  | spawn {scopes : List (Task.Scope W J α)} (job : J) (next : TaskId → Program W J α) :
      Strode rt t aborted (.spawn job next) scopes (rt.addTask (rt.perform job)) []
        (.going ⟨t, next rt.nextId, scopes, aborted⟩)
  | abort {scopes : List (Task.Scope W J α)} (other : TaskId) (next : Program W J α) :
      Strode rt t aborted (.abort other next) scopes (rt.abortTask other) []
        (.going ⟨t, next, scopes, aborted⟩)
  | loop {σ β : Type} {scopes : List (Task.Scope W J α)} (state : σ)
      (body : σ → Program W J (σ ⊕ β)) (next : β → Program W J α) :
      Strode rt t aborted (.loop state body next) scopes rt []
        (.going ⟨t, (body state).bind fun r => match r with
          | .inl s => .loop s body next
          | .inr b => next b, scopes, aborted⟩)

theorem strode_stride (rt : Runtime W J) (t : TaskId) (p : Program W J α)
    (scopes : List (Task.Scope W J α)) (aborted : Bool) :
    rt.Strode t aborted p scopes (rt.stride ⟨t, p, scopes, aborted⟩).1
      (rt.moments ⟨t, p, scopes, aborted⟩) (rt.stride ⟨t, p, scopes, aborted⟩).2 := by
  cases p with
  | done a => exact .ended a
  | await poll cancel next =>
      simp only [stride, moments]
      rcases h : poll t rt.world with ⟨u, _ | b⟩
      · dsimp only
        rcases he : expired? (HasAgenda.now u) scopes with _ | ⟨inner, late, rest⟩
        · exact .waits h he
        · exact .gaveUp h he
      · exact .answered h
  | hold release next => exact .hold release next
  | letGo next =>
      rcases scopes with _ | ⟨release | ⟨time, late⟩, rest⟩
      · exact .unheld nofun
      · exact .released release next
      · exact .unheld nofun
  | within millis next => exact .within millis next
  | leave next =>
      rcases scopes with _ | ⟨release | ⟨time, late⟩, rest⟩
      · exact .unbound nofun
      · exact .unbound nofun
      · exact .left time late next
  | spawn job next => exact .spawn job next
  | abort other next => exact .abort other next
  | loop state body next => exact .loop state body next

variable {rt rt' : Runtime W J} {task : Task W J α} {r : Stride W J α} {m : Moment W J}

theorem strode (h : rt.stride task = (rt', r)) :
    ∃ moments, rt.moments task = moments ∧
      rt.Strode task.id task.aborted task.program task.scopes rt' moments r := by
  have hstrode := rt.strode_stride task.id task.program task.scopes task.aborted
  change rt.Strode _ _ _ _ (rt.stride task).1 (rt.moments task) (rt.stride task).2 at hstrode
  rw [h] at hstrode
  exact ⟨_, rfl, hstrode⟩

namespace Strode

variable {t : TaskId} {aborted : Bool} {p : Program W J α} {scopes : List (Task.Scope W J α)}
  {moments : List (Moment W J)}

/-- A task stays the same one. -/
theorem going_id {next : Task W J α} (h : rt.Strode t aborted p scopes rt' moments (.going next)) :
    next.id = t ∧ next.aborted = aborted := by
  cases h <;> exact ⟨rfl, rfl⟩

/-- Only a program that has come to its value ends. -/
theorem of_ended {a : α} (h : rt.Strode t aborted p scopes rt' moments (.ended a)) :
    p = .done a ∧ rt' = rt ∧ moments = [] := by
  cases h
  exact ⟨rfl, rfl, rfl⟩

end Strode

/-- The moments of a stride tell of the task and its whole program. -/
theorem mem_moments (h : m ∈ rt.moments task) :
    m.Faithful ∧ ∃ u, m = .asks task.id task.program rt.world u ∨
      m = .givesUp task.id task.program u := by
  obtain ⟨t, p, scopes, aborted⟩ := task
  rcases hs : rt.stride ⟨t, p, scopes, aborted⟩ with ⟨rt', r⟩
  obtain ⟨moments, hmoments, hstrode⟩ := strode hs
  rw [hmoments] at h
  dsimp only at hstrode ⊢
  have hasks {β : Type} {poll : TaskId → W → W × Option β} {cancel : TaskId → W → W}
      {next : β → Program W J α} {u : W} {b : Option β} (hp : poll t rt.world = (u, b)) :
      (Moment.asks t (.await poll cancel next) rt.world u).Faithful := by
    rintro β poll' cancel' next' ⟨⟩
    exact (congrArg Prod.fst hp).symm
  cases hstrode with
  | answered hp | waits hp _ =>
      obtain rfl := List.mem_singleton.1 h
      exact ⟨hasks hp, _, .inl rfl⟩
  | gaveUp hp _ =>
      rcases List.mem_cons.1 h with rfl | h
      · exact ⟨hasks hp, _, .inl rfl⟩
      · obtain rfl := List.mem_singleton.1 h
        exact ⟨trivial, _, .inr rfl⟩
  | _ => exact nomatch h

end Runtime

end LanguageClient
