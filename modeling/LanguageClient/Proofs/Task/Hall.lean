import LanguageClient.Proofs.Task.Stride
namespace LanguageClient

/-!
# Halls

The tasks of a runtime and, beside them, calls, which are tasks that come to a value. They take
their strides in any order. At any time a task that waits can be dropped, a call or a job can begin
and the world can change from outside.
-/

namespace Runtime

variable {W J : Type} [HasAgenda W] {α : Type}

/-- What holds of the task holds of what it gives up. -/
theorem of_givesUp_mem {rt : Runtime W J} {task : Task W J α}
    (P : {β : Type} → TaskId → Program W J β → Prop) (h : P task.id task.program) {β : Type}
    {t : TaskId} {p : Program W J β} {w : W} (hm : .givesUp t p w ∈ rt.moments task) : P t p := by
  obtain ⟨-, u, hm | hm⟩ := mem_moments hm
  · cases hm
  · cases hm
    exact h

end Runtime

/-- A call with its task, which comes to a value of the call's own kind. -/
structure Hall.Call (W J : Type) {L : Type} (Out : L → Type) : Type 1 where
  name : L
  task : Task W J (Out name)

structure Hall (W J : Type) {L : Type} (Out : L → Type) : Type 1 where
  runtime : Runtime W J
  calls : List (Hall.Call W J Out)

/-- What can begin in a hall, and how the world changes from outside. -/
structure Hall.Rules (W J : Type) {L : Type} (Out : L → Type) : Type 1 where
  call : (name : L) → Program W J (Out name)
  mayStart : J → Prop
  outside : W → W → Prop

namespace Hall

variable {W J L : Type} {Out : L → Type}

def world (c : Hall W J Out) : W := c.runtime.world

/-- The numbers of all tasks. -/
def ids (c : Hall W J Out) : List TaskId := c.runtime.tasks.map Task.id ++ c.calls.map (·.task.id)

/-- One of the tasks is so. -/
def Has (c : Hall W J Out) (P : {α : Type} → Task W J α → Prop) : Prop :=
  (∃ task ∈ c.runtime.tasks, P task) ∨ ∃ call ∈ c.calls, P call.task

theorem Has.mono {c : Hall W J Out} {P Q : {α : Type} → Task W J α → Prop} (h : c.Has P)
    (hPQ : ∀ {α : Type} (task : Task W J α), P task → Q task) : c.Has Q :=
  h.imp (fun ⟨task, ht, hp⟩ => ⟨task, ht, hPQ task hp⟩) fun ⟨call, hc, hp⟩ =>
    ⟨call, hc, hPQ call.task hp⟩

/-- A task of a hall, the runtime without it, and the hall with what is left of the task. -/
inductive Focus (c : Hall W J Out) :
    {α : Type} → Task W J α → Runtime W J →
      (List (Task W J α) → Runtime W J → Hall W J Out) → Prop where
  | task {front back : List (Task W J Unit)} {task : Task W J Unit}
      (h : c.runtime.tasks = front ++ task :: back) :
      Focus c task { c.runtime with tasks := front ++ back } fun left rt =>
        { c with runtime := { rt with tasks := left ++ rt.tasks } }
  | call {front back : List (Call W J Out)} {name : L} {task : Task W J (Out name)}
      (h : c.calls = front ++ ⟨name, task⟩ :: back) :
      Focus c task c.runtime fun left rt => ⟨rt, front ++ left.map (Call.mk name) ++ back⟩

variable [HasAgenda W]

/-- Begins a call under the next number. -/
def begin_ (c : Hall W J Out) (name : L) (p : Program W J (Out name)) : Hall W J Out :=
  ⟨{ c.runtime with nextId := c.runtime.nextId + 1 },
    c.calls ++ [⟨name, ⟨c.runtime.nextId, p, [], false⟩⟩]⟩

inductive Step (rules : Rules W J Out) :
    Hall W J Out → List (Moment W J) → Hall W J Out → Prop where
  | went {c : Hall W J Out} {α : Type} {task next : Task W J α} {rt rt' : Runtime W J}
      {put : List (Task W J α) → Runtime W J → Hall W J Out} (f : c.Focus task rt put)
      (h : rt.stride task = (rt', .going next)) : Step rules c (rt.moments task) (put [next] rt')
  | waited {c : Hall W J Out} {α : Type} {task : Task W J α} {rt rt' : Runtime W J}
      {put : List (Task W J α) → Runtime W J → Hall W J Out} (f : c.Focus task rt put)
      (h : rt.stride task = (rt', .waits)) : Step rules c (rt.moments task) (put [task] rt')
  | ended {c : Hall W J Out} {α : Type} {task : Task W J α} {rt rt' : Runtime W J} {a : α}
      {put : List (Task W J α) → Runtime W J → Hall W J Out} (f : c.Focus task rt put)
      (h : rt.stride task = (rt', .ended a)) : Step rules c [] (put [] rt')
  /-- A task that awaits something can be dropped. -/
  | dropped {c : Hall W J Out} {α β : Type} {task : Task W J α} {rt : Runtime W J}
      {put : List (Task W J α) → Runtime W J → Hall W J Out} {poll : TaskId → W → W × Option β}
      {cancel : TaskId → W → W} {next : β → Program W J α} (f : c.Focus task rt put)
      (h : task.program = .await poll cancel next) :
      Step rules c [.givesUp task.id task.program rt.world] (put [] (rt.giveUp task))
  | called {c : Hall W J Out} (name : L) : Step rules c [] (c.begin_ name (rules.call name))
  | started {c : Hall W J Out} {job : J} (h : rules.mayStart job) :
      Step rules c [] { c with runtime := c.runtime.addTask (c.runtime.perform job) }
  | changed {c : Hall W J Out} {w : W} (h : rules.outside c.world w) :
      Step rules c [] { c with runtime := { c.runtime with world := w } }

/-- Any number of steps: the halls on the way, all moments, and the hall at the end. -/
inductive Run (rules : Rules W J Out) (c : Hall W J Out) :
    List (Hall W J Out) → List (Moment W J) → Hall W J Out → Prop where
  | start : Run rules c [] [] c
  | step {visited : List (Hall W J Out)} {past moments : List (Moment W J)} {d e : Hall W J Out}
      (r : Run rules c visited past d) (s : Step rules d moments e) :
      Run rules c (visited ++ [d]) (past ++ moments) e

theorem Step.faithful {rules : Rules W J Out} {c d : Hall W J Out} {moments : List (Moment W J)}
    (s : Step rules c moments d) {m : Moment W J} (h : m ∈ moments) : m.Faithful := by
  cases s with
  | went _ _ => exact (Runtime.mem_moments h).1
  | waited _ _ => exact (Runtime.mem_moments h).1
  | dropped _ _ =>
      obtain rfl := List.mem_singleton.1 h
      trivial
  | _ => exact nomatch h

theorem Run.faithful {rules : Rules W J Out} {c d : Hall W J Out} {visited : List (Hall W J Out)}
    {past : List (Moment W J)} (r : Run rules c visited past d) {m : Moment W J} (h : m ∈ past) :
    m.Faithful := by
  induction r with
  | start => exact nomatch h
  | step r s ih =>
      rcases List.mem_append.1 h with h | h
      · exact ih h
      · exact s.faithful h

/-- The run up to a hall on the way. -/
theorem Run.of_mem {rules : Rules W J Out} {c d e : Hall W J Out} {visited : List (Hall W J Out)}
    {past : List (Moment W J)} (r : Run rules c visited past d) (h : e ∈ visited ++ [d]) :
    ∃ visited' past' later, Run rules c visited' past' e ∧ past = past' ++ later := by
  induction r with
  | start =>
      obtain rfl : e = c := by simpa using h
      exact ⟨_, _, [], .start, rfl⟩
  | @step visited past moments d d' r s ih =>
      rcases List.mem_append.1 h with h | h
      · obtain ⟨visited', past', later, r', rfl⟩ := ih h
        exact ⟨visited', past', later ++ moments, r', List.append_assoc ..⟩
      · obtain rfl := List.mem_singleton.1 h
        exact ⟨_, _, [], .step r s, (List.append_nil _).symm⟩

/-- The run up to the step in which something happened. -/
theorem Run.of_moment {rules : Rules W J Out} {c d : Hall W J Out} {visited : List (Hall W J Out)}
    {past : List (Moment W J)} (r : Run rules c visited past d) {m : Moment W J} (h : m ∈ past) :
    ∃ visited' past' moments e e', Run rules c visited' past' e ∧ Step rules e moments e' ∧
      m ∈ moments ∧ e' ∈ visited ++ [d] := by
  induction r with
  | start => exact nomatch h
  | @step visited past moments d d' r s ih =>
      rcases List.mem_append.1 h with h | h
      · obtain ⟨visited', past', moments', e, e', r', s', hm, he⟩ := ih h
        exact ⟨visited', past', moments', e, e', r', s', hm, List.mem_append_left _ he⟩
      · exact ⟨_, _, moments, d, d', r, s, h, List.mem_append_right _ (List.mem_singleton_self _)⟩

end Hall

end LanguageClient
