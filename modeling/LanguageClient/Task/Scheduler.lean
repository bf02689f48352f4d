import LanguageClient.Task.Program
namespace LanguageClient

/-!
# Schedulers

One thread runs all tasks. A task that is ready has its turn until it waits. The main program has
its turn when no other task is ready, or after `batch` turns of others. When all wait, the clock
turns to the next alarm.
-/

/-- What a task has entered and not yet left. -/
inductive Task.Scope (W J α : Type) : Type 1 where
  | held (release : W → W)
  | deadline (time : Nat) (late : Program W J α)

structure Task (W J α : Type) : Type 1 where
  id : TaskId
  program : Program W J α
  /-- The innermost scope first. -/
  scopes : List (Task.Scope W J α)
  aborted : Bool

/-- All tasks with their world, and what each job makes a new task do. -/
structure Runtime (W J : Type) : Type 1 where
  world : W
  tasks : List (Task W J Unit)
  nextId : TaskId
  perform : J → Program W J Unit

namespace Runtime

variable {W J : Type} [HasAgenda W] {α : Type}

/-- The main program is the task of this number. -/
def mainId : TaskId := 0

/-- The number of turns of other tasks before the main program has one. -/
def batch : Nat := 61

def start (world : W) (perform : J → Program W J Unit) : Runtime W J :=
  ⟨world, [], mainId + 1, perform⟩

/-- Releases what scopes hold and takes back their alarms. -/
def unwind (id : TaskId) : List (Task.Scope W J α) → W → W
  | [], w => w
  | .held release :: rest, w => unwind id rest (release w)
  | .deadline time _ :: rest, w => unwind id rest (HasAgenda.modify (·.dropAlarm time id) w)

/-- The innermost deadline that has passed: the scopes up to it, what comes then, the others. -/
def expired? (now : Nat) : List (Task.Scope W J α) →
    Option (List (Task.Scope W J α) × Program W J α × List (Task.Scope W J α))
  | [] => none
  | .deadline time late :: rest =>
    if time ≤ now then some ([.deadline time late], late, rest)
    else (expired? now rest).map fun r => (.deadline time late :: r.1, r.2.1, r.2.2)
  | scope :: rest => (expired? now rest).map fun r => (scope :: r.1, r.2.1, r.2.2)

/-- Adds a task and makes it ready. -/
def addTask (rt : Runtime W J) (p : Program W J Unit) : Runtime W J :=
  { rt with
    world := HasAgenda.wake rt.nextId rt.world
    tasks := rt.tasks ++ [⟨rt.nextId, p, [], false⟩]
    nextId := rt.nextId + 1 }

/-- Marks a task to be given up at its next turn. -/
def abortTask (rt : Runtime W J) (id : TaskId) : Runtime W J :=
  if rt.tasks.any fun t => t.id == id then
    { rt with
      world := HasAgenda.wake id rt.world
      tasks := rt.tasks.map fun t => if t.id = id then { t with aborted := true } else t }
  else rt

/-- Lets a task go on until it waits or ends: the task as it is then, or its value. -/
def turn : (fuel : Nat) → Runtime W J → Task W J α → Runtime W J × (Task W J α ⊕ α)
  | 0, rt, task => (rt, .inl task)
  | fuel + 1, rt, task =>
    match task.program with
    | .done a => (rt, .inr a)
    | .await poll cancel next =>
      match poll task.id rt.world with
      | (w, some b) => turn fuel { rt with world := w } { task with program := next b }
      | (w, none) =>
        match expired? (HasAgenda.now w) task.scopes with
        | none => ({ rt with world := w }, .inl task)
        | some (inner, late, rest) =>
          turn fuel { rt with world := unwind task.id inner (cancel task.id w) }
            { task with program := late, scopes := rest }
    | .hold release next =>
      turn fuel rt { task with program := next, scopes := .held release :: task.scopes }
    | .letGo next =>
      match task.scopes with
      | .held release :: rest =>
        turn fuel { rt with world := release rt.world }
          { task with program := next, scopes := rest }
      | _ => turn fuel rt { task with program := next }
    | .within millis next =>
      let time := HasAgenda.now rt.world + millis
      turn fuel { rt with world := HasAgenda.modify (·.setAlarm time task.id) rt.world }
        { task with program := next false, scopes := .deadline time (next true) :: task.scopes }
    | .leave next =>
      match task.scopes with
      | .deadline time _ :: rest =>
        turn fuel { rt with world := HasAgenda.modify (·.dropAlarm time task.id) rt.world }
          { task with program := next, scopes := rest }
      | _ => turn fuel rt { task with program := next }
    | .spawn job next =>
      turn fuel (rt.addTask (rt.perform job)) { task with program := next rt.nextId }
    | .abort other next => turn fuel (rt.abortTask other) { task with program := next }
    | .loop state body next =>
      turn fuel rt
        { task with program := (body state).bind fun r => match r with
            | .inl s => .loop s body next
            | .inr b => next b }

/-- Gives up a task: cancels its wait and releases what it holds. -/
def giveUp (rt : Runtime W J) (task : Task W J α) : Runtime W J :=
  let w := match task.program with
    | .await _ cancel _ => cancel task.id rt.world
    | _ => rt.world
  { rt with world := unwind task.id task.scopes w }

/-- The most steps of one turn. -/
def turnFuel : Nat := 1000000

/-- Gives a task its turn. -/
def runTask (rt : Runtime W J) (id : TaskId) : Runtime W J :=
  match rt.tasks.find? fun t => t.id == id with
  | none => rt
  | some task =>
    let others := { rt with tasks := rt.tasks.filter fun t => t.id != id }
    if task.aborted then others.giveUp task
    else
      match turn turnFuel others task with
      | (rt, .inr _) => rt
      | (rt, .inl task) => { rt with tasks := task :: rt.tasks }

def isRunning (rt : Runtime W J) (id : TaskId) : Bool := rt.tasks.any fun t => t.id == id

/-- Takes the next ready task: another than the main program, if there is one and `quota` allows. -/
def next? (rt : Runtime W J) (quota : Nat) : Option (TaskId × Runtime W J) :=
  let a := HasAgenda.agenda rt.world
  let first := a.take? fun t => decide (t = mainId) == decide (quota = 0)
  (first.or (a.take? fun _ => true)).map fun r =>
    (r.1, { rt with world := HasAgenda.setAgenda r.2 rt.world })

/-- Runs tasks and the main program, turning the clock when all wait, until the main program has a
value; nothing if that never happens. `quota` is how many turns others have before it. -/
def runMain : (fuel : Nat) → (quota : Nat) → Runtime W J → Task W J α → Runtime W J × Option α
  | 0, _, rt, _ => (rt, none)
  | fuel + 1, quota, rt, main =>
    match rt.next? quota with
    | some (id, rt) =>
      if id = mainId then
        match turn turnFuel rt main with
        | (rt, .inr a) => (rt, some a)
        | (rt, .inl main) => runMain fuel batch rt main
      else runMain fuel (if quota = 0 then batch - 1 else quota - 1) (rt.runTask id) main
    | none =>
      match (HasAgenda.agenda rt.world).nextAlarm? with
      | some time =>
        runMain fuel 0 { rt with world := HasAgenda.modify (·.turnTo time) rt.world } main
      | none => (rt, none)

/-- The most turns of one run. -/
def runFuel : Nat := 1000000

/-- Runs a main program to its value, other tasks in between; it has the first turn. -/
def run (rt : Runtime W J) (p : Program W J α) : Runtime W J × Option α :=
  runMain runFuel 0 { rt with world := HasAgenda.wake mainId rt.world } ⟨mainId, p, [], false⟩

/-- Lets all tasks run until none can go on; this takes a millisecond. -/
def settle (rt : Runtime W J) : Runtime W J := (rt.run (Program.sleep 1)).1

end Runtime

end LanguageClient
