import LanguageClient.Proofs.Task.Solo
import LanguageClient.Proofs.Task.Turn
namespace LanguageClient

/-!
# Plays

A walk that is told by cues can be run: the next task has its turn, a call begins, or the world
changes in a way that is known. `Hall.play` gives up where a turn does not come to an end, and so does
`Runtime.attend` with a solo run.
-/

namespace Runtime

variable {W J : Type} [HasAgenda W] {α : Type}

/-- A turn up to where the task waits or ends, if it does so after some strides. -/
def finish : Nat → Runtime W J → Task W J α →
    Option (List (Moment W J) × Runtime W J × List (Task W J α))
  | 0, _, _ => none
  | n + 1, rt, task =>
    match rt.stride task with
    | (rt', .ended _) => some (rt.moments task, rt', [])
    | (rt', .waits) => some (rt.moments task, rt', [task])
    | (rt', .going next) => (finish n rt' next).map fun r => (rt.moments task ++ r.1, r.2)

theorem turn_of_finish {n : Nat} {rt rt' : Runtime W J} {task : Task W J α}
    {moments : List (Moment W J)} {left : List (Task W J α)}
    (h : rt.finish n task = some (moments, rt', left)) : rt.Turn task moments rt' left := by
  induction n generalizing rt task moments with
  | zero => cases h
  | succ n ih =>
      unfold finish at h
      split at h
      · rename_i hs
        cases h
        exact .ended hs
      · rename_i hs
        cases h
        exact .waits hs
      · rename_i hs
        obtain ⟨r, hr, heq⟩ := Option.map_eq_some_iff.1 h
        obtain ⟨later, rt₁, left₁⟩ := r
        cases heq
        exact .goes hs (ih hr)

/-- A task to its end, if it gets there after some strides. Each time that it waits the world changes
in the next of some ways. -/
def attend : List (W → W) → Nat → Runtime W J → Task W J α → Option (Runtime W J × α)
  | _, 0, _, _ => none
  | changes, n + 1, rt, task =>
    match rt.stride task with
    | (rt', .ended a) => some (rt', a)
    | (rt', .going next) => attend changes n rt' next
    | (rt', .waits) =>
      match changes with
      | [] => none
      | f :: changes => attend changes n { rt' with world := f rt'.world } task

theorem ran_of_attend {outside : W → W → Prop} {changes : List (W → W)}
    (hchanges : ∀ f ∈ changes, ∀ w, outside w (f w)) {n : Nat} {rt rt' : Runtime W J}
    {task : Task W J α} {a : α} (h : rt.attend changes n task = some (rt', a)) :
    ∃ m, Ran outside m rt task rt' a := by
  induction n generalizing changes rt task with
  | zero => cases h
  | succ n ih =>
      unfold attend at h
      split at h
      · rename_i hs
        cases h
        exact ⟨0, .ended hs⟩
      · rename_i hs
        obtain ⟨m, hr⟩ := ih hchanges h
        exact ⟨m + 1, .went hs hr⟩
      · rename_i hs
        cases changes with
        | nil => cases h
        | cons f changes =>
            obtain ⟨m, hr⟩ := ih (fun f' hf => hchanges f' (List.mem_cons_of_mem _ hf)) h
            exact ⟨m + 1, .waited hs (hchanges f List.mem_cons_self _) hr⟩

end Runtime

namespace Hall

variable {W J L : Type} {Out : L → Type} [HasAgenda W]

inductive Cue (W L : Type) where
  | begins (name : L)
  /-- The call in this place has its turn. -/
  | call (place : Nat)
  | task (place : Nat)
  | changes (f : W → W)

/-- The most strides of a turn in a play. -/
def patience : Nat := 400

def playCall (c : Hall W J Out) (place : Nat) : Option (List (Moment W J) × Hall W J Out) :=
  match c.calls.drop place with
  | [] => none
  | ⟨name, task⟩ :: back =>
    if task.aborted then none
    else (c.runtime.finish patience task).map fun r =>
      (r.1, ⟨r.2.1, c.calls.take place ++ r.2.2.map (Call.mk name) ++ back⟩)

def playTask (c : Hall W J Out) (place : Nat) : Option (List (Moment W J) × Hall W J Out) :=
  match c.runtime.tasks.drop place with
  | [] => none
  | task :: back =>
    let rt := { c.runtime with tasks := c.runtime.tasks.take place ++ back }
    if task.aborted then
      some ([.givesUp task.id task.program rt.world], { c with runtime := rt.giveUp task })
    else (rt.finish patience task).map fun r =>
      (r.1, { c with runtime := { r.2.1 with tasks := r.2.2 ++ r.2.1.tasks } })

def playCue (rules : Rules W J Out) (c : Hall W J Out) :
    Cue W L → Option (List (Moment W J) × Hall W J Out)
  | .begins name => some ([], c.begin_ name (rules.call name))
  | .call place => c.playCall place
  | .task place => c.playTask place
  | .changes f => some ([], { c with runtime := { c.runtime with world := f c.world } })

def play (rules : Rules W J Out) (c : Hall W J Out) :
    List (Cue W L) → Option (List (Moment W J) × Hall W J Out)
  | [] => some ([], c)
  | cue :: cues =>
    (c.playCue rules cue).bind fun r => (r.2.play rules cues).map fun q => (r.1 ++ q.1, q.2)

/-- The world may change as the cue tells. -/
def Cue.Allowed (rules : Rules W J Out) : Cue W L → Prop
  | .changes f => ∀ u, rules.outside u (f u)
  | _ => True

variable {rules : Rules W J Out} {c d e : Hall W J Out} {moments past : List (Moment W J)}
  {cues : List (Cue W L)}

/-- A call that is played has its turn. -/
theorem exists_turn_of_playCall {place : Nat} (h : c.playCall place = some (moments, d)) :
    ∃ front back name task rt left, c.calls = front ++ ⟨name, task⟩ :: back ∧
      task.aborted = false ∧ c.runtime.Turn task moments rt left ∧
      d = ⟨rt, front ++ left.map (Call.mk name) ++ back⟩ := by
  unfold playCall at h
  split at h
  · cases h
  · rename_i name task back hdrop
    split at h
    · cases h
    · rename_i ha
      obtain ⟨⟨later, rt, left⟩, hfinish, heq⟩ := Option.map_eq_some_iff.1 h
      cases heq
      refine ⟨_, back, name, task, rt, left, ?_, Bool.eq_false_iff.2 ha,
        Runtime.turn_of_finish hfinish, rfl⟩
      rw [← hdrop, List.take_append_drop]

theorem move_of_playCall {place : Nat} (h : c.playCall place = some (moments, d)) :
    Move rules c moments d := by
  obtain ⟨front, back, name, task, rt, left, hcalls, ha, hturn, rfl⟩ := exists_turn_of_playCall h
  exact .went (.call hcalls) ha hturn

theorem move_of_playTask {place : Nat} (h : c.playTask place = some (moments, d)) :
    Move rules c moments d := by
  unfold playTask at h
  split at h
  · cases h
  · rename_i task back hdrop
    have htasks : c.runtime.tasks = c.runtime.tasks.take place ++ task :: back := by
      rw [← hdrop, List.take_append_drop]
    dsimp only at h
    split at h
    · rename_i ha
      cases h
      exact .dropped (.task htasks) ha
    · rename_i ha
      obtain ⟨r, hr, heq⟩ := Option.map_eq_some_iff.1 h
      obtain ⟨later, rt, left⟩ := r
      cases heq
      exact .went (.task htasks) (Bool.eq_false_iff.2 ha) (Runtime.turn_of_finish hr)

theorem move_of_playCue {cue : Cue W L} (hcue : cue.Allowed rules)
    (h : c.playCue rules cue = some (moments, d)) : Move rules c moments d := by
  cases cue with
  | begins name =>
      cases h
      exact .called name
  | call place => exact move_of_playCall h
  | task place => exact move_of_playTask h
  | changes f =>
      cases h
      exact .changed (hcue c.world)

/-- What is played can happen. -/
theorem Walk.play (w : Walk rules c past d) (hcues : ∀ cue ∈ cues, cue.Allowed rules)
    (h : d.play rules cues = some (moments, e)) : Walk rules c (past ++ moments) e := by
  induction cues generalizing past d moments with
  | nil =>
      cases h
      rw [List.append_nil]
      exact w
  | cons cue cues ih =>
      obtain ⟨r, hr, hrest⟩ := Option.bind_eq_some_iff.1 h
      obtain ⟨q, hq, heq⟩ := Option.map_eq_some_iff.1 hrest
      obtain ⟨first, d'⟩ := r
      obtain ⟨later, e'⟩ := q
      cases heq
      have hmove : Move rules d first d' :=
        move_of_playCue (hcues cue List.mem_cons_self) hr
      rw [← List.append_assoc]
      exact ih (w.move hmove) (fun x hx => hcues x (List.mem_cons_of_mem _ hx)) hq

/-- There is a walk to where a play comes to its end. -/
theorem exists_walk_of_play {P : List (Moment W J) → Hall W J Out → Bool}
    (hcues : ∀ cue ∈ cues, cue.Allowed rules)
    (h : (d.play rules cues).any (fun r => P r.1 r.2) = true) :
    ∃ moments e, Walk rules d moments e ∧ P moments e = true := by
  obtain ⟨⟨moments, e⟩, hplay, hP⟩ := (Option.any_eq_true _ _).1 h
  exact ⟨moments, e, Walk.start.play hcues hplay, hP⟩

end Hall

end LanguageClient
