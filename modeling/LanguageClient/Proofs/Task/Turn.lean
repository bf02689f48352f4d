import LanguageClient.Proofs.Task.Hall
import LanguageClient.Task.Lock
namespace LanguageClient

/-!
# Turns

A program comes to a pause where it awaits something that may not be there. Between two pauses no
other task comes in between: a task that has its turn goes on to the next pause at least, and may go
on past it when what it awaits is there. Only a task that was aborted is dropped, at its next turn.
-/

namespace Program

variable {W J : Type} {α β : Type}

/-- What is asked for is always there. -/
def Prompt (poll : TaskId → W → W × Option β) : Prop := ∀ t w, (poll t w).2.isSome

def Pauses : Program W J α → Prop
  | .await poll _ _ => ¬ Prompt poll
  | _ => False

theorem prompt_act (f : W → W × β) :
    Prompt fun (_ : TaskId) w => let r := f w; (r.1, some r.2) := fun _ _ => rfl

/-- What giving up makes of the world before anything is released. -/
def cancelled (t : TaskId) : Program W J α → W → W
  | .await _ cancel _, w => cancel t w
  | _, w => w

end Program

namespace Runtime

variable {W J : Type} [HasAgenda W] {α : Type}

theorem giveUp_eq (rt : Runtime W J) (task : Task W J α) : rt.giveUp task =
    { rt with world := unwind task.id task.scopes (task.program.cancelled task.id rt.world) } := by
  obtain ⟨id, program, scopes, aborted⟩ := task
  cases program <;> rfl

/-- A task stays the same one. -/
theorem stride_going {rt rt' : Runtime W J} {task next : Task W J α}
    (h : rt.stride task = (rt', .going next)) :
    next.id = task.id ∧ next.aborted = task.aborted := by
  obtain ⟨moments, -, hstrode⟩ := strode h
  exact hstrode.going_id

/-- A turn, with its moments and what is left of the task. -/
inductive Turn : Runtime W J → Task W J α → List (Moment W J) → Runtime W J → List (Task W J α) →
    Prop where
  | ended {rt rt' : Runtime W J} {task : Task W J α} {a : α}
      (h : rt.stride task = (rt', .ended a)) : Turn rt task (rt.moments task) rt' []
  | waits {rt rt' : Runtime W J} {task : Task W J α} (h : rt.stride task = (rt', .waits)) :
      Turn rt task (rt.moments task) rt' [task]
  | pauses {rt rt' : Runtime W J} {task next : Task W J α}
      (h : rt.stride task = (rt', .going next)) (hp : next.program.Pauses) :
      Turn rt task (rt.moments task) rt' [next]
  | goes {rt rt₁ rt' : Runtime W J} {task next : Task W J α} {later : List (Moment W J)}
      {left : List (Task W J α)} (h : rt.stride task = (rt₁, .going next))
      (r : Turn rt₁ next later rt' left) : Turn rt task (rt.moments task ++ later) rt' left

theorem Turn.faithful {rt rt' : Runtime W J} {task : Task W J α} {moments : List (Moment W J)}
    {left : List (Task W J α)} (h : rt.Turn task moments rt' left) {m : Moment W J}
    (hm : m ∈ moments) : m.Faithful := by
  induction h with
  | ended | waits | pauses => exact (mem_moments hm).1
  | goes _ _ ih =>
      rcases List.mem_append.1 hm with hm | hm
      · exact (mem_moments hm).1
      · exact ih hm

/-- A task that goes on and does not pause has not had its turn yet. -/
theorem Turn.of_going {rt rt₁ rt' : Runtime W J} {task next : Task W J α}
    {moments : List (Moment W J)} {left : List (Task W J α)} (h : rt.Turn task moments rt' left)
    (hs : rt.stride task = (rt₁, .going next)) (hp : ¬ next.program.Pauses) :
    ∃ later, rt₁.Turn next later rt' left := by
  cases h with
  | ended h | waits h => cases hs.symm.trans h
  | pauses h hpauses =>
      cases hs.symm.trans h
      exact absurd hpauses hp
  | goes h r =>
      cases hs.symm.trans h
      exact ⟨_, r⟩

theorem Turn.of_waits {rt rt₁ rt' : Runtime W J} {task : Task W J α}
    {moments : List (Moment W J)} {left : List (Task W J α)} (h : rt.Turn task moments rt' left)
    (hs : rt.stride task = (rt₁, .waits)) : rt' = rt₁ ∧ left = [task] := by
  cases h with
  | waits h =>
      cases hs.symm.trans h
      exact ⟨rfl, rfl⟩
  | ended h | pauses h | goes h => cases hs.symm.trans h

theorem Turn.of_ended {rt rt₁ rt' : Runtime W J} {task : Task W J α} {a : α}
    {moments : List (Moment W J)} {left : List (Task W J α)} (h : rt.Turn task moments rt' left)
    (hs : rt.stride task = (rt₁, .ended a)) : rt' = rt₁ ∧ left = [] := by
  cases h with
  | ended h =>
      cases hs.symm.trans h
      exact ⟨rfl, rfl⟩
  | waits h | pauses h | goes h => cases hs.symm.trans h

/-- A task that asks for a lock waits for it or goes on with it. -/
theorem Turn.of_locked {place : Lock.Place W} {body : Program W J α} {rt rt' : Runtime W J}
    {t : TaskId} {aborted : Bool} {moments : List (Moment W J)} {left : List (Task W J α)}
    (h : rt.Turn ⟨t, .locked place body, [], aborted⟩ moments rt' left) :
    (rt'.world = (place.acquire t rt.world).1 ∧ left = [⟨t, .locked place body, [], aborted⟩]) ∨
      ∃ later, Turn { rt with world := (place.acquire t rt.world).1 }
        ⟨t, .holding place.release body, [], aborted⟩ later rt' left := by
  cases hlock : (place.acquire t rt.world).2 with
  | none =>
      have hstride : rt.stride ⟨t, .locked place body, [], aborted⟩ =
          ({ rt with world := (place.acquire t rt.world).1 }, .waits) := by
        simp only [stride, Program.locked]
        rw [← Prod.eta (place.acquire t rt.world), hlock]
        rfl
      obtain ⟨rfl, rfl⟩ := h.of_waits hstride
      exact .inl ⟨rfl, rfl⟩
  | some a =>
      have hstride : rt.stride ⟨t, .locked place body, [], aborted⟩ =
          ({ rt with world := (place.acquire t rt.world).1 },
            .going ⟨t, .holding place.release body, [], aborted⟩) := by
        simp only [stride, Program.locked]
        rw [← Prod.eta (place.acquire t rt.world), hlock]
      exact .inr (h.of_going hstride id)

theorem Turn.of_read {β : Type} {f : W → β} {next : β → Program W J α} {rt rt' : Runtime W J}
    {t : TaskId} {scopes : List (Task.Scope W J α)} {aborted : Bool} {moments : List (Moment W J)}
    {left : List (Task W J α)}
    (h : rt.Turn ⟨t, (Program.read f).bind next, scopes, aborted⟩ moments rt' left)
    (hp : ¬ (next (f rt.world)).Pauses) :
    ∃ later, rt.Turn ⟨t, next (f rt.world), scopes, aborted⟩ later rt' left :=
  h.of_going rfl hp

/-- Where a lock only shows that nothing is to be done, it is given back at once. -/
theorem Turn.of_locked_unless {place : Lock.Place W} {idle : W → Bool} {body : Program W J Unit}
    {rt rt' : Runtime W J} {t : TaskId} {aborted : Bool} {moments : List (Moment W J)}
    {left : List (Task W J Unit)} {p : Program W J Unit}
    (hp : p = .locked place ((Program.read idle).bind fun b => if b then .done () else body))
    (h : rt.Turn ⟨t, p, [], aborted⟩ moments rt' left)
    (hidle : idle (place.acquire t rt.world).1 = true) :
    (rt'.world = (place.acquire t rt.world).1 ∧ left = [⟨t, p, [], aborted⟩]) ∨
      (rt'.world = place.release (place.acquire t rt.world).1 ∧ left = []) := by
  subst hp
  refine h.of_locked.imp_right fun ⟨_, hheld⟩ => ?_
  let next (b : Bool) : Program W J Unit :=
    (if b then .done () else body).bind fun a => .letGo (.done a)
  have hreturn : next (idle (place.acquire t rt.world).1) = .letGo (.done ()) := by
    simp only [next, if_pos hidle, Program.done_bind]
  obtain ⟨_, hreads⟩ : ∃ later, Turn { rt with world := (place.acquire t rt.world).1 }
      ⟨t, (Program.read idle).bind next, [.held place.release], aborted⟩ later rt' left :=
    hheld.of_going rfl fun hp => hp fun _ _ => rfl
  obtain ⟨_, hreturns⟩ := hreads.of_read (by rw [hreturn]; exact id)
  rw [hreturn] at hreturns
  obtain ⟨_, hends⟩ := hreturns.of_going rfl id
  obtain ⟨rfl, rfl⟩ := hends.of_ended rfl
  exact ⟨rfl, rfl⟩

end Runtime

namespace Hall

variable {W J L : Type} {Out : L → Type} [HasAgenda W]

inductive Move (rules : Rules W J Out) :
    Hall W J Out → List (Moment W J) → Hall W J Out → Prop where
  | went {c : Hall W J Out} {α : Type} {task : Task W J α} {rt rt' : Runtime W J}
      {put : List (Task W J α) → Runtime W J → Hall W J Out} {moments : List (Moment W J)}
      {left : List (Task W J α)} (f : c.Focus task rt put) (ha : task.aborted = false)
      (h : rt.Turn task moments rt' left) : Move rules c moments (put left rt')
  | dropped {c : Hall W J Out} {α : Type} {task : Task W J α} {rt : Runtime W J}
      {put : List (Task W J α) → Runtime W J → Hall W J Out} (f : c.Focus task rt put)
      (ha : task.aborted = true) :
      Move rules c [.givesUp task.id task.program rt.world] (put [] (rt.giveUp task))
  | called {c : Hall W J Out} (name : L) : Move rules c [] (c.begin_ name (rules.call name))
  | started {c : Hall W J Out} {job : J} (h : rules.mayStart job) :
      Move rules c [] { c with runtime := c.runtime.addTask (c.runtime.perform job) }
  | changed {c : Hall W J Out} {w : W} (h : rules.outside c.world w) :
      Move rules c [] { c with runtime := { c.runtime with world := w } }

/-- Any number of moves, with all their moments. -/
inductive Walk (rules : Rules W J Out) (c : Hall W J Out) :
    List (Moment W J) → Hall W J Out → Prop where
  | start : Walk rules c [] c
  | move {past moments : List (Moment W J)} {d e : Hall W J Out} (r : Walk rules c past d)
      (m : Move rules d moments e) : Walk rules c (past ++ moments) e

theorem Move.faithful {rules : Rules W J Out} {c d : Hall W J Out} {moments : List (Moment W J)}
    (m : Move rules c moments d) {x : Moment W J} (hx : x ∈ moments) : x.Faithful := by
  cases m with
  | went _ _ h => exact h.faithful hx
  | dropped _ _ =>
      obtain rfl := List.mem_singleton.1 hx
      trivial
  | called | started | changed => cases hx

theorem Walk.faithful {rules : Rules W J Out} {c d : Hall W J Out} {past : List (Moment W J)}
    (w : Walk rules c past d) {x : Moment W J} (hx : x ∈ past) : x.Faithful := by
  induction w with
  | start => cases hx
  | move _ m ih =>
      rcases List.mem_append.1 hx with hx | hx
      · exact ih hx
      · exact m.faithful hx

/-- With more that may happen. -/
theorem Walk.mono {rules rules' : Rules W J Out} {c d : Hall W J Out} {past : List (Moment W J)}
    (w : Walk rules c past d) (hcall : rules'.call = rules.call)
    (hstart : ∀ job, rules.mayStart job → rules'.mayStart job)
    (houtside : ∀ u v, rules.outside u v → rules'.outside u v) : Walk rules' c past d := by
  induction w with
  | start => exact .start
  | move _ m ih =>
      refine ih.move ?_
      cases m with
      | went f ha h => exact .went f ha h
      | dropped f ha => exact .dropped f ha
      | called name =>
          rw [← hcall]
          exact .called name
      | started h => exact .started (hstart _ h)
      | changed h => exact .changed (houtside _ _ h)

theorem Walk.trans {rules : Rules W J Out} {c d e : Hall W J Out} {past later : List (Moment W J)}
    (r : Walk rules c past d) (s : Walk rules d later e) : Walk rules c (past ++ later) e := by
  induction s with
  | start =>
      rw [List.append_nil]
      exact r
  | move _ m ih =>
      rw [← List.append_assoc]
      exact ih.move m

end Hall

end LanguageClient
