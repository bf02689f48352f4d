import LanguageClient.Proofs.Task.Play
import LanguageClient.Proofs.Task.Sparing
namespace LanguageClient

/-!
# Programs that act at once

A program may await something, such as a lock, and then do all that is seen of it before the next
pause. Others see it act at once, so what it keeps by acting is kept in every walk in which nobody
else changes what is seen. Of something that is counted in what is seen, each call adds no more than
one of its turns does.
-/

variable {W J G : Type} [HasAgenda W] {α β : Type}

/-! ## Counting -/

omit [HasAgenda W] in
def Moment.task : Moment W J → TaskId
  | asks t _ _ _ => t
  | givesUp t _ _ => t

namespace View

/-- By how much a count went up while a task was asking for things. -/
def gained (view : View W G) (count : G → Nat) (t : TaskId) : List (Moment W J) → Nat
  | [] => 0
  | m :: later =>
    (if m.task = t then count (view.see m.after) - count (view.see m.before) else 0) +
      view.gained count t later

variable {view : View W G} {count : G → Nat} {t : TaskId}

@[simp] theorem gained_nil : view.gained count t ([] : List (Moment W J)) = 0 := rfl

theorem gained_cons (m : Moment W J) (later : List (Moment W J)) :
    view.gained count t (m :: later) =
      (if m.task = t then count (view.see m.after) - count (view.see m.before) else 0) +
        view.gained count t later := rfl

@[simp] theorem gained_append (past later : List (Moment W J)) :
    view.gained count t (past ++ later) = view.gained count t past + view.gained count t later := by
  induction past with
  | nil => rw [List.nil_append, gained_nil, Nat.zero_add]
  | cons m past ih => rw [List.cons_append, gained_cons, gained_cons, ih, Nat.add_assoc]

theorem gained_eq_zero {moments : List (Moment W J)}
    (h : ∀ m ∈ moments, m.task = t → view.Same m.before m.after) :
    view.gained count t moments = 0 := by
  induction moments with
  | nil => rfl
  | cons m later ih =>
      obtain ⟨hm, hlater⟩ := List.forall_mem_cons.1 h
      rw [gained_cons, ih hlater, Nat.add_zero]
      split
      · rename_i ht
        rw [hm ht, Nat.sub_self]
      · rfl

theorem gained_cons_of_same {m : Moment W J} (h : view.Same m.before m.after)
    (later : List (Moment W J)) :
    view.gained count t (m :: later) = view.gained count t later := by
  rw [gained_cons, h, Nat.sub_self, ite_self, Nat.zero_add]

theorem gained_asks_le {u : TaskId} {p : Program W J β} {w w' : W} {n : Nat}
    (h : count (view.see w') ≤ count (view.see w) + n) :
    view.gained count t [.asks u p w w'] ≤ n := by
  rw [gained_cons, gained_nil, Nat.add_zero]
  split
  · exact Nat.sub_le_iff_le_add'.2 h
  · exact Nat.zero_le n

end View

namespace Runtime

theorem nextId_abortTask (rt : Runtime W J) (t : TaskId) :
    (rt.abortTask t).nextId = rt.nextId := by
  unfold abortTask
  split <;> rfl

theorem Strode.nextId_le {rt rt' : Runtime W J} {t : TaskId} {aborted : Bool} {p : Program W J α}
    {scopes : List (Task.Scope W J α)} {moments : List (Moment W J)} {r : Stride W J α}
    (h : rt.Strode t aborted p scopes rt' moments r) : rt.nextId ≤ rt'.nextId := by
  cases h with
  | spawn job next => exact Nat.le_succ _
  | abort other next => exact Nat.le_of_eq (rt.nextId_abortTask other).symm
  | _ => exact Nat.le_refl _

theorem task_eq_of_mem_moments {rt : Runtime W J} {task : Task W J α} {m : Moment W J}
    (h : m ∈ rt.moments task) : m.task = task.id := by
  obtain ⟨-, u, rfl | rfl⟩ := mem_moments h
  · rfl
  · rfl

variable {rt rt' : Runtime W J} {task : Task W J α} {moments : List (Moment W J)}
  {left : List (Task W J α)}

namespace Turn

theorem nextId_le (h : rt.Turn task moments rt' left) : rt.nextId ≤ rt'.nextId := by
  induction h with
  | ended hs | waits hs | pauses hs _ =>
      obtain ⟨moments, -, hstrode⟩ := strode hs
      exact hstrode.nextId_le
  | goes hs _ ih =>
      obtain ⟨moments, -, hstrode⟩ := strode hs
      exact Nat.le_trans hstrode.nextId_le ih

theorem task_eq (h : rt.Turn task moments rt' left) : ∀ m ∈ moments, m.task = task.id := by
  induction h with
  | ended _ | waits _ | pauses _ _ => exact fun m hm => task_eq_of_mem_moments hm
  | goes hs _ ih =>
      refine List.forall_mem_append.2 ⟨fun m hm => task_eq_of_mem_moments hm, fun m hm => ?_⟩
      exact (ih m hm).trans (stride_going hs).1

/-- Nothing is left of a task, or one that is the same. -/
theorem ids_sublist (h : rt.Turn task moments rt' left) :
    (left.map Task.id).Sublist [task.id] := by
  induction h with
  | ended _ => exact List.nil_sublist _
  | waits _ => exact List.Sublist.refl _
  | pauses hs _ =>
      rw [← (stride_going hs).1]
      exact List.Sublist.refl _
  | goes hs _ ih =>
      rw [← (stride_going hs).1]
      exact ih

/-- After a stride of a task that goes on, its turn is over only at a pause. -/
theorem cases_going {rt₁ : Runtime W J} {next : Task W J α} (h : rt.Turn task moments rt' left)
    (hs : rt.stride task = (rt₁, .going next)) :
    ∃ later, moments = rt.moments task ++ later ∧
      (next.program.Pauses ∧ rt' = rt₁ ∧ left = [next] ∧ later = [] ∨
        rt₁.Turn next later rt' left) := by
  cases h with
  | ended h | waits h => cases hs.symm.trans h
  | pauses h hp =>
      cases hs.symm.trans h
      exact ⟨[], (List.append_nil _).symm, .inl ⟨hp, rfl, rfl, rfl⟩⟩
  | goes h r =>
      cases hs.symm.trans h
      exact ⟨_, rfl, .inr r⟩

end Turn

end Runtime

/-! ## Settling -/

namespace Program

variable (view : View W G) (count : G → Nat) (P : G → Prop)

/-- From a world on, the program does not pause before `P` holds of what is seen, and spares the
view from then on. Until then it adds `n` to the count at most. -/
inductive Settles : Nat → Program W J α → W → Prop where
  | spares {n : Nat} {p : Program W J α} {w : W} (h : p.Spares view) (hw : P (view.see w)) :
      Settles n p w
  | acts {m n : Nat} {β : Type} {f : W → W × β} {k : β → Program W J α} {w : W}
      (hcount : count (view.see (f w).1) ≤ count (view.see w) + m)
      (h : Settles n (k (f w).2) (f w).1) : Settles (m + n) ((act f).bind k) w
  | holds {n : Nat} {release : W → W} {next : Program W J α} {w : W}
      (hrelease : ∀ w, view.Same w (release w)) (h : Settles n next w) :
      Settles n (.hold release next) w
  /-- What was held is released, which nobody sees. -/
  | letsGo {n : Nat} {next : Program W J α} {w : W}
      (h : ∀ w', view.Same w w' → Settles n next w') : Settles n (.letGo next) w

/-- The program acts at once on something that it awaits, if `P` holds when that is there. -/
inductive Poised (n : Nat) : Program W J α → Prop where
  | acts {β : Type} {poll : TaskId → W → W × Option β} {cancel : TaskId → W → W}
      {next : β → Program W J α} (hpoll : ∀ t w, view.Same w (poll t w).1)
      (hcancel : ∀ t w, view.Same w (cancel t w))
      (h : ∀ b w, P (view.see w) → (next b).Settles view count P n w) :
      Poised n (.await poll cancel next)
  | waits {β : Type} {poll : TaskId → W → W × Option β} {cancel : TaskId → W → W}
      {next : β → Program W J α} (hpoll : ∀ t w, view.Same w (poll t w).1)
      (hcancel : ∀ t w, view.Same w (cancel t w)) (h : ∀ b, (next b).Poised n) :
      Poised n (.await poll cancel next)

variable {view count P} {n : Nat}

theorem Settles.of_pauses {p : Program W J α} {w : W} (h : p.Settles view count P n w)
    (hp : p.Pauses) : p.Spares view ∧ P (view.see w) := by
  cases h with
  | spares h hw => exact ⟨h, hw⟩
  | acts _ _ => exact absurd (fun _ _ => rfl) hp
  | holds _ _ | letsGo _ => exact hp.elim

theorem Settles.bind {p : Program W J β} {k : β → Program W J α} {w : W}
    (h : p.Settles view count P n w) (hk : ∀ b, (k b).Spares view) :
    (p.bind k).Settles view count P n w := by
  induction h with
  | spares h hw => exact .spares (h.bind hk) hw
  | acts hcount _ ih =>
      rw [bind_assoc]
      exact .acts hcount ih
  | holds hrelease _ ih => exact .holds hrelease ih
  | letsGo _ ih => exact .letsGo ih

/-- What is not counted takes nothing off the limit. -/
theorem Settles.act {f : W → W × β} {k : β → Program W J α} {w : W}
    (hcount : count (view.see (f w).1) ≤ count (view.see w))
    (h : (k (f w).2).Settles view count P n (f w).1) :
    ((Program.act f).bind k).Settles view count P n w := by
  have hacts := Settles.acts (m := 0) hcount h
  rwa [Nat.zero_add] at hacts

theorem Settles.read {f : W → β} {k : β → Program W J α} {w : W}
    (h : (k (f w)).Settles view count P n w) :
    ((Program.read f).bind k).Settles view count P n w := .act (Nat.le_refl _) h

theorem Settles.modify {f : W → W} {k : Unit → Program W J α} {w : W}
    (hcount : count (view.see (f w)) ≤ count (view.see w))
    (h : (k ()).Settles view count P n (f w)) :
    ((Program.modify f).bind k).Settles view count P n w := .act hcount h

theorem Poised.locked {place : Lock.Place W} {p : Program W J α}
    (hwrite : ∀ lock w, view.Same w (place.write lock w))
    (h : ∀ w, P (view.see w) → p.Settles view count P n w) :
    (Program.locked place p).Poised view count P n := by
  have hwakes (lock : Lock) (ts : List TaskId) (w : W) :
      view.Same w (HasAgenda.wakeAll ts (place.write lock w)) :=
    (view.see_wakeAll _ _).trans (hwrite lock w)
  refine .acts (fun _ w => hwrite _ w) (fun _ w => hwakes _ _ w) fun _ w hw => ?_
  exact .holds (fun w => hwakes _ _ w) ((h w hw).bind fun _ => spares_done _)

/-- A lock that is given back before anything is seen. -/
theorem Poised.locked_bind {place : Lock.Place W} {f : W → β} {k : β → Program W J α}
    (hwrite : ∀ lock w, view.Same w (place.write lock w))
    (h : ∀ w w', P (view.see w') → view.Same w w' → (k (f w)).Settles view count P n w') :
    ((Program.locked place (Program.read f)).bind k).Poised view count P n := by
  have hwakes (lock : Lock) (ts : List TaskId) (w : W) :
      view.Same w (HasAgenda.wakeAll ts (place.write lock w)) :=
    (view.see_wakeAll _ _).trans (hwrite lock w)
  refine .acts (fun _ w => hwrite _ w) (fun _ w => hwakes _ _ w) fun _ w hw => ?_
  have hreads : (((Program.read f).bind fun a => .letGo (.done a)).bind k).Settles view count P n
      w := by
    rw [Program.bind_assoc]
    exact .read (.letsGo fun w' hsame => h w w' (hsame ▸ hw) hsame)
  exact .holds (fun w => hwakes _ _ w) hreads

end Program

namespace Runtime

variable {view : View W G} {count : G → Nat} {P : G → Prop} {n : Nat} {rt rt' : Runtime W J}
  {t : TaskId} {p : Program W J α} {scopes : List (Task.Scope W J α)} {aborted : Bool}
  {moments : List (Moment W J)} {left : List (Task W J α)}

/-- The task has acted: `P` holds of what is seen, and what is left spares the view. -/
structure Settled (view : View W G) (count : G → Nat) (P : G → Prop) (n : Nat)
    (moments : List (Moment W J)) (rt' : Runtime W J) (left : List (Task W J α)) : Prop where
  holds : P (view.see rt'.world)
  left : ∀ next ∈ left, next.Spares view
  gained (t : TaskId) : view.gained count t moments ≤ n

theorem Turn.settled {w : W} (h : rt.Turn ⟨t, p, scopes, aborted⟩ moments rt' left)
    (hp : p.Settles view count P n w) (hw : rt.world = w)
    (hscopes : ∀ scope ∈ scopes, scope.Spares view) : Settled view count P n moments rt' left := by
  -- Each constructor is one stride of the turn. If the turn is over after it, the program pauses.
  induction hp generalizing rt scopes moments with
  | spares hp hP =>
      obtain ⟨hsame, hmoments, hleft⟩ := h.spared ⟨hp, hscopes⟩
      refine ⟨hsame ▸ hw ▸ hP, hleft, fun t => ?_⟩
      rw [View.gained_eq_zero fun m hm _ => hmoments m hm]
      exact Nat.zero_le _
  | @acts m n β f k w hcount hp ih =>
      subst hw
      have hs : rt.stride ⟨t, (Program.act f).bind k, scopes, aborted⟩ =
        ({ rt with world := (f rt.world).1 }, .going ⟨t, k (f rt.world).2, scopes, aborted⟩) := rfl
      obtain ⟨later, rfl, hthen⟩ := h.cases_going hs
      have hasked (t' : TaskId) : view.gained count t' (rt.moments
          ⟨t, (Program.act f).bind k, scopes, aborted⟩) ≤ m := View.gained_asks_le hcount
      rcases hthen with ⟨hpauses, rfl, rfl, rfl⟩ | hturn
      · obtain ⟨hspares, hP⟩ := hp.of_pauses hpauses
        refine ⟨hP, List.forall_mem_singleton.2 ⟨hspares, hscopes⟩, fun t' => ?_⟩
        rw [List.append_nil]
        exact Nat.le_trans (hasked t') (Nat.le_add_right m n)
      · obtain ⟨hP, hleft, hgained⟩ := ih hturn rfl hscopes
        refine ⟨hP, hleft, fun t' => ?_⟩
        rw [View.gained_append]
        exact Nat.add_le_add (hasked t') (hgained t')
  | @holds n release next w hrelease hp ih =>
      have hall : ∀ scope ∈ Task.Scope.held release :: scopes, scope.Spares view :=
        List.forall_mem_cons.2 ⟨hrelease, hscopes⟩
      have hs : rt.stride ⟨t, .hold release next, scopes, aborted⟩ =
        (rt, .going ⟨t, next, .held release :: scopes, aborted⟩) := rfl
      obtain ⟨later, rfl, hthen⟩ := h.cases_going hs
      rcases hthen with ⟨hpauses, rfl, rfl, rfl⟩ | hturn
      · obtain ⟨hspares, hP⟩ := hp.of_pauses hpauses
        exact ⟨hw ▸ hP, List.forall_mem_singleton.2 ⟨hspares, hall⟩, fun _ => Nat.zero_le _⟩
      · exact ih hturn hw hall
  | @letsGo n next w hp ih =>
      subst hw
      -- Whatever stands innermost, the world is seen as before and the scopes still spare the view.
      obtain ⟨w', scopes', hs, hsame, hscopes'⟩ : ∃ w' scopes',
          rt.stride ⟨t, .letGo next, scopes, aborted⟩ =
            ({ rt with world := w' }, .going ⟨t, next, scopes', aborted⟩) ∧
          view.Same rt.world w' ∧ ∀ scope ∈ scopes', scope.Spares view := by
        rcases scopes with _ | ⟨release | ⟨time, late⟩, rest⟩
        · exact ⟨rt.world, [], rfl, rfl, hscopes⟩
        · obtain ⟨hrelease, hrest⟩ := List.forall_mem_cons.1 hscopes
          exact ⟨release rt.world, rest, rfl, hrelease rt.world, hrest⟩
        · exact ⟨rt.world, _, rfl, rfl, hscopes⟩
      obtain ⟨later, rfl, hthen⟩ := h.cases_going hs
      rcases hthen with ⟨hpauses, rfl, rfl, rfl⟩ | hturn
      · obtain ⟨hspares, hP⟩ := (hp w' hsame).of_pauses hpauses
        exact ⟨hP, List.forall_mem_singleton.2 ⟨hspares, hscopes'⟩, fun _ => Nat.zero_le _⟩
      · exact ih w' hsame hturn rfl hscopes'

/-- A task that asks for something waits for it or goes on with it. -/
theorem Turn.of_await {poll : TaskId → W → W × Option β} {cancel : TaskId → W → W}
    {next : β → Program W J α}
    (h : rt.Turn ⟨t, .await poll cancel next, [], aborted⟩ moments rt' left) :
    (rt'.world = (poll t rt.world).1 ∧ left = [⟨t, .await poll cancel next, [], aborted⟩] ∧
        moments = [.asks t (.await poll cancel next) rt.world (poll t rt.world).1]) ∨
      ∃ b later,
        moments = .asks t (.await poll cancel next) rt.world (poll t rt.world).1 :: later ∧
        ((next b).Pauses ∧ rt' = { rt with world := (poll t rt.world).1 } ∧
            left = [⟨t, next b, [], aborted⟩] ∧ later = [] ∨
          Turn { rt with world := (poll t rt.world).1 } ⟨t, next b, [], aborted⟩ later rt'
            left) := by
  rcases hasked : poll t rt.world with ⟨u, _ | b⟩
  · have hs : rt.stride ⟨t, .await poll cancel next, [], aborted⟩ =
        ({ rt with world := u }, .waits) := by simp [stride, hasked, expired?]
    have hm : rt.moments ⟨t, .await poll cancel next, [], aborted⟩ =
        [.asks t (.await poll cancel next) rt.world u] := by
      simp [Runtime.moments, hasked, expired?]
    cases h with
    | waits h =>
        cases hs.symm.trans h
        exact .inl ⟨rfl, rfl, hm⟩
    | ended h | pauses h | goes h => cases hs.symm.trans h
  · have hs : rt.stride ⟨t, .await poll cancel next, [], aborted⟩ =
        ({ rt with world := u }, .going ⟨t, next b, [], aborted⟩) := by simp [stride, hasked]
    have hm : rt.moments ⟨t, .await poll cancel next, [], aborted⟩ =
        [.asks t (.await poll cancel next) rt.world u] := by simp [Runtime.moments, hasked]
    obtain ⟨later, hmoments, hthen⟩ := h.cases_going hs
    rw [hm] at hmoments
    exact .inr ⟨b, later, hmoments, hthen⟩

/-- A poised task still waits after its turn, or has acted in it. -/
theorem Turn.poised (h : rt.Turn ⟨t, p, [], aborted⟩ moments rt' left)
    (hp : p.Poised view count P n) (hw : P (view.see rt.world)) :
    (view.Same rt.world rt'.world ∧ (∀ m ∈ moments, view.Same m.before m.after) ∧
      ∃ q, q.Poised view count P n ∧ left = [⟨t, q, [], aborted⟩]) ∨
    Settled view count P n moments rt' left := by
  -- By how often it waits. Until it has waited for the last time nothing is seen to change.
  induction hp generalizing rt moments with
  | @acts β poll cancel next hpoll hcancel hnext =>
      have hsame := hpoll t rt.world
      rcases h.of_await with ⟨hworld, rfl, rfl⟩ | ⟨b, later, rfl, hthen⟩
      · exact .inl ⟨hworld ▸ hsame, List.forall_mem_singleton.2 hsame, _,
          .acts hpoll hcancel hnext, rfl⟩
      have hsettles := hnext b (poll t rt.world).1 (hsame ▸ hw)
      rcases hthen with ⟨hpauses, rfl, rfl, rfl⟩ | hturn
      · obtain ⟨hspares, hP⟩ := hsettles.of_pauses hpauses
        refine .inr ⟨hP, List.forall_mem_singleton.2 ⟨hspares, List.forall_mem_nil _⟩, fun t' => ?_⟩
        rw [View.gained_cons_of_same hsame]
        exact Nat.zero_le _
      · obtain ⟨hP, hleft, hlater⟩ := hturn.settled hsettles rfl (List.forall_mem_nil _)
        refine .inr ⟨hP, hleft, fun t' => ?_⟩
        rw [View.gained_cons_of_same hsame]
        exact hlater t'
  | @waits β poll cancel next hpoll hcancel hnext ih =>
      have hsame := hpoll t rt.world
      rcases h.of_await with ⟨hworld, rfl, rfl⟩ | ⟨b, later, rfl, hthen⟩
      · exact .inl ⟨hworld ▸ hsame, List.forall_mem_singleton.2 hsame, _,
          .waits hpoll hcancel hnext, rfl⟩
      rcases hthen with ⟨-, rfl, rfl, rfl⟩ | hturn
      · exact .inl ⟨hsame, List.forall_mem_singleton.2 hsame, _, hnext b, rfl⟩
      rcases ih b hturn (hsame ▸ hw) with ⟨hthere, hlater, hleft⟩ | ⟨hP, hleft, hlater⟩
      · exact .inl ⟨hthere.trans hsame, List.forall_mem_cons.2 ⟨hsame, hlater⟩, hleft⟩
      · refine .inr ⟨hP, hleft, fun t' => ?_⟩
        rw [View.gained_cons_of_same hsame]
        exact hlater t'

end Runtime

/-! ## Walks -/

namespace Hall

variable {L : Type} {Out : L → Type} {view : View W G} {count : G → Nat} {P : G → Prop}
  {limit : L → Nat} {rules : Rules W J Out} {c d : Hall W J Out} {past moments : List (Moment W J)}

/-- A walk in which nobody but the calls changes what is seen. -/
inductive Reserved (view : View W G) (rules : Rules W J Out) (c : Hall W J Out) :
    List (Moment W J) → Hall W J Out → Prop where
  | start : Reserved view rules c [] c
  | turn {past moments : List (Moment W J)} {d : Hall W J Out} {front back : List (Call W J Out)}
      {name : L} {task : Task W J (Out name)} {rt : Runtime W J} {left : List (Task W J (Out name))}
      (w : Reserved view rules c past d) (hcalls : d.calls = front ++ ⟨name, task⟩ :: back)
      (ha : task.aborted = false) (h : d.runtime.Turn task moments rt left) :
      Reserved view rules c (past ++ moments) ⟨rt, front ++ left.map (Call.mk name) ++ back⟩
  | move {past moments : List (Moment W J)} {d e : Hall W J Out}
      (w : Reserved view rules c past d) (m : Move rules d moments e)
      (hsame : view.Same d.world e.world) (hmoments : ∀ m ∈ moments, view.Same m.before m.after) :
      Reserved view rules c (past ++ moments) e

/-- A call that is yet to act, or that has acted within its limit. -/
inductive Call.Within (view : View W G) (count : G → Nat) (P : G → Prop) (limit : L → Nat)
    (past : List (Moment W J)) (call : Call W J Out) : Prop where
  | poised (hp : call.task.program.Poised view count P (limit call.name))
      (hs : call.task.scopes = []) (h : view.gained count call.task.id past = 0)
  | spares (hp : call.task.Spares view)
      (h : view.gained count call.task.id past ≤ limit call.name)

theorem Call.Within.append {call : Call W J Out} (h : call.Within view count P limit past)
    (hm : view.gained count call.task.id moments = 0) :
    call.Within view count P limit (past ++ moments) := by
  have heq : view.gained count call.task.id (past ++ moments) =
      view.gained count call.task.id past := by
    rw [View.gained_append, hm, Nat.add_zero]
  cases h with
  | poised hp hs h => exact .poised hp hs (heq.trans h)
  | spares hp h => exact .spares hp (heq ▸ h)

/-- What a turn of a call makes of it, and of what is seen. -/
theorem Call.Within.turn {name : L} {task : Task W J (Out name)} {rt rt' : Runtime W J}
    {left : List (Task W J (Out name))} (h : Call.Within view count P limit past ⟨name, task⟩)
    (hw : P (view.see rt.world)) (hturn : rt.Turn task moments rt' left) :
    P (view.see rt'.world) ∧
      (∀ next ∈ left, Call.Within view count P limit (past ++ moments) ⟨name, next⟩) ∧
      view.gained count task.id (past ++ moments) ≤ limit name := by
  have hids := hturn.id_eq
  rw [View.gained_append]
  cases h with
  | poised hp hs h =>
      obtain ⟨t, p, scopes, aborted⟩ := task
      dsimp only at hp hs h hids
      subst hs
      dsimp only
      rcases hturn.poised hp hw with ⟨hsame, hmoments, q, hq, rfl⟩ | ⟨hP, hleft, hgained⟩
      · have hzero : view.gained count t moments = 0 :=
          View.gained_eq_zero fun m hm _ => hmoments m hm
        rw [h, hzero]
        refine ⟨hsame ▸ hw, List.forall_mem_singleton.2 (.poised hq rfl ?_), Nat.zero_le _⟩
        rw [View.gained_append, h, hzero]
      · rw [h, Nat.zero_add]
        refine ⟨hP, fun next hn => .spares (hleft next hn) ?_, hgained t⟩
        rw [hids next hn, View.gained_append, h, Nat.zero_add]
        exact hgained t
  | spares hp h =>
      dsimp only at hp h
      obtain ⟨hsame, hmoments, hleft⟩ := hturn.spared hp
      have hzero : view.gained count task.id moments = 0 :=
        View.gained_eq_zero fun m hm _ => hmoments m hm
      rw [hzero]
      refine ⟨hsame ▸ hw, fun next hn => .spares (hleft next hn) ?_, h⟩
      rw [hids next hn, View.gained_append, hzero]
      exact h

/-- What is kept in a walk in which nobody but the calls changes what is seen. -/
structure Kept (view : View W G) (count : G → Nat) (P : G → Prop) (limit : L → Nat)
    (past : List (Moment W J)) (d : Hall W J Out) : Prop where
  seen : P (view.see d.world)
  calls : ∀ call ∈ d.calls, call.Within view count P limit past
  distinct : (d.calls.map (·.task.id)).Nodup
  lt : ∀ call ∈ d.calls, call.task.id < d.runtime.nextId
  unborn {t : TaskId} : d.runtime.nextId ≤ t → view.gained count t past = 0

namespace Kept

theorem turn {front back : List (Call W J Out)} {name : L} {task : Task W J (Out name)}
    {rt : Runtime W J} {left : List (Task W J (Out name))} (h : d.Kept view count P limit past)
    (hcalls : d.calls = front ++ ⟨name, task⟩ :: back)
    (hturn : d.runtime.Turn task moments rt left) :
    Kept view count P limit (past ++ moments) ⟨rt, front ++ left.map (Call.mk name) ++ back⟩ := by
  obtain ⟨hseen, hwithin, hdistinct, hlt, hunborn⟩ := h
  have hold : d.calls.Perm (⟨name, task⟩ :: (front ++ back)) := hcalls ▸ List.perm_middle
  have hnew : (front ++ left.map (Call.mk name) ++ back).Perm
      (left.map (Call.mk name) ++ (front ++ back)) := by
    rw [← List.append_assoc]
    exact List.perm_append_comm.append_right back
  have hnodup := (hold.map (·.task.id)).nodup_iff.1 hdistinct
  obtain ⟨hP, hleft, -⟩ := (hwithin _ (hold.mem_iff.2 List.mem_cons_self)).turn hseen hturn
  have hlttask := hlt _ (hold.mem_iff.2 List.mem_cons_self)
  have hnext := hturn.nextId_le
  -- The other calls have tasks of their own, so that this turn adds nothing to what they gained.
  have hothers {t : TaskId} (ht : t ≠ task.id) : view.gained count t moments = 0 :=
    View.gained_eq_zero fun m hm heq => absurd (heq.symm.trans (hturn.task_eq m hm)) ht
  have hmem {call : Call W J Out}
      (hcall : call ∈ front ++ left.map (Call.mk name) ++ back) :
      (∃ next ∈ left, call = ⟨name, next⟩) ∨ call ∈ d.calls ∧ call.task.id ≠ task.id := by
    rcases List.mem_append.1 (hnew.mem_iff.1 hcall) with hcall | hcall
    · obtain ⟨next, hn, rfl⟩ := List.mem_map.1 hcall
      exact .inl ⟨next, hn, rfl⟩
    · refine .inr ⟨hold.mem_iff.2 (List.mem_cons_of_mem _ hcall), fun heq => ?_⟩
      exact (List.nodup_cons.1 hnodup).1 (List.mem_map.2 ⟨call, hcall, heq⟩)
  refine ⟨hP, fun call hcall => ?_, ?_, fun call hcall => ?_, fun ht => ?_⟩
  · rcases hmem hcall with ⟨next, hn, rfl⟩ | ⟨hcall, hne⟩
    · exact hleft next hn
    · exact (hwithin call hcall).append (hothers hne)
  · rw [(hnew.map _).nodup_iff, List.map_append, List.map_map]
    exact hnodup.sublist (hturn.ids_sublist.append_right _)
  · rcases hmem hcall with ⟨next, hn, rfl⟩ | ⟨hcall, -⟩
    · exact Nat.lt_of_lt_of_le ((hturn.id_eq next hn).symm ▸ hlttask) hnext
    · exact Nat.lt_of_lt_of_le (hlt call hcall) hnext
  · have ht := Nat.le_trans hnext ht
    rw [View.gained_append, hunborn ht,
      hothers (Nat.ne_of_gt (Nat.lt_of_lt_of_le hlttask ht))]

/-- Nothing that is seen changes, and of the calls none has its turn. -/
theorem aside {e : Hall W J Out} (h : d.Kept view count P limit past)
    (hsame : view.Same d.world e.world) (hmoments : ∀ m ∈ moments, view.Same m.before m.after)
    (hcalls : e.calls.Sublist d.calls) (hnext : d.runtime.nextId ≤ e.runtime.nextId) :
    e.Kept view count P limit (past ++ moments) where
  seen := hsame ▸ h.seen
  calls call hcall := (h.calls call (hcalls.subset hcall)).append
    (View.gained_eq_zero fun m hm _ => hmoments m hm)
  distinct := h.distinct.sublist (hcalls.map _)
  lt call hcall := Nat.lt_of_lt_of_le (h.lt call (hcalls.subset hcall)) hnext
  unborn ht := by
    rw [View.gained_append, h.unborn (Nat.le_trans hnext ht),
      View.gained_eq_zero fun m hm _ => hmoments m hm]

theorem called {name : L} {p : Program W J (Out name)} (h : d.Kept view count P limit past)
    (hp : p.Poised view count P (limit name) ∨ p.Spares view) :
    (d.begin_ name p).Kept view count P limit past where
  seen := h.seen
  calls := by
    have hzero := h.unborn (Nat.le_refl d.runtime.nextId)
    refine List.forall_mem_append.2 ⟨h.calls, List.forall_mem_singleton.2 ?_⟩
    rcases hp with hp | hp
    · exact .poised hp rfl hzero
    · exact .spares ⟨hp, List.forall_mem_nil _⟩ (Nat.le_trans (Nat.le_of_eq hzero) (Nat.zero_le _))
  distinct := by
    have hnew : d.runtime.nextId ∉ d.calls.map (·.task.id) := by
      intro hmem
      obtain ⟨call, hcall, heq⟩ := List.mem_map.1 hmem
      exact Nat.lt_irrefl _ (heq ▸ h.lt call hcall)
    rw [begin_, List.map_append]
    refine List.nodup_append.2 ⟨h.distinct, by simp, fun t ht u hu heq => ?_⟩
    obtain rfl := heq.trans (List.mem_singleton.1 hu)
    exact hnew ht
  lt := List.forall_mem_append.2
    ⟨fun call hcall => Nat.lt_succ_of_lt (h.lt call hcall),
      List.forall_mem_singleton.2 (Nat.lt_succ_self _)⟩
  unborn ht := h.unborn (Nat.le_of_succ_le ht)

/-- No call goes over its limit in its next turn. -/
theorem gained_le {call : Call W J Out} {rt : Runtime W J}
    {left : List (Task W J (Out call.name))} (h : d.Kept view count P limit past)
    (hcall : call ∈ d.calls) (hturn : d.runtime.Turn call.task moments rt left) :
    view.gained count call.task.id (past ++ moments) ≤ limit call.name :=
  ((h.calls call hcall).turn h.seen hturn).2.2

end Kept

theorem Reserved.kept
    (hcall : ∀ name, (rules.call name).Poised view count P (limit name) ∨
      (rules.call name).Spares view)
    (w : Reserved view rules c past d) (hc : c.calls = []) (h : P (view.see c.world)) :
    d.Kept view count P limit past := by
  induction w with
  | start =>
      refine ⟨h, ?_, ?_, ?_, fun _ => rfl⟩ <;> rw [hc]
      · exact List.forall_mem_nil _
      · exact List.nodup_nil
      · exact List.forall_mem_nil _
  | turn _ hcalls _ hturn ih => exact ih.turn hcalls hturn
  | move _ m hsame hmoments ih =>
      cases m with
      | went f _ hturn =>
          cases f with
          | task _ => exact ih.aside hsame hmoments (.refl _) hturn.nextId_le
          | call hcalls => exact ih.turn hcalls hturn
      | dropped f _ =>
          cases f with
          | task _ => exact ih.aside hsame hmoments (.refl _) (Nat.le_refl _)
          | call hcalls =>
              refine ih.aside hsame hmoments ?_ (Nat.le_refl _)
              rw [hcalls]
              simp
      | called name =>
          rw [List.append_nil]
          exact ih.called (hcall name)
      | started _ => exact ih.aside hsame hmoments (.refl _) (Nat.le_succ _)
      | changed _ => exact ih.aside hsame hmoments (.refl _) (Nat.le_refl _)

/-! ## Plays -/

/-- The cue has no task of the runtime go on, and nobody sees the world change. -/
def Cue.Discreet (view : View W G) : Cue W L → Prop
  | .task _ => False
  | .changes f => ∀ u, view.Same u (f u)
  | _ => True

/-- What is played discreetly can happen without anybody but the calls changing what is seen. -/
theorem Reserved.play {cues : List (Cue W L)} {e : Hall W J Out}
    (w : Reserved view rules c past d) (hcues : ∀ cue ∈ cues, cue.Allowed rules)
    (hdiscreet : ∀ cue ∈ cues, cue.Discreet view) (h : d.play rules cues = some (moments, e)) :
    Reserved view rules c (past ++ moments) e := by
  induction cues generalizing past d moments with
  | nil =>
      cases h
      rw [List.append_nil]
      exact w
  | cons cue cues ih =>
      obtain ⟨⟨first, d'⟩, hcue, hrest⟩ := Option.bind_eq_some_iff.1 h
      obtain ⟨⟨later, e'⟩, hplay, heq⟩ := Option.map_eq_some_iff.1 hrest
      cases heq
      rw [List.forall_mem_cons] at hcues hdiscreet
      rw [← List.append_assoc]
      refine ih ?_ hcues.2 hdiscreet.2 hplay
      have hmove : Move rules d first d' := move_of_playCue hcues.1 hcue
      cases cue with
      | begins name =>
          cases hcue
          exact w.move hmove rfl (List.forall_mem_nil _)
      | call place =>
          obtain ⟨front, back, name, task, rt, left, hcalls, ha, hturn, rfl⟩ :=
            exists_turn_of_playCall hcue
          exact w.turn hcalls ha hturn
      | task place => exact hdiscreet.1.elim
      | changes f =>
          cases hcue
          exact w.move hmove (hdiscreet.1 _) (List.forall_mem_nil _)

end Hall

end LanguageClient
