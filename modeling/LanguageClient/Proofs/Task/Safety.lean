import LanguageClient.Proofs.Task.Discipline
namespace LanguageClient

/-!
# Safety of halls

When all tasks of a hall are safe and what can begin is safe, every step keeps the invariant, and so
does every run.
-/

open Function (update)

/-- Other tasks may be marked, and at most one is added, which does a job that may start. -/
structure Runtime.Grows {W J : Type} (mayStart : J → Prop) (rt rt' : Runtime W J) : Prop where
  perform_eq : rt'.perform = rt.perform
  tasks : ∃ (mark : Task W J Unit → Task W J Unit) (jobs : List J),
    (∀ task, (mark task).id = task.id ∧ (mark task).program = task.program ∧
      (mark task).scopes = task.scopes) ∧
    (∀ job ∈ jobs, mayStart job) ∧ jobs.length ≤ 1 ∧
    rt'.nextId = rt.nextId + jobs.length ∧
    rt'.tasks = rt.tasks.map mark ++ jobs.map fun job => ⟨rt.nextId, rt.perform job, [], false⟩

theorem Runtime.Grows.of_world {W J : Type} {mayStart : J → Prop} (rt : Runtime W J) (w : W) :
    Grows mayStart rt { rt with world := w } :=
  ⟨rfl, id, [], fun _ => ⟨rfl, rfl, rfl⟩, nofun, Nat.zero_le _, rfl, by simp⟩

namespace Discipline

variable {W J : Type} [HasAgenda W] {D : Discipline W J} {t : TaskId} {α : Type}

/-! ## Unwinding -/

section Unwinding

variable {left : D.Local → Prop}
  {safe : D.Local → Program W J α → List (Task.Scope W J α) → Prop}
  {past : List (Moment W J)} {g : TaskId → D.Local}

/-- Unwinding all scopes of a task. -/
theorem Yields.unwind {scopes : List (Task.Scope W J α)} {w : W}
    (h : D.Yields t left safe (g t) scopes) (hw : D.Holds past g w) :
    ∃ ℓ', D.Holds past (update g t ℓ') (Runtime.unwind t scopes w) ∧
      D.view (Runtime.unwind t scopes w) = D.view w ∧ left ℓ' := by
  induction scopes generalizing g w with
  | nil => exact ⟨g t, by simpa [Runtime.unwind] using hw, rfl, h⟩
  | cons scope rest ih =>
      cases scope with
      | held release =>
          obtain ⟨ℓ', hr, h⟩ := h
          have h : D.Yields t left safe (update g t ℓ' t) rest := by simpa using h
          obtain ⟨ℓ'', hw', hview, hl⟩ := ih h (hr.holds rfl hw)
          rw [Function.update_idem] at hw'
          exact ⟨ℓ'', hw', hview.trans (hr.view_eq w), hl⟩
      | deadline time late =>
          obtain ⟨ℓ', hw', hview, hl⟩ := ih h.2.2 (D.holds_agenda (·.dropAlarm time t) hw)
          exact ⟨ℓ', hw', hview.trans (D.view_agenda w _), hl⟩

/-- Unwinding down to a deadline that has passed. -/
theorem Yields.expired {now : Nat} {scopes inner rest : List (Task.Scope W J α)}
    {late : Program W J α} {w : W} (h : D.Yields t left safe (g t) scopes)
    (hw : D.Holds past g w) (he : Runtime.expired? now scopes = some (inner, late, rest)) :
    ∃ ℓ', D.Holds past (update g t ℓ') (Runtime.unwind t inner w) ∧
      D.view (Runtime.unwind t inner w) = D.view w ∧ D.Rests ℓ' ∧ safe ℓ' late rest := by
  induction scopes generalizing g w inner with
  | nil => exact nomatch he
  | cons scope outer ih =>
      cases scope with
      | held release =>
          obtain ⟨ℓ', hr, h⟩ := h
          simp only [Runtime.expired?, Option.map_eq_some_iff, Prod.mk.injEq] at he
          obtain ⟨⟨inner, late, rest⟩, he, rfl, rfl, rfl⟩ := he
          have h : D.Yields t left safe (update g t ℓ' t) outer := by simpa using h
          obtain ⟨ℓ'', hw', hview, hl⟩ := ih h (hr.holds rfl hw) he
          rw [Function.update_idem] at hw'
          exact ⟨ℓ'', hw', hview.trans (hr.view_eq w), hl⟩
      | deadline time l =>
          obtain ⟨hrests, hsafe, h⟩ := h
          have hw' := D.holds_agenda (·.dropAlarm time t) hw
          simp only [Runtime.expired?] at he
          split at he
          · simp only [Option.some.injEq, Prod.mk.injEq] at he
            obtain ⟨rfl, rfl, rfl⟩ := he
            refine ⟨g t, ?_, D.view_agenda w (·.dropAlarm time t), hrests, hsafe⟩
            rwa [Function.update_eq_self]
          · simp only [Option.map_eq_some_iff, Prod.mk.injEq] at he
            obtain ⟨⟨inner, late, rest⟩, he, rfl, rfl, rfl⟩ := he
            obtain ⟨ℓ', hw'', hview, hl⟩ := ih h hw' he
            exact ⟨ℓ', hw'', hview.trans (D.view_agenda w _), hl⟩

end Unwinding

/-! ## Strides -/

/-- After some moments a task is in a local state in which the rest is safe; a task that gave up
holds nothing, and nobody has seen anything of it since. -/
def Lands (D : Discipline W J) (t : TaskId) (past moments : List (Moment W J))
    (g : TaskId → D.Local) (w : W) (next : D.Local → Prop) : Prop :=
  ∃ ℓ', D.Holds (past ++ moments) (update g t ℓ') w ∧ next ℓ' ∧
    ∀ {β : Type} {u : TaskId} {p : Program W J β} {v : W}, .givesUp u p v ∈ moments →
      u = t ∧ D.Rests ℓ' ∧ D.view w = D.view v

theorem lands_asks {past : List (Moment W J)} {g : TaskId → D.Local} {w : W} {ℓ' : D.Local}
    {next : D.Local → Prop} {β : Type} {p : Program W J β} {v u : W}
    (h : D.Holds (past ++ [.asks t p v u]) (update g t ℓ') w) (hnext : next ℓ') :
    D.Lands t past [.asks t p v u] g w next :=
  ⟨ℓ', h, hnext, fun h => by simp at h⟩

theorem lands_nil {past : List (Moment W J)} {g : TaskId → D.Local} {w : W} {ℓ' : D.Local}
    {next : D.Local → Prop} (h : D.Holds past (update g t ℓ') w) (hnext : next ℓ') :
    D.Lands t past [] g w next :=
  ⟨ℓ', by simpa using h, hnext, nofun⟩

/-- What a stride of a safe task comes to. -/
def Strides (D : Discipline W J) (left : D.Local → Prop) (post : D.Local → α → Prop) (n : Nat)
    (past : List (Moment W J)) (g : TaskId → D.Local) (rt : Runtime W J) (task : Task W J α)
    (rt' : Runtime W J) : Runtime.Stride W J α → Prop
  | .ended a => rt' = rt ∧ post (g task.id) a
  | .waits => D.Holds (past ++ rt.moments task) g rt'.world ∧
    ∀ {β : Type} {u : TaskId} {p : Program W J β} {v : W}, .givesUp u p v ∉ rt.moments task
  | .going next => next.id = task.id ∧
    D.Lands task.id past (rt.moments task) g rt'.world fun ℓ' =>
      D.Safe task.id left post n ℓ' next.program next.scopes

theorem Safe.stride {left : D.Local → Prop} {post : D.Local → α → Prop} {n : Nat}
    {past : List (Moment W J)} {g : TaskId → D.Local} {rt rt' : Runtime W J} {task : Task W J α}
    {s : Runtime.Stride W J α}
    (h : D.Safe task.id left post (n + 1) (g task.id) task.program task.scopes)
    (hw : D.Holds past g rt.world) (hs : rt.stride task = (rt', s)) :
    rt.Grows D.MayStart rt' ∧ D.Strides left post n past g rt task rt' s := by
  obtain ⟨t, program, scopes, aborted⟩ := task
  obtain ⟨-, h⟩ := h
  obtain ⟨moments, hmoments, hstrode⟩ := Runtime.strode hs
  rw [Strides.eq_def, hmoments]
  dsimp only at h hstrode ⊢
  have hstay : update g t (g t) = g := Function.update_eq_self t g
  cases hstrode with
  | ended a => exact ⟨.of_world rt rt.world, rfl, h.2⟩
  | answered hp =>
      obtain ⟨hasks, -⟩ := h .done
      rw [Program.bind_done] at hasks
      obtain ⟨ℓ', hu, hb⟩ := hasks.answered rfl hw hp
      exact ⟨.of_world rt _, rfl, lands_asks hu hb⟩
  | waits hp _ =>
      obtain ⟨hasks, -⟩ := h .done
      rw [Program.bind_done] at hasks
      exact ⟨.of_world rt _, hasks.waits rfl hw hp, fun hm => by simp at hm⟩
  | gaveUp hp he =>
      obtain ⟨hasks, hcancels⟩ := h .done
      rw [Program.bind_done] at hasks hcancels
      refine ⟨.of_world rt _, rfl, ?_⟩
      obtain ⟨ℓ₁, hu₁, hyields⟩ := hcancels.holds rfl (hasks.waits rfl hw hp)
      have hyields : D.Yields t left (D.Safe t left post n) (update g t ℓ₁ t) scopes := by
        simpa using hyields
      obtain ⟨ℓ₂, hu₂, hview, hrests, hsafe⟩ := hyields.expired hu₁ he
      refine ⟨ℓ₂, by simpa using hu₂, hsafe, ?_⟩
      intro β x p v hm
      simp only [List.mem_cons, reduceCtorEq, List.not_mem_nil, or_false, false_or] at hm
      cases hm
      exact ⟨rfl, hrests, hview.trans (hcancels.view_eq _)⟩
  | hold release next =>
      exact ⟨.of_world rt rt.world, rfl, lands_nil (hstay.symm ▸ hw) h⟩
  | released release next =>
      obtain ⟨ℓ', hr, h⟩ := h
      exact ⟨.of_world rt _, rfl, lands_nil (hr.holds rfl hw) h⟩
  | within millis next =>
      refine ⟨.of_world rt _, rfl, lands_nil (hstay.symm ▸ ?_) (h _)⟩
      exact D.holds_agenda (·.setAlarm (HasAgenda.now rt.world + millis) t) hw
  | left time late next =>
      refine ⟨.of_world rt _, rfl, lands_nil (hstay.symm ▸ ?_) h⟩
      exact D.holds_agenda (·.dropAlarm time t) hw
  | unheld hscopes =>
      rcases scopes with _ | ⟨release | _, rest⟩
      · exact h.elim
      · exact absurd rfl (hscopes release rest)
      · exact h.elim
  | unbound hscopes =>
      rcases scopes with _ | ⟨_ | ⟨time, late⟩, rest⟩
      · exact h.elim
      · exact h.elim
      · exact absurd rfl (hscopes time late rest)
  | spawn job next =>
      refine ⟨⟨rfl, id, [job], fun _ => ⟨rfl, rfl, rfl⟩, ?_, Nat.le_refl _, rfl, ?_⟩, rfl,
        lands_nil (hstay.symm ▸ ?_) (h.2 _)⟩
      · simpa using h.1
      · simp [Runtime.addTask]
      · exact D.holds_agenda (·.wake rt.nextId) hw
  | abort other next =>
      unfold Runtime.abortTask
      split
      · refine ⟨⟨rfl, _, [], ?_, List.forall_mem_nil _, Nat.zero_le _, rfl,
          (List.append_nil _).symm⟩, rfl, lands_nil (hstay.symm ▸ ?_) h⟩
        · intro task
          split <;> exact ⟨rfl, rfl, rfl⟩
        · exact D.holds_agenda (·.wake other) hw
      · exact ⟨.of_world rt rt.world, rfl, lands_nil (hstay.symm ▸ hw) h⟩
  | loop state body next =>
      exact ⟨.of_world rt rt.world, rfl, lands_nil (hstay.symm ▸ hw) h⟩

/-- Dropping a task that awaits something. -/
theorem Safe.giveUp {left : D.Local → Prop} {post : D.Local → α → Prop} {n : Nat} {β : Type}
    {past : List (Moment W J)} {g : TaskId → D.Local} {rt : Runtime W J} {task : Task W J α}
    {poll : TaskId → W → W × Option β} {cancel : TaskId → W → W} {next : β → Program W J α}
    (h : D.Safe task.id left post (n + 1) (g task.id) task.program task.scopes)
    (hw : D.Holds past g rt.world) (hp : task.program = .await poll cancel next) :
    ∃ ℓ', D.Holds (past ++ [.givesUp task.id task.program rt.world]) (update g task.id ℓ')
        (rt.giveUp task).world ∧ left ℓ' ∧
      D.view (rt.giveUp task).world = D.view rt.world := by
  obtain ⟨t, program, scopes, aborted⟩ := task
  dsimp only at hp
  subst hp
  obtain ⟨-, h⟩ := h
  obtain ⟨-, hcancels⟩ := h .done
  rw [Program.bind_done] at hcancels
  obtain ⟨ℓ₁, hu₁, hyields⟩ := hcancels.holds rfl hw
  have hyields : D.Yields t left (D.Safe t left post n) (update g t ℓ₁ t) scopes := by
    simpa using hyields
  obtain ⟨ℓ₂, hu₂, hview, hl⟩ := hyields.unwind hu₁
  rw [Function.update_idem] at hu₂
  exact ⟨ℓ₂, hu₂, hl, hview.trans (hcancels.view_eq rt.world)⟩

end Discipline

/-! ## The tasks of a hall -/

namespace Hall

variable {W J L : Type} {Out : L → Type} {c : Hall W J Out} {α : Type} {task : Task W J α}
  {rt rt' : Runtime W J} {put : List (Task W J α) → Runtime W J → Hall W J Out}

theorem Focus.runtime_eq (f : c.Focus task rt put) :
    rt.world = c.runtime.world ∧ rt.nextId = c.runtime.nextId ∧
      rt.perform = c.runtime.perform := by
  cases f <;> exact ⟨rfl, rfl, rfl⟩

theorem Focus.put_eq (f : c.Focus task rt put) (left : List (Task W J α)) (rt' : Runtime W J) :
    (put left rt').runtime.world = rt'.world ∧ (put left rt').runtime.nextId = rt'.nextId ∧
      (put left rt').runtime.perform = rt'.perform := by
  cases f <;> exact ⟨rfl, rfl, rfl⟩

theorem Focus.perm (f : c.Focus task rt put) : c.ids.Perm (task.id :: (put [] rt).ids) := by
  cases f with
  | task h =>
      simp only [ids, h, List.map_append, List.map_cons, List.nil_append, List.append_assoc]
      exact List.perm_middle
  | call h =>
      simp only [ids, h, List.map_append, List.map_cons, List.map_nil, List.append_nil]
      rw [← List.append_assoc, ← List.append_assoc]
      exact List.perm_middle

theorem Focus.perm_put (f : c.Focus task rt put) {left : List (Task W J α)} {news : List TaskId}
    (h : rt'.tasks.map Task.id = rt.tasks.map Task.id ++ news) :
    (put left rt').ids.Perm (left.map Task.id ++ (put [] rt).ids ++ news) := by
  cases f with
  | task hc =>
      simp only [ids, List.map_append, h, List.nil_append]
      simp [List.perm_iff_count]
      omega
  | @call front back name task hc =>
      have hleft : (left.map (Call.mk name)).map (·.task.id) = left.map Task.id :=
        List.map_map ..
      simp only [ids, List.map_append, h, hleft]
      simp [List.perm_iff_count]
      omega

theorem Focus.mem_tasks (f : c.Focus task rt put) {other : Task W J Unit} (h : other ∈ rt.tasks) :
    other ∈ c.runtime.tasks ∧ other.id ∈ (put [] rt).ids := by
  cases f with
  | task hc =>
      refine ⟨by rw [hc]; simpa using List.mem_append.1 h |>.imp id .inr, ?_⟩
      exact List.mem_append_left _ (List.mem_map_of_mem h)
  | call hc => exact ⟨h, List.mem_append_left _ (List.mem_map_of_mem h)⟩

theorem Focus.mem_calls (f : c.Focus task rt put) {other : Call W J Out}
    (h : other ∈ (put [] rt').calls) : other ∈ c.calls ∧ other.task.id ∈ (put [] rt).ids := by
  cases f with
  | task hc =>
      exact ⟨h, List.mem_append_right _
        (List.mem_map_of_mem (f := fun call : Call W J Out => call.task.id) h)⟩
  | call hc =>
      simp only [List.map_nil, List.append_nil] at h
      refine ⟨by rw [hc]; simpa using List.mem_append.1 h |>.imp id .inr, ?_⟩
      simp only [ids, List.map_nil, List.append_nil]
      exact List.mem_append_right _
        (List.mem_map_of_mem (f := fun call : Call W J Out => call.task.id) h)

theorem Focus.not_mem (f : c.Focus task rt put) (h : c.ids.Nodup) : task.id ∉ (put [] rt).ids :=
  (List.nodup_cons.1 (f.perm.nodup_iff.1 h)).1

theorem Focus.mem (f : c.Focus task rt put) : task.id ∈ c.ids :=
  f.perm.mem_iff.2 List.mem_cons_self

/-- The numbers of tasks stay apart and below the next number; at most one is no longer in use. -/
theorem Focus.ids_put (f : c.Focus task rt put) {mayStart : J → Prop} (hgrows : rt.Grows mayStart rt')
    {left : List (Task W J α)} (hleft : left.map Task.id = [] ∨ left.map Task.id = [task.id])
    (hnodup : c.ids.Nodup) (hlt : ∀ t ∈ c.ids, t < c.runtime.nextId) :
    (put left rt').ids.Nodup ∧ (∀ t ∈ (put left rt').ids, t < rt'.nextId) ∧
      ∀ t, t ∉ (put left rt').ids → t ∉ c.ids ∨ left = [] ∧ t = task.id := by
  have hc := f.perm
  obtain ⟨-, mark, jobs, hmark, -, hone, hnext, htasks⟩ := hgrows
  have hput : (put left rt').ids.Perm
      (left.map Task.id ++ (put [] rt).ids ++ jobs.map fun _ => rt.nextId) :=
    f.perm_put (by simp [htasks, Function.comp_def, hmark])
  rw [f.runtime_eq.2.1] at hput hnext
  rw [hc.nodup_iff] at hnodup
  have hlt (t : TaskId) (ht : t ∈ task.id :: (put [] rt).ids) : t < c.runtime.nextId :=
    hlt t (hc.mem_iff.2 ht)
  have hsub (t : TaskId) (ht : t ∈ left.map Task.id ++ (put [] rt).ids) : t ∈ task.id :: (put [] rt).ids := by
    rcases hleft with h | h <;> rw [h] at ht <;> simp_all
  have hold : (left.map Task.id ++ (put [] rt).ids).Nodup := by
    rcases hleft with h | h <;> rw [h]
    · exact hnodup.of_cons
    · exact hnodup
  refine ⟨?_, fun t ht => ?_, fun t ht => ?_⟩
  · rw [hput.nodup_iff, List.nodup_append]
    refine ⟨hold, ?_, fun t ht u hu => ?_⟩
    · rcases jobs with _ | ⟨job, _ | _⟩ <;> simp at hone ⊢
    · have := hlt t (hsub t ht)
      simp only [List.mem_map] at hu
      obtain ⟨_, _, rfl⟩ := hu
      exact Nat.ne_of_lt this
  · rw [hput.mem_iff, List.mem_append] at ht
    rw [hnext]
    rcases ht with ht | ht
    · exact Nat.lt_add_right _ (hlt t (hsub t ht))
    · obtain ⟨job, hjob, rfl⟩ := List.mem_map.1 ht
      exact Nat.lt_add_of_pos_right (List.length_pos_of_mem hjob)
  · rw [hput.mem_iff, List.mem_append, List.mem_append, not_or, not_or] at ht
    rw [hc.mem_iff, List.mem_cons, not_or]
    rcases hleft with h | h
    · by_cases htask : t = task.id
      · exact .inr ⟨List.map_eq_nil_iff.1 h, htask⟩
      · exact .inl ⟨htask, ht.1.2⟩
    · rw [h] at ht
      exact .inl ⟨by simpa using ht.1.1, ht.1.2⟩

end Hall

namespace Discipline

variable {W J L : Type} [HasAgenda W] {Out : L → Type}

/-- Every task of a hall is safe for so many strides; calls come to their `post`. -/
structure Sound (D : Discipline W J) (post : TaskId → (name : L) → D.Local → Out name → Prop)
    (n : Nat) (past : List (Moment W J)) (c : Hall W J Out) (g : TaskId → D.Local) : Prop where
  holds : D.Holds past g c.world
  tasks : ∀ task ∈ c.runtime.tasks, D.Safe task.id D.Rests (fun ℓ _ => D.Rests ℓ) n (g task.id)
    task.program task.scopes
  calls : ∀ call ∈ c.calls, D.Safe call.task.id D.Rests
    (fun ℓ a => D.Rests ℓ ∧ post call.task.id call.name ℓ a) n (g call.task.id)
    call.task.program call.task.scopes
  nodup : c.ids.Nodup
  lt : ∀ t ∈ c.ids, t < c.runtime.nextId
  idle : ∀ t, t ∉ c.ids → g t = D.idle
  jobs : ∀ job, D.MayStart job → ∀ t, D.Fine t D.Rests (fun ℓ _ => D.Rests ℓ) D.idle
    (c.runtime.perform job)

/-- Whatever can happen under the rules keeps a discipline. -/
structure Admits (D : Discipline W J) (post : TaskId → (name : L) → D.Local → Out name → Prop)
    (rules : Hall.Rules W J Out) : Prop where
  call (name : L) (t : TaskId) :
    D.Fine t D.Rests (fun ℓ a => D.Rests ℓ ∧ post t name ℓ a) D.idle (rules.call name)
  job {job : J} : rules.mayStart job → D.MayStart job
  outside {past : List (Moment W J)} {g : TaskId → D.Local} {w u : W} :
    rules.outside w u → D.Holds past g w → D.Holds past g u

variable {D : Discipline W J} {post : TaskId → (name : L) → D.Local → Out name → Prop} {n : Nat}
  {past : List (Moment W J)} {c d : Hall W J Out} {g : TaskId → D.Local}

/-- What is left of a task after a stride: nothing, or the task, safe in its new local state. -/
def Leaves {α : Type} (D : Discipline W J) (t : TaskId) (post : D.Local → α → Prop) (n : Nat)
    (g : TaskId → D.Local) (left : List (Task W J α)) : Prop :=
  left = [] ∧ g t = D.idle ∨
    ∃ next, left = [next] ∧ next.id = t ∧ D.Safe t D.Rests post n (g t) next.program next.scopes

theorem Leaves.map_id {α : Type} {t : TaskId} {Q : D.Local → α → Prop}
    {left : List (Task W J α)} (h : D.Leaves t Q n g left) :
    left.map Task.id = [] ∨ left.map Task.id = [t] := by
  rcases h with ⟨rfl, -⟩ | ⟨next, rfl, rfl, -⟩
  · exact .inl rfl
  · exact .inr rfl

section Focus

variable {α : Type} {task : Task W J α} {rt rt' : Runtime W J}
  {put : List (Task W J α) → Runtime W J → Hall W J Out} {past' : List (Moment W J)}
  {g' : TaskId → D.Local} {left : List (Task W J α)} {Q : D.Local → α → Prop}

/-- Local states of tasks that are no longer there are idle. -/
theorem Sound.idle_put {m : Nat} (h : D.Sound post m past c g) (f : c.Focus task rt put)
    (hgrows : rt.Grows D.MayStart rt') (hother : ∀ u, u ≠ task.id → g' u = g u)
    (hleft : D.Leaves task.id Q n g' left) {t : TaskId} (ht : t ∉ (put left rt').ids) :
    g' t = D.idle := by
  obtain ⟨-, -, hgone⟩ := f.ids_put hgrows hleft.map_id h.nodup h.lt
  rcases hgone t ht with hnew | ⟨rfl, rfl⟩
  · rw [hother t, h.idle t hnew]
    rintro rfl
    exact hnew f.mem
  · rcases hleft with ⟨-, h⟩ | ⟨next, h, -⟩
    · exact h
    · exact nomatch h

theorem safe_of_grows (hgrows : rt.Grows D.MayStart rt') (hnew : g' rt.nextId = D.idle)
    (hjobs : ∀ job, D.MayStart job → ∀ t, D.Fine t D.Rests (fun ℓ _ => D.Rests ℓ) D.idle
      (rt.perform job))
    (h : ∀ task ∈ rt.tasks, D.Safe task.id D.Rests (fun ℓ _ => D.Rests ℓ) n (g' task.id)
      task.program task.scopes) :
    ∀ task ∈ rt'.tasks, D.Safe task.id D.Rests (fun ℓ _ => D.Rests ℓ) n (g' task.id)
      task.program task.scopes := by
  obtain ⟨-, mark, jobs, hmark, hmay, -, -, htasks⟩ := hgrows
  intro task htask
  rw [htasks, List.mem_append, List.mem_map, List.mem_map] at htask
  rcases htask with ⟨old, hold, rfl⟩ | ⟨job, hjob, rfl⟩
  · rw [(hmark old).1, (hmark old).2.1, (hmark old).2.2]
    exact h old hold
  · rw [hnew]
    exact hjobs job (hmay job hjob) rt.nextId n

/-- Nothing has changed for the other tasks. -/
theorem Sound.others (h : D.Sound post (n + 1) past c g) (f : c.Focus task rt put)
    (hgrows : rt.Grows D.MayStart rt') (hother : ∀ u, u ≠ task.id → g' u = g u) :
    (∀ other ∈ rt'.tasks, D.Safe other.id D.Rests (fun ℓ _ => D.Rests ℓ) n (g' other.id)
      other.program other.scopes) ∧
    ∀ other ∈ (put [] rt').calls, D.Safe other.task.id D.Rests
      (fun ℓ a => D.Rests ℓ ∧ post other.task.id other.name ℓ a) n (g' other.task.id)
      other.task.program other.task.scopes := by
  refine ⟨safe_of_grows hgrows ?_ ?_ fun other ho => ?_, fun other ho => ?_⟩
  · rw [f.runtime_eq.2.1, hother _ (Nat.ne_of_lt (h.lt _ f.mem)).symm]
    exact h.idle _ fun hmem => Nat.lt_irrefl _ (h.lt _ hmem)
  · rw [f.runtime_eq.2.2]
    exact h.jobs
  · obtain ⟨hmem, hin⟩ := f.mem_tasks ho
    rw [hother _ fun he => f.not_mem h.nodup (he ▸ hin)]
    exact (h.tasks other hmem).of_le (Nat.le_succ n)
  · obtain ⟨hmem, hin⟩ := f.mem_calls ho
    rw [hother _ fun he => f.not_mem h.nodup (he ▸ hin)]
    exact (h.calls other hmem).of_le (Nat.le_succ n)

theorem Sound.put_back (h : D.Sound post (n + 1) past c g) (f : c.Focus task rt put)
    (hgrows : rt.Grows D.MayStart rt') (hw : D.Holds past' g' rt'.world)
    (hother : ∀ u, u ≠ task.id → g' u = g u) (hleft : D.Leaves task.id Q n g' left)
    (htasks : ∀ other ∈ (put left rt').runtime.tasks, D.Safe other.id D.Rests
      (fun ℓ _ => D.Rests ℓ) n (g' other.id) other.program other.scopes)
    (hcalls : ∀ other ∈ (put left rt').calls, D.Safe other.task.id D.Rests
      (fun ℓ a => D.Rests ℓ ∧ post other.task.id other.name ℓ a) n (g' other.task.id)
      other.task.program other.task.scopes) : D.Sound post n past' (put left rt') g' := by
  obtain ⟨hnodup, hlt, -⟩ := f.ids_put hgrows hleft.map_id h.nodup h.lt
  obtain ⟨hworld, hnext, hperform⟩ := f.put_eq left rt'
  exact {
    holds := by rwa [Hall.world, hworld]
    tasks := htasks
    calls := hcalls
    nodup := hnodup
    lt := by rwa [hnext]
    idle := fun t ht => h.idle_put f hgrows hother hleft ht
    jobs := by
      rw [hperform, hgrows.perform_eq, f.runtime_eq.2.2]
      exact h.jobs }

/-- The focused task is safe, and the hall is sound again when it has gone on safely and nothing
else has changed. -/
theorem Sound.focus (h : D.Sound post (n + 1) past c g) (f : c.Focus task rt put) :
    ∃ Q : D.Local → α → Prop, (∀ ℓ a, Q ℓ a → D.Rests ℓ) ∧
      D.Safe task.id D.Rests Q (n + 1) (g task.id) task.program task.scopes ∧
      ∀ {past' : List (Moment W J)} {rt' : Runtime W J} {g' : TaskId → D.Local}
        {left : List (Task W J α)}, rt.Grows D.MayStart rt' → D.Holds past' g' rt'.world →
        (∀ u, u ≠ task.id → g' u = g u) → D.Leaves task.id Q n g' left →
        D.Sound post n past' (put left rt') g' := by
  cases f with
  | @task front back task hc =>
      refine ⟨_, fun _ _ hrests => hrests, h.tasks task (by simp [hc]), ?_⟩
      intro past' rt' g' left hgrows hw hother hleft
      obtain ⟨htasks, hcalls⟩ := h.others (.task hc) hgrows hother
      refine h.put_back (.task hc) hgrows hw hother hleft (fun other ho => ?_) hcalls
      rcases List.mem_append.1 ho with ho | ho
      · rcases hleft with ⟨rfl, -⟩ | ⟨next, rfl, hid, hsafe⟩
        · exact nomatch ho
        · obtain rfl := List.mem_singleton.1 ho
          rwa [hid]
      · exact htasks other ho
  | @call front back name task hc =>
      refine ⟨_, fun _ _ hrests => hrests.1, h.calls ⟨name, task⟩ (by simp [hc]), ?_⟩
      intro past' rt' g' left hgrows hw hother hleft
      obtain ⟨htasks, hcalls⟩ := h.others (.call hc) hgrows hother
      refine h.put_back (.call hc) hgrows hw hother hleft htasks fun other ho => ?_
      simp only [List.map_nil, List.append_nil, List.mem_append] at ho hcalls
      rcases ho with (ho | ho) | ho
      · exact hcalls other (.inl ho)
      · rcases hleft with ⟨rfl, -⟩ | ⟨next, rfl, hid, hsafe⟩
        · exact nomatch ho
        · obtain rfl := List.mem_singleton.1 ho
          dsimp only
          rwa [hid]
      · exact hcalls other (.inr ho)

end Focus

variable {rules : Hall.Rules W J Out}

/-- Who does not rest is there and has not ended, and its local state tells of its program. -/
theorem Sound.has (h : D.Sound post (n + 1) past c g) {t : TaskId} (ht : ¬ D.Rests (g t)) :
    c.Has fun task => task.id = t ∧ (∀ a, task.program ≠ .done a) ∧
      D.Shows (g t) task.program := by
  have hlive {α : Type} {task : Task W J α} {Q : D.Local → α → Prop} (hQ : ∀ ℓ a, Q ℓ a → D.Rests ℓ)
      (hid : task.id = t)
      (hsafe : D.Safe task.id D.Rests Q (n + 1) (g task.id) task.program task.scopes) :
      task.id = t ∧ (∀ a, task.program ≠ .done a) ∧ D.Shows (g t) task.program := by
    obtain ⟨hshows, hnext⟩ := hsafe
    subst hid
    refine ⟨rfl, fun a ha => ht ?_, hshows⟩
    rw [ha] at hnext
    exact hQ _ _ hnext.2
  have hmem : t ∈ c.ids := by
    by_contra hmem
    rw [h.idle t hmem] at ht
    exact ht D.rests_idle
  rcases List.mem_append.1 hmem with hmem | hmem
  · obtain ⟨task, htask, hid⟩ := List.mem_map.1 hmem
    exact .inl ⟨task, htask, hlive (fun _ _ => id) hid (h.tasks task htask)⟩
  · obtain ⟨call, hcall, hid⟩ := List.mem_map.1 hmem
    exact .inr ⟨call, hcall, hlive (fun _ _ => And.left) hid (h.calls call hcall)⟩

theorem Sound.le (h : D.Sound post (n + 1) past c g) : D.Sound post n past c g :=
  { h with
    tasks := fun task ht => (h.tasks task ht).of_le (Nat.le_succ n)
    calls := fun call hc => (h.calls call hc).of_le (Nat.le_succ n) }

theorem Sound.idle_next (h : D.Sound post n past c g) : g c.runtime.nextId = D.idle :=
  h.idle _ fun hm => Nat.lt_irrefl _ (h.lt _ hm)

/-- A new number is apart from those in use. -/
theorem Sound.ids_new (h : D.Sound post n past c g) {ids : List TaskId}
    (hids : ids.Perm (c.runtime.nextId :: c.ids)) :
    ids.Nodup ∧ (∀ t ∈ ids, t < c.runtime.nextId + 1) ∧ ∀ t, t ∉ ids → g t = D.idle := by
  refine ⟨?_, fun t ht => ?_, fun t ht => ?_⟩
  · rw [hids.nodup_iff, List.nodup_cons]
    exact ⟨fun hm => Nat.lt_irrefl _ (h.lt _ hm), h.nodup⟩
  · rcases List.mem_cons.1 (hids.mem_iff.1 ht) with rfl | ht
    · exact Nat.lt_succ_self _
    · exact Nat.lt_succ_of_lt (h.lt t ht)
  · exact h.idle t fun hm => ht (hids.mem_iff.2 (List.mem_cons_of_mem _ hm))

theorem Sound.begin_ (h : D.Sound post (n + 1) past c g) (hrules : D.Admits post rules) (name : L) :
    D.Sound post n past (c.begin_ name (rules.call name)) g := by
  have hids : (c.begin_ name (rules.call name)).ids.Perm (c.runtime.nextId :: c.ids) := by
    simp only [Hall.ids, Hall.begin_, List.map_append, List.map_cons, List.map_nil]
    rw [← List.append_assoc]
    exact List.perm_append_singleton _ _
  obtain ⟨hnodup, hlt, hidle⟩ := h.ids_new hids
  refine ⟨h.holds, h.le.tasks, fun call hc => ?_, hnodup, hlt, hidle, h.jobs⟩
  rcases List.mem_append.1 hc with hc | hc
  · exact h.le.calls call hc
  · obtain rfl := List.mem_singleton.1 hc
    rw [h.idle_next]
    exact hrules.call name _ n

theorem Sound.start (h : D.Sound post (n + 1) past c g) {job : J} (hjob : D.MayStart job) :
    D.Sound post n past { c with runtime := c.runtime.addTask (c.runtime.perform job) } g := by
  have hids : (Hall.ids { c with runtime := c.runtime.addTask (c.runtime.perform job) }).Perm
      (c.runtime.nextId :: c.ids) := by
    simp only [Hall.ids, Runtime.addTask, List.map_append, List.map_cons, List.map_nil,
      List.append_assoc, List.singleton_append]
    exact List.perm_middle
  obtain ⟨hnodup, hlt, hidle⟩ := h.ids_new hids
  refine ⟨D.holds_agenda (·.wake c.runtime.nextId) h.holds, fun task ht => ?_, h.le.calls, hnodup,
    hlt, hidle, h.jobs⟩
  rcases List.mem_append.1 ht with ht | ht
  · exact h.le.tasks task ht
  · obtain rfl := List.mem_singleton.1 ht
    dsimp only
    rw [h.idle_next]
    exact h.jobs job hjob _ n

/-- A step of a sound hall keeps the invariant. When the task gives something up on the way, which
its local state told of, it holds nothing afterwards, the others are as before, and nobody has seen
anything of it. -/
theorem Sound.step (h : D.Sound post (n + 1) past c g) (hrules : D.Admits post rules)
    {moments : List (Moment W J)} (s : Hall.Step rules c moments d) :
    ∃ g', D.Sound post n (past ++ moments) d g' ∧
      ∀ {β : Type} {t : TaskId} {p : Program W J β} {w : W}, .givesUp t p w ∈ moments →
        D.Shows (g t) p ∧ D.Rests (g' t) ∧ (∀ u, u ≠ t → g' u = g u) ∧
          D.view d.world = D.view w := by
  cases s with
  | @went α task next rt rt' put f hs =>
      obtain ⟨Q, hQ, hsafe, hput⟩ := h.focus f
      have hw : D.Holds past g rt.world := by
        rw [f.runtime_eq.1]
        exact h.holds
      obtain ⟨hgrows, hid, ℓ', hw', hsafe', hgives⟩ := hsafe.stride hw hs
      refine ⟨update g task.id ℓ', hput hgrows hw' (fun u hu => Function.update_of_ne hu ..)
        (.inr ⟨next, rfl, hid, by simpa using hsafe'⟩), ?_⟩
      intro β t p w hm
      have hshows := Runtime.of_givesUp_mem (fun t p => D.Shows (g t) p) hsafe.1 hm
      obtain ⟨rfl, hrests, hview⟩ := hgives hm
      refine ⟨hshows, by simpa using hrests, fun u hu => Function.update_of_ne hu .., ?_⟩
      rwa [Hall.world, (f.put_eq _ _).1]
  | @waited α task rt rt' put f hs =>
      obtain ⟨Q, hQ, hsafe, hput⟩ := h.focus f
      have hw : D.Holds past g rt.world := by
        rw [f.runtime_eq.1]
        exact h.holds
      obtain ⟨hgrows, hw', hgives⟩ := hsafe.stride hw hs
      exact ⟨g, hput hgrows hw' (fun _ _ => rfl)
        (.inr ⟨task, rfl, rfl, hsafe.of_le (Nat.le_succ n)⟩), fun hm => absurd hm hgives⟩
  | @ended α task rt rt' a put f hs =>
      obtain ⟨Q, hQ, hsafe, hput⟩ := h.focus f
      have hw : D.Holds past g rt.world := by
        rw [f.runtime_eq.1]
        exact h.holds
      obtain ⟨hgrows, rfl, ha⟩ := hsafe.stride hw hs
      refine ⟨update g task.id D.idle, ?_, nofun⟩
      rw [List.append_nil]
      exact hput hgrows (D.holds_idle (hQ _ _ ha) hw) (fun u hu => Function.update_of_ne hu ..)
        (.inl ⟨rfl, by simp⟩)
  | @dropped α β task rt put poll cancel next f hp =>
      obtain ⟨Q, hQ, hsafe, hput⟩ := h.focus f
      have hw : D.Holds past g rt.world := by
        rw [f.runtime_eq.1]
        exact h.holds
      obtain ⟨ℓ', hw', hrests, hview⟩ := hsafe.giveUp hw hp
      refine ⟨update g task.id D.idle, ?_, ?_⟩
      · refine hput (.of_world rt _) ?_ (fun u hu => Function.update_of_ne hu ..)
          (.inl ⟨rfl, by simp⟩)
        have := D.holds_idle (t := task.id) (by simpa using hrests) hw'
        rwa [Function.update_idem] at this
      · intro β t p w hm
        simp only [List.mem_singleton] at hm
        cases hm
        refine ⟨hsafe.1, by simpa using D.rests_idle, fun u hu => Function.update_of_ne hu .., ?_⟩
        rwa [Hall.world, (f.put_eq _ _).1]
  | called name =>
      refine ⟨g, ?_, nofun⟩
      rw [List.append_nil]
      exact h.begin_ hrules name
  | @started job hjob =>
      refine ⟨g, ?_, nofun⟩
      rw [List.append_nil]
      exact h.start (hrules.job hjob)
  | @changed w hout =>
      refine ⟨g, ?_, nofun⟩
      rw [List.append_nil]
      exact { h.le with holds := hrules.outside hout h.holds }

/-- A hall that is sound for any number of strides is so after every run. -/
theorem sound_run (hrules : D.Admits post rules)
    (h : ∀ n, ∃ g, D.Sound post n past c g) {visited : List (Hall W J Out)}
    {moments : List (Moment W J)} (r : Hall.Run rules c visited moments d) :
    ∀ n, ∃ g, D.Sound post n (past ++ moments) d g := by
  induction r with
  | start => simpa using h
  | step r s ih =>
      intro n
      obtain ⟨g, hg⟩ := ih (n + 1)
      obtain ⟨g', hg', -⟩ := hg.step hrules s
      exact ⟨g', by rwa [List.append_assoc] at hg'⟩

end Discipline

end LanguageClient
