import LanguageClient.Proofs.Task.Turn
namespace LanguageClient

/-!
# Customs

How the tasks of a hall may change the world: quietly, at any time, or in a moment of its own, which
tells what was changed. Where all jobs and calls follow a custom, whatever quiet changes and allowed
moments keep is kept in every walk.
-/

structure Custom (W J : Type) [HasAgenda W] where
  /-- What may happen at any time. -/
  Quiet : W → W → Prop
  /-- What may happen while something is awaited. -/
  Allows : Moment W J → Prop
  refl (w : W) : Quiet w w
  trans {u v w : W} : Quiet u v → Quiet v w → Quiet u w
  agenda (f : Agenda → Agenda) (w : W) : Quiet w (HasAgenda.modify f w)
  allows {m : Moment W J} : Quiet m.before m.after → Allows m

variable {W J : Type} [HasAgenda W] {C : Custom W J} {α β : Type}

namespace Custom

theorem wake (C : Custom W J) (t : TaskId) (w : W) : C.Quiet w (HasAgenda.wake t w) := C.agenda _ w

theorem wakeAll (C : Custom W J) (ts : List TaskId) (w : W) : C.Quiet w (HasAgenda.wakeAll ts w) :=
  C.agenda _ w

end Custom

/-! ## Programs -/

namespace Program

def Follows {α : Type} (C : Custom W J) : Program W J α → Prop
  | done _ => True
  | await poll cancel next =>
    -- A moment tells the whole program, whatever comes after this one.
    (∀ t w {γ : Type} (k : α → Program W J γ),
      C.Allows (.asks t ((await poll cancel next).bind k) w (poll t w).1)) ∧
    (∀ t w, C.Quiet w (cancel t w)) ∧ ∀ b, (next b).Follows C
  | hold release next => (∀ w, C.Quiet w (release w)) ∧ next.Follows C
  | letGo next => next.Follows C
  | within _ next => ∀ late, (next late).Follows C
  | leave next => next.Follows C
  | spawn _ next => ∀ t, (next t).Follows C
  | abort _ next => next.Follows C
  | loop _ body next => (∀ state, (body state).Follows C) ∧ ∀ b, (next b).Follows C

theorem Follows.mono {C' : Custom W J} {p : Program W J α} (h : p.Follows C)
    (hquiet : ∀ {u w : W}, C.Quiet u w → C'.Quiet u w)
    (hallows : ∀ {m : Moment W J}, C.Allows m → C'.Allows m) : p.Follows C' := by
  induction p with
  | done a => trivial
  | await poll cancel next ih =>
      exact ⟨fun t w _ k => hallows (h.1 t w k), fun t w => hquiet (h.2.1 t w),
        fun b => ih b (h.2.2 b)⟩
  | hold release next ih => exact ⟨fun w => hquiet (h.1 w), ih h.2⟩
  | letGo next ih | leave next ih | abort other next ih => exact ih h
  | within millis next ih | spawn job next ih => exact fun x => ih x (h x)
  | loop state body next ihbody ih =>
      exact ⟨fun state => ihbody state (h.1 state), fun b => ih b (h.2 b)⟩

theorem Follows.bind {p : Program W J β} {k : β → Program W J α} (h : p.Follows C)
    (hk : ∀ b, (k b).Follows C) : (p.bind k).Follows C := by
  induction p with
  | done b => exact hk b
  | await poll cancel next ih =>
      refine ⟨fun t w γ k' => ?_, h.2.1, fun b => ih b (h.2.2 b) hk⟩
      have hasks := h.1 t w fun a => (k a).bind k'
      rwa [← bind_assoc] at hasks
  | hold release next ih => exact ⟨h.1, ih h.2 hk⟩
  | letGo next ih => exact ih h hk
  | within millis next ih => exact fun late => ih late (h late) hk
  | leave next ih => exact ih h hk
  | spawn job next ih => exact fun t => ih t (h t) hk
  | abort other next ih => exact ih h hk
  | loop state body next _ ih => exact ⟨h.1, fun b => ih b (h.2 b) hk⟩

theorem follows_done (a : α) : (done a : Program W J α).Follows C := trivial

theorem follows_await {poll : TaskId → W → W × Option β} {cancel : TaskId → W → W}
    (hpoll : ∀ t w, C.Quiet w (poll t w).1) (hcancel : ∀ t w, C.Quiet w (cancel t w)) :
    (await poll cancel done : Program W J β).Follows C :=
  ⟨fun t w _ _ => C.allows (hpoll t w), hcancel, fun _ => trivial⟩

/-- An action that is allowed as it is told. -/
theorem follows_act_of_allows {f : W → W × β}
    (h : ∀ t w {γ : Type} (k : β → Program W J γ), C.Allows (.asks t ((act f).bind k) w (f w).1)) :
    (act f : Program W J β).Follows C :=
  ⟨h, fun _ => C.refl, fun _ => trivial⟩

theorem follows_act {f : W → W × β} (h : ∀ w, C.Quiet w (f w).1) :
    (act f : Program W J β).Follows C := follows_await (fun _ => h) fun _ => C.refl

theorem follows_read (f : W → β) : (read f : Program W J β).Follows C := follows_act C.refl

theorem follows_modify {f : W → W} (h : ∀ w, C.Quiet w (f w)) :
    (modify f : Program W J Unit).Follows C := follows_act h

theorem follows_start (job : J) : (start job : Program W J TaskId).Follows C := fun _ => trivial

theorem follows_stop (task : TaskId) : (stop task : Program W J Unit).Follows C := trivial

theorem follows_sleep (millis : Nat) : (sleep millis : Program W J Unit).Follows C := by
  refine (follows_read _).bind fun time => follows_await (fun t w => ?_) fun t => C.agenda _
  split
  · exact C.refl w
  · exact C.agenda (fun a => if (time, t) ∈ a.alarms then a else a.setAlarm time t) w

theorem Follows.holding {p : Program W J β} {release : W → W} (h : p.Follows C)
    (hrelease : ∀ w, C.Quiet w (release w)) : (holding release p).Follows C :=
  ⟨hrelease, h.bind fun _ => trivial⟩

theorem Follows.timeout {p : Program W J β} (h : p.Follows C) (millis : Nat) :
    (timeout millis p).Follows C
  | true => follows_done _
  | false => h.bind fun _ => follows_done _

theorem Follows.iterate {σ : Type} {body : σ → Program W J (σ ⊕ β)}
    (h : ∀ state, (body state).Follows C) (state : σ) :
    (iterate state body : Program W J β).Follows C := ⟨h, fun _ => trivial⟩

theorem Follows.each {f : α → Program W J Unit} (h : ∀ a, (f a).Follows C) (as : List α) :
    (each f as).Follows C := by
  induction as with
  | nil => trivial
  | cons a as ih => exact (h a).bind fun _ => ih

theorem Follows.collect {f : α → Program W J β} (h : ∀ a, (f a).Follows C) (as : List α) :
    (collect f as).Follows C := by
  induction as with
  | nil => trivial
  | cons a as ih => exact (h a).bind fun _ => ih.bind fun _ => follows_done _

theorem Follows.locked {place : Lock.Place W} {p : Program W J β} (h : p.Follows C)
    (hwrite : ∀ lock w, C.Quiet w (place.write lock w)) : (locked place p).Follows C := by
  have hwakes (ts : List TaskId) (lock : Lock) (w : W) :
      C.Quiet w (HasAgenda.wakeAll ts (place.write lock w)) :=
    C.trans (hwrite lock w) (C.wakeAll ts _)
  exact ⟨fun t w _ _ => C.allows (hwrite _ w), fun t w => hwakes _ _ w,
    fun _ => h.holding fun w => hwakes _ _ w⟩

theorem Follows.ite {c : Prop} [Decidable c] {p q : Program W J α} (hp : p.Follows C)
    (hq : q.Follows C) : (if c then p else q).Follows C := by
  split
  · exact hp
  · exact hq

end Program

def Task.Scope.Follows (C : Custom W J) : Task.Scope W J α → Prop
  | .held release => ∀ w, C.Quiet w (release w)
  | .deadline _ late => late.Follows C

structure Task.Follows (C : Custom W J) (task : Task W J α) : Prop where
  program : task.program.Follows C
  scopes : ∀ scope ∈ task.scopes, scope.Follows C

/-! ## Strides and turns -/

/-- Quiet changes and allowed moments keep it. -/
structure Custom.Keeps (C : Custom W J) (I : List (Moment W J) → W → Prop) : Prop where
  quiet {past : List (Moment W J)} {u w : W} : I past u → C.Quiet u w → I past w
  moment {past : List (Moment W J)} {m : Moment W J} : I past m.before → C.Allows m →
    I (past ++ [m]) m.after

structure Runtime.Follows (C : Custom W J) (rt : Runtime W J) : Prop where
  perform (job : J) : (rt.perform job).Follows C
  tasks : ∀ task ∈ rt.tasks, task.Follows C

namespace Runtime

theorem quiet_unwind {t : TaskId} {scopes : List (Task.Scope W J α)}
    (h : ∀ scope ∈ scopes, scope.Follows C) (w : W) : C.Quiet w (unwind t scopes w) := by
  induction scopes generalizing w with
  | nil => exact C.refl w
  | cons scope rest ih =>
      have hrest := ih fun scope hs => h scope (List.mem_cons_of_mem _ hs)
      cases scope with
      | held release => exact C.trans (h _ List.mem_cons_self w) (hrest _)
      | deadline time late => exact C.trans (C.agenda _ w) (hrest _)

theorem follows_expired {now : Nat} {scopes inner rest : List (Task.Scope W J α)}
    {late : Program W J α} (h : ∀ scope ∈ scopes, scope.Follows C)
    (he : expired? now scopes = some (inner, late, rest)) :
    (∀ scope ∈ inner, scope.Follows C) ∧ late.Follows C ∧ ∀ scope ∈ rest, scope.Follows C := by
  induction scopes generalizing inner with
  | nil => cases he
  | cons scope scopes ih =>
      obtain ⟨hscope, hscopes⟩ := List.forall_mem_cons.1 h
      -- The scope stands outside the deadline that has passed.
      have hpassed (he : (expired? now scopes).map (fun r => (scope :: r.1, r.2.1, r.2.2)) =
          some (inner, late, rest)) : (∀ scope ∈ inner, scope.Follows C) ∧
            late.Follows C ∧ ∀ scope ∈ rest, scope.Follows C := by
        obtain ⟨⟨inner', late', rest'⟩, hbehind, heq⟩ := Option.map_eq_some_iff.1 he
        cases heq
        exact (ih hscopes hbehind).imp_left fun hinner => List.forall_mem_cons.2 ⟨hscope, hinner⟩
      cases scope with
      | held release => exact hpassed he
      | deadline time late' =>
          by_cases htime : time ≤ now
          · simp only [expired?, if_pos htime, Option.some.injEq, Prod.mk.injEq] at he
            obtain ⟨rfl, rfl, rfl⟩ := he
            exact ⟨List.forall_mem_singleton.2 hscope, hscope, hscopes⟩
          · simp only [expired?, if_neg htime] at he
            exact hpassed he

theorem Follows.of_world {rt : Runtime W J} (h : rt.Follows C) (w : W) :
    Follows C { rt with world := w } := ⟨h.perform, h.tasks⟩

theorem Follows.addTask {rt : Runtime W J} (h : rt.Follows C) {p : Program W J Unit}
    (hp : p.Follows C) : (rt.addTask p).Follows C :=
  ⟨h.perform, List.forall_mem_append.2
    ⟨h.tasks, List.forall_mem_singleton.2 ⟨hp, List.forall_mem_nil _⟩⟩⟩

theorem Follows.abortTask {rt : Runtime W J} (h : rt.Follows C) (t : TaskId) :
    (rt.abortTask t).Follows C := by
  unfold Runtime.abortTask
  split
  · refine ⟨h.perform, List.forall_mem_map.2 fun task htask => ?_⟩
    have hf := h.tasks task htask
    split
    · exact ⟨hf.program, hf.scopes⟩
    · exact hf
  · exact h

theorem Follows.stride {rt rt' : Runtime W J} {task : Task W J α} {r : Stride W J α}
    (h : rt.Follows C) (hs : rt.stride task = (rt', r)) : rt'.Follows C := by
  obtain ⟨t, p, scopes, aborted⟩ := task
  obtain ⟨moments, -, hstrode⟩ := strode hs
  dsimp only at hstrode
  cases hstrode with
  | spawn job next => exact h.addTask (h.perform job)
  | abort other next => exact h.abortTask other
  | _ => exact h.of_world _

theorem Follows.turn {rt rt' : Runtime W J} {task : Task W J α} {moments : List (Moment W J)}
    {left : List (Task W J α)} (h : rt.Follows C) (hturn : rt.Turn task moments rt' left) :
    rt'.Follows C := by
  induction hturn with
  | ended hs | waits hs | pauses hs _ => exact h.stride hs
  | goes hs _ ih => exact ih (h.stride hs)

variable {I : List (Moment W J) → W → Prop} {past : List (Moment W J)}

/-- What is kept so far, and what is left follows the custom. -/
structure Upholds (C : Custom W J) (I : List (Moment W J) → W → Prop) (past : List (Moment W J))
    (rt : Runtime W J) (left : List (Task W J α)) : Prop where
  kept : I past rt.world
  left : ∀ task ∈ left, task.Follows C

theorem Upholds.stride (hI : C.Keeps I) {rt rt' : Runtime W J} {task : Task W J α}
    {r : Stride W J α} {left : List (Task W J α)} (h : Upholds C I past rt [task])
    (hs : rt.stride task = (rt', r)) (hleft : ∀ next ∈ left, r = .going next) :
    Upholds C I (past ++ rt.moments task) rt' left := by
  obtain ⟨hkept, htask⟩ := h
  obtain ⟨hp, hscopes⟩ := htask task (List.mem_singleton_self _)
  obtain ⟨t, p, scopes, aborted⟩ := task
  obtain ⟨moments, hmoments, hstrode⟩ := strode hs
  rw [hmoments]
  dsimp only at hp hscopes hstrode
  have going {rt₁ : Runtime W J} {moments : List (Moment W J)} {next : Task W J α}
      (hleft : ∀ x ∈ left, Stride.going next = .going x) (hw : I (past ++ moments) rt₁.world)
      (hnext : next.Follows C) : Upholds C I (past ++ moments) rt₁ left := by
    refine ⟨hw, fun x hx => ?_⟩
    obtain rfl := Stride.going.inj (hleft x hx)
    exact hnext
  -- A stride without moments.
  have silent {rt₁ : Runtime W J} {next : Task W J α}
      (hleft : ∀ x ∈ left, Stride.going next = .going x) (hw : C.Quiet rt.world rt₁.world)
      (hnext : next.Follows C) : Upholds C I (past ++ []) rt₁ left :=
    going hleft (by rw [List.append_nil]; exact hI.quiet hkept hw) hnext
  have asked {β : Type} {poll : TaskId → W → W × Option β} {cancel : TaskId → W → W}
      {next : β → Program W J α} {u : W} {b : Option β}
      (hp : (Program.await poll cancel next).Follows C) (hpoll : poll t rt.world = (u, b)) :
      I (past ++ [.asks t (.await poll cancel next) rt.world u]) u := by
    have hallows := hp.1 t rt.world .done
    rw [Program.bind_done, hpoll] at hallows
    exact hI.moment hkept hallows
  cases hstrode with
  | ended a => exact ⟨by rwa [List.append_nil], fun x hx => by cases hleft x hx⟩
  | answered hpoll => exact going hleft (asked hp hpoll) ⟨hp.2.2 _, hscopes⟩
  | waits hpoll _ => exact ⟨asked hp hpoll, fun x hx => by cases hleft x hx⟩
  | @gaveUp _ poll cancel next _ inner rest late u hpoll he =>
      obtain ⟨hinner, hlate, hrest⟩ := follows_expired hscopes he
      have hgiven := hI.moment (m := .givesUp t (.await poll cancel next) u) (asked hp hpoll)
        (C.allows (C.refl u))
      rw [List.append_assoc] at hgiven
      refine going hleft (hI.quiet hgiven ?_) ⟨hlate, hrest⟩
      exact C.trans (hp.2.1 t u) (quiet_unwind hinner _)
  | hold release next =>
      exact silent hleft (C.refl _) ⟨hp.2, List.forall_mem_cons.2 ⟨hp.1, hscopes⟩⟩
  | released release next =>
      obtain ⟨hrelease, hrest⟩ := List.forall_mem_cons.1 hscopes
      exact silent hleft (hrelease rt.world) ⟨hp, hrest⟩
  | unheld | unbound => exact silent hleft (C.refl _) ⟨hp, hscopes⟩
  | within millis next =>
      have hset := C.agenda (·.setAlarm (HasAgenda.now rt.world + millis) t) rt.world
      exact silent hleft hset ⟨hp false, List.forall_mem_cons.2 ⟨hp true, hscopes⟩⟩
  | left time late next =>
      have hdrop := C.agenda (·.dropAlarm time t) rt.world
      exact silent hleft hdrop ⟨hp, (List.forall_mem_cons.1 hscopes).2⟩
  | spawn job next => exact silent hleft (C.wake _ _) ⟨hp _, hscopes⟩
  | abort other next =>
      refine silent hleft ?_ ⟨hp, hscopes⟩
      unfold abortTask
      split
      · exact C.wake _ _
      · exact C.refl _
  | loop state body next =>
      refine silent hleft (C.refl _) ⟨(hp.1 state).bind fun r => ?_, hscopes⟩
      cases r with
      | inl state => exact hp
      | inr b => exact hp.2 b

/-- However other tasks come in between, a turn of a task that follows the custom does. -/
theorem Turn.upholds (hI : C.Keeps I) {rt rt' : Runtime W J} {task : Task W J α}
    {moments : List (Moment W J)} {left : List (Task W J α)} (h : rt.Turn task moments rt' left)
    (hup : Upholds C I past rt [task]) : Upholds C I (past ++ moments) rt' left := by
  induction h generalizing past with
  | ended hs => exact hup.stride hI hs (List.forall_mem_nil _)
  | waits hs =>
      have hwaits : Upholds C I _ _ [] := hup.stride hI hs (List.forall_mem_nil _)
      exact ⟨hwaits.kept, hup.left⟩
  | pauses hs _ =>
      exact hup.stride hI hs fun x hx => congrArg _ (List.mem_singleton.1 hx).symm
  | goes hs _ ih =>
      rw [← List.append_assoc]
      exact ih (hup.stride hI hs fun x hx => congrArg _ (List.mem_singleton.1 hx).symm)

theorem kept_giveUp (hI : C.Keeps I) {rt : Runtime W J} {task : Task W J α} (h : task.Follows C)
    (hw : I past rt.world) :
    I (past ++ [.givesUp task.id task.program rt.world]) (rt.giveUp task).world := by
  obtain ⟨t, p, scopes, aborted⟩ := task
  have hgiven := hI.moment (m := .givesUp t p rt.world) hw (C.allows (C.refl rt.world))
  refine hI.quiet hgiven ?_
  rw [giveUp_eq]
  refine C.trans ?_ (quiet_unwind h.scopes _)
  cases p with
  | await poll cancel next => exact h.program.2.1 t rt.world
  | _ => exact C.refl rt.world

end Runtime

/-! ## Walks -/

namespace Hall

variable {L : Type} {Out : L → Type} {rules : Rules W J Out} {c d : Hall W J Out}
  {past : List (Moment W J)} {I : List (Moment W J) → W → Prop}

structure Rules.Follow (C : Custom W J) (rules : Rules W J Out) : Prop where
  call (name : L) : (rules.call name).Follows C
  outside {u w : W} : rules.outside u w → C.Quiet u w

structure Follows (C : Custom W J) (c : Hall W J Out) : Prop where
  runtime : c.runtime.Follows C
  calls : ∀ call ∈ c.calls, call.task.Follows C

theorem Follows.focus (h : c.Follows C) {task : Task W J α} {rt : Runtime W J}
    {put : List (Task W J α) → Runtime W J → Hall W J Out} (f : c.Focus task rt put) :
    rt.Follows C ∧ task.Follows C ∧ rt.world = c.world ∧
      ∀ {rt' : Runtime W J} {left : List (Task W J α)}, rt'.Follows C →
        (∀ next ∈ left, next.Follows C) → (put left rt').Follows C ∧
          (put left rt').world = rt'.world := by
  cases f with
  | task htasks =>
      have hall := h.runtime.tasks
      rw [htasks, List.forall_mem_append, List.forall_mem_cons] at hall
      obtain ⟨hfront, htask, hback⟩ := hall
      refine ⟨⟨h.runtime.perform, List.forall_mem_append.2 ⟨hfront, hback⟩⟩, htask, rfl, ?_⟩
      exact fun hrt hleft =>
        ⟨⟨⟨hrt.perform, List.forall_mem_append.2 ⟨hleft, hrt.tasks⟩⟩, h.calls⟩, rfl⟩
  | call hcalls =>
      have hall := h.calls
      rw [hcalls, List.forall_mem_append, List.forall_mem_cons] at hall
      obtain ⟨hfront, htask, hback⟩ := hall
      refine ⟨h.runtime, htask, rfl, fun hrt hleft => ⟨⟨hrt, ?_⟩, rfl⟩⟩
      refine List.forall_mem_append.2 ⟨List.forall_mem_append.2 ⟨hfront, ?_⟩, hback⟩
      exact List.forall_mem_map.2 hleft

theorem Move.keeps (hI : C.Keeps I) (hrules : rules.Follow C) {moments : List (Moment W J)}
    (m : Move rules c moments d) (hc : c.Follows C) (h : I past c.world) :
    d.Follows C ∧ I (past ++ moments) d.world := by
  cases m with
  | went f _ hturn =>
      obtain ⟨hrt, htask, hworld, hput⟩ := hc.focus f
      have hup : Runtime.Upholds C I past _ [_] :=
        ⟨hworld ▸ h, List.forall_mem_singleton.2 htask⟩
      obtain ⟨hkept, hleft⟩ := hturn.upholds hI hup
      obtain ⟨hd, heq⟩ := hput (hrt.turn hturn) hleft
      exact ⟨hd, heq ▸ hkept⟩
  | dropped f _ =>
      obtain ⟨hrt, htask, hworld, hput⟩ := hc.focus f
      have hkept := Runtime.kept_giveUp hI htask (hworld ▸ h)
      rw [Runtime.giveUp_eq] at hkept ⊢
      obtain ⟨hd, heq⟩ := hput (hrt.of_world _) (List.forall_mem_nil _)
      exact ⟨hd, heq ▸ hkept⟩
  | called name =>
      rw [List.append_nil]
      refine ⟨⟨⟨hc.runtime.perform, hc.runtime.tasks⟩, ?_⟩, h⟩
      exact List.forall_mem_append.2
        ⟨hc.calls, List.forall_mem_singleton.2 ⟨hrules.call name, List.forall_mem_nil _⟩⟩
  | @started job _ =>
      rw [List.append_nil]
      exact ⟨⟨hc.runtime.addTask (hc.runtime.perform job), hc.calls⟩, hI.quiet h (C.wake _ _)⟩
  | changed hw =>
      rw [List.append_nil]
      exact ⟨⟨hc.runtime.of_world _, hc.calls⟩, hI.quiet h (hrules.outside hw)⟩

/-- What the custom keeps is kept in every walk. -/
theorem Walk.keeps (hI : C.Keeps I) (hrules : rules.Follow C) (w : Walk rules c past d)
    (hc : c.Follows C) (h : I [] c.world) : I past d.world := by
  suffices d.Follows C ∧ I past d.world from this.2
  induction w with
  | start => exact ⟨hc, h⟩
  | move _ m ih => exact m.keeps hI hrules ih.1 ih.2

end Hall

end LanguageClient
