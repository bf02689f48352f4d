import LanguageClient.Proofs.Task.Custom
import LanguageClient.Proofs.Task.View
namespace LanguageClient

/-!
# Programs that spare a view

A program spares a view if nothing that it does to the world is seen, in whatever world it goes on
and wherever it is given up. So a task that spares a view leaves it alone in every turn, whatever
other tasks make of it in between.
-/

variable {W J G : Type} [HasAgenda W] {view : View W G} {α β γ : Type}

theorem View.same_agenda (view : View W G) (f : Agenda → Agenda) (w : W) :
    view.Same w (HasAgenda.modify f w) := view.see_modify f w

/-- Nothing that is seen may change. -/
def View.custom (view : View W G) : Custom W J where
  Quiet := view.Same
  Allows m := view.Same m.before m.after
  refl _ := rfl
  trans h h' := h'.trans h
  agenda := view.same_agenda
  allows h := h

namespace Program

def Spares {α : Type} (view : View W G) : Program W J α → Prop
  | done _ => True
  | await poll cancel next => (∀ t w, view.Same w (poll t w).1) ∧
    (∀ t w, view.Same w (cancel t w)) ∧ ∀ b, (next b).Spares view
  | hold release next => (∀ w, view.Same w (release w)) ∧ next.Spares view
  | letGo next => next.Spares view
  | within _ next => ∀ late, (next late).Spares view
  | leave next => next.Spares view
  | spawn _ next => ∀ t, (next t).Spares view
  | abort _ next => next.Spares view
  | loop _ body next => (∀ state, (body state).Spares view) ∧ ∀ b, (next b).Spares view

/-- To spare a view is a custom. -/
theorem follows_custom_iff {p : Program W J α} : p.Follows view.custom ↔ p.Spares view := by
  induction p with
  | done a => exact Iff.rfl
  | await poll cancel next ih =>
      refine and_congr ⟨fun h t w => h t w .done, fun h t w _ _ => h t w⟩ (and_congr_right' ?_)
      exact forall_congr' ih
  | hold release next ih => exact and_congr_right' ih
  | letGo next ih | leave next ih | abort other next ih => exact ih
  | within millis next ih | spawn job next ih => exact forall_congr' ih
  | loop state body next ihbody ih => exact and_congr (forall_congr' ihbody) (forall_congr' ih)

theorem Spares.follows {C : Custom W J} {p : Program W J α} (h : p.Spares view)
    (hC : ∀ {w w' : W}, view.Same w w' → C.Quiet w w') : p.Follows C :=
  (follows_custom_iff.2 h).mono hC fun hm => C.allows (hC hm)

theorem Spares.bind {p : Program W J β} {k : β → Program W J α} (h : p.Spares view)
    (hk : ∀ b, (k b).Spares view) : (p.bind k).Spares view :=
  follows_custom_iff.1 ((follows_custom_iff.2 h).bind fun b => follows_custom_iff.2 (hk b))

theorem spares_done (a : α) : (done a : Program W J α).Spares view := trivial

theorem spares_await {poll : TaskId → W → W × Option β} {cancel : TaskId → W → W}
    (hpoll : ∀ t w, view.Same w (poll t w).1) (hcancel : ∀ t w, view.Same w (cancel t w)) :
    (await poll cancel done : Program W J β).Spares view := ⟨hpoll, hcancel, fun _ => trivial⟩

theorem spares_act {f : W → W × β} (h : ∀ w, view.Same w (f w).1) :
    (act f : Program W J β).Spares view := spares_await (fun _ => h) fun _ _ => rfl

theorem spares_modify {f : W → W} (h : ∀ w, view.Same w (f w)) :
    (modify f : Program W J Unit).Spares view := spares_act h

theorem Spares.holding {p : Program W J β} {release : W → W} (h : p.Spares view)
    (hrelease : ∀ w, view.Same w (release w)) : (holding release p).Spares view :=
  ⟨hrelease, h.bind fun _ => trivial⟩

theorem Spares.iterate {σ : Type} {body : σ → Program W J (σ ⊕ β)}
    (h : ∀ state, (body state).Spares view) (state : σ) :
    (iterate state body : Program W J β).Spares view := ⟨h, fun _ => trivial⟩

theorem Spares.locked {place : Lock.Place W} {p : Program W J β} (h : p.Spares view)
    (hwrite : ∀ lock w, view.Same w (place.write lock w)) : (locked place p).Spares view :=
  ⟨fun _ w => hwrite _ w, fun _ w => (view.see_wakeAll _ _).trans (hwrite _ w),
    fun _ => h.holding fun w => (view.see_wakeAll _ _).trans (hwrite _ w)⟩

end Program

def Task.Scope.Spares (view : View W G) : Task.Scope W J α → Prop
  | .held release => ∀ w, view.Same w (release w)
  | .deadline _ late => late.Spares view

structure Task.Spares (view : View W G) (task : Task W J α) : Prop where
  program : task.program.Spares view
  scopes : ∀ scope ∈ task.scopes, scope.Spares view

theorem Task.follows_custom_iff {task : Task W J α} :
    task.Follows view.custom ↔ task.Spares view := by
  have hscope (scope : Task.Scope W J α) : scope.Follows view.custom ↔ scope.Spares view := by
    cases scope with
    | held release => exact Iff.rfl
    | deadline time late => exact Program.follows_custom_iff
  constructor
  · intro h
    exact ⟨Program.follows_custom_iff.1 h.program, fun x hx => (hscope x).1 (h.scopes x hx)⟩
  · intro h
    exact ⟨Program.follows_custom_iff.2 h.program, fun x hx => (hscope x).2 (h.scopes x hx)⟩

namespace Runtime

/-- Nothing was seen of what happened, and what is left spares the view. -/
structure Spared (view : View W G) (rt : Runtime W J) (moments : List (Moment W J))
    (rt' : Runtime W J) (left : List (Task W J α)) : Prop where
  same : view.Same rt.world rt'.world
  moments : ∀ m ∈ moments, view.Same m.before m.after
  left : ∀ task ∈ left, task.Spares view

theorem keeps_same (view : View W G) (u : W) : (view.custom : Custom W J).Keeps
    fun past w => view.Same u w ∧ ∀ m ∈ past, view.Same m.before m.after where
  quiet h hw := ⟨Eq.trans hw h.1, h.2⟩
  moment h hm := ⟨Eq.trans hm h.1, List.forall_mem_append.2 ⟨h.2, List.forall_mem_singleton.2 hm⟩⟩

/-- However other tasks come in between, a turn of a task that spares the view does. -/
theorem Turn.spared {rt rt' : Runtime W J} {task : Task W J α} {moments : List (Moment W J)}
    {left : List (Task W J α)} (h : rt.Turn task moments rt' left) (hspares : task.Spares view) :
    Spared view rt moments rt' left := by
  have hbegin : Upholds view.custom (fun past w => view.Same rt.world w ∧
      ∀ m ∈ past, view.Same m.before m.after) [] rt [task] :=
    ⟨⟨rfl, List.forall_mem_nil _⟩, List.forall_mem_singleton.2 (Task.follows_custom_iff.2 hspares)⟩
  have hend := h.upholds (keeps_same view rt.world) hbegin
  exact ⟨hend.kept.1, hend.kept.2, fun next hn => Task.follows_custom_iff.1 (hend.left next hn)⟩

/-- What is asked first is there at once. -/
theorem Turn.of_act {f : W → W × β} {k : β → Program W J α} {rt rt' : Runtime W J} {t : TaskId}
    {scopes : List (Task.Scope W J α)} {aborted : Bool} {moments : List (Moment W J)}
    {left : List (Task W J α)}
    (h : rt.Turn ⟨t, (Program.act f).bind k, scopes, aborted⟩ moments rt' left) :
    ∃ later, moments = .asks t ((Program.act f).bind k) rt.world (f rt.world).1 :: later ∧
      (later = [] ∧ left = [⟨t, k (f rt.world).2, scopes, aborted⟩] ∨
        Turn { rt with world := (f rt.world).1 } ⟨t, k (f rt.world).2, scopes, aborted⟩ later rt'
          left) := by
  have hs : rt.stride ⟨t, (Program.act f).bind k, scopes, aborted⟩ =
      ({ rt with world := (f rt.world).1 }, .going ⟨t, k (f rt.world).2, scopes, aborted⟩) := rfl
  cases h with
  | ended h | waits h => cases hs.symm.trans h
  | pauses h _ =>
      cases hs.symm.trans h
      exact ⟨[], rfl, .inl ⟨rfl, rfl⟩⟩
  | goes h r =>
      cases hs.symm.trans h
      exact ⟨_, rfl, .inr r⟩

/-- A task stays the same one. -/
theorem Turn.id_eq {rt rt' : Runtime W J} {task : Task W J α} {moments : List (Moment W J)}
    {left : List (Task W J α)} (h : rt.Turn task moments rt' left) :
    ∀ next ∈ left, next.id = task.id := by
  induction h with
  | ended _ => exact List.forall_mem_nil _
  | waits _ => exact List.forall_mem_singleton.2 rfl
  | pauses h _ => exact List.forall_mem_singleton.2 (stride_going h).1
  | goes h _ ih => exact fun x hx => (ih x hx).trans (stride_going h).1

end Runtime

/-! ## Tasks that decide at their beginning -/

/-- A task that ran `p` from its beginning, where it decides whether to do anything that is seen. -/
inductive Task.Decided (view : View W G) (p : Program W J α) (Allows : W → Prop)
    (past : List (Moment W J)) (task : Task W J α) : Prop where
  | waits (hp : task.program = p) (hs : task.scopes = [])
  | allowed {w u : W} (h : .asks task.id p w u ∈ past) (hw : Allows w)
  | spares (h : task.Spares view)

namespace Task.Decided

variable {f : W → W × β} {k : β → Program W J α} {Allows : W → Prop} {past : List (Moment W J)}
  {task : Task W J α}

theorem mono {p : Program W J α} (h : task.Decided view p Allows past)
    (later : List (Moment W J)) : task.Decided view p Allows (past ++ later) := by
  cases h with
  | waits hp hs => exact .waits hp hs
  | allowed h hw => exact .allowed (List.mem_append_left _ h) hw
  | spares h => exact .spares h

variable (hk : ∀ w, ¬ Allows w → (k (f w).2).Spares view) {rt rt' : Runtime W J}
  {moments : List (Moment W J)} {left : List (Task W J α)}

include hk

/-- In each turn the task was allowed to do what is seen, or does nothing that is seen once it has
begun. -/
theorem turn (h : task.Decided view ((Program.act f).bind k) Allows past)
    (hturn : rt.Turn task moments rt' left) :
    (∃ w u, .asks task.id ((Program.act f).bind k) w u ∈ past ++ moments ∧ Allows w) ∨
      (∀ next ∈ left, next.Spares view) ∧ ∀ m ∈ moments,
        m = .asks task.id ((Program.act f).bind k) rt.world (f rt.world).1 ∨
          view.Same m.before m.after := by
  cases h with
  | allowed hm hw => exact .inl ⟨_, _, List.mem_append_left _ hm, hw⟩
  | spares h =>
      have hspared := hturn.spared h
      exact .inr ⟨hspared.left, fun m hm => .inr (hspared.moments m hm)⟩
  | waits hp hs =>
      obtain ⟨t, p, scopes, aborted⟩ := task
      obtain rfl := hp
      obtain rfl := hs
      obtain ⟨later, rfl, hthen⟩ := hturn.of_act
      by_cases hw : Allows rt.world
      · exact .inl ⟨_, _, List.mem_append_right _ List.mem_cons_self, hw⟩
      have hspares : Task.Spares view ⟨t, k (f rt.world).2, [], aborted⟩ :=
        ⟨hk rt.world hw, List.forall_mem_nil _⟩
      refine .inr ?_
      rcases hthen with ⟨rfl, rfl⟩ | hthen
      · exact ⟨List.forall_mem_singleton.2 hspares, List.forall_mem_singleton.2 (.inl rfl)⟩
      · have hspared := hthen.spared hspares
        exact ⟨hspared.left,
          List.forall_mem_cons.2 ⟨.inl rfl, fun m hm => .inr (hspared.moments m hm)⟩⟩

theorem next (h : task.Decided view ((Program.act f).bind k) Allows past)
    (hturn : rt.Turn task moments rt' left) {next : Task W J α} (hnext : next ∈ left) :
    next.Decided view ((Program.act f).bind k) Allows (past ++ moments) := by
  rcases h.turn hk hturn with ⟨w, u, hm, hw⟩ | ⟨hspares, _⟩
  · exact .allowed (by rw [hturn.id_eq next hnext]; exact hm) hw
  · exact .spares (hspares next hnext)

end Task.Decided

namespace Hall

variable {L : Type} {Out : L → Type} {rules : Rules W J Out} {c d : Hall W J Out}
  {past : List (Moment W J)}

/-- What holds of calls at their beginning and is kept by their turns holds of all calls. -/
theorem Walk.forall_calls {P : List (Moment W J) → Call W J Out → Prop}
    (hmono : ∀ {past later call}, P past call → P (past ++ later) call)
    (hbegin : ∀ past name t, P past ⟨name, t, rules.call name, [], false⟩)
    (hturn : ∀ {past moments name task next} {rt rt' : Runtime W J} {left}, P past ⟨name, task⟩ →
      rt.Turn task moments rt' left → next ∈ left → P (past ++ moments) ⟨name, next⟩)
    (w : Walk rules c past d) (hc : ∀ call ∈ c.calls, P [] call) :
    ∀ call ∈ d.calls, P past call := by
  induction w with
  | start => exact hc
  | @move past moments d e _ m ih =>
      have hkept : ∀ call ∈ d.calls, P (past ++ moments) call := fun call h => hmono (ih call h)
      cases m with
      | went focus _ h =>
          cases focus with
          | task _ => exact hkept
          | @call front back name task hcalls =>
              rw [hcalls, List.forall_mem_append, List.forall_mem_cons] at hkept
              have hnow : P past ⟨name, task⟩ :=
                ih _ (hcalls ▸ List.mem_append_right _ List.mem_cons_self)
              refine List.forall_mem_append.2 ⟨List.forall_mem_append.2 ⟨hkept.1, ?_⟩, hkept.2.2⟩
              exact List.forall_mem_map.2 fun next hnext => hturn hnow h hnext
      | dropped focus _ =>
          cases focus with
          | task _ => exact hkept
          | call hcalls =>
              rw [hcalls, List.forall_mem_append, List.forall_mem_cons] at hkept
              refine List.forall_mem_append.2 ⟨List.forall_mem_append.2 ⟨hkept.1, ?_⟩, hkept.2.2⟩
              exact List.forall_mem_nil _
      | called name =>
          exact List.forall_mem_append.2 ⟨hkept, List.forall_mem_singleton.2 (hbegin ..)⟩
      | started _ | changed _ => exact hkept

variable {name : L} {f : W → W × β} {k : β → Program W J (Out name)} {Allows : W → Prop}

/-- Whatever a call does that is seen, the world at its beginning allowed it. -/
theorem Walk.decided (hcall : rules.call name = (Program.act f).bind k)
    (hk : ∀ w, ¬ Allows w → (k (f w).2).Spares view) (w : Walk rules c past d) (hc : c.calls = [])
    {task : Task W J (Out name)} (h : ⟨name, task⟩ ∈ d.calls) :
    task.Decided view ((Program.act f).bind k) Allows past := by
  let P (past : List (Moment W J)) (call : Call W J Out) : Prop := ∀ h : call.name = name,
    Task.Decided view ((Program.act f).bind k) Allows past (h ▸ call.task)
  refine w.forall_calls (P := P) (fun hP h => (hP h).mono _) ?_ ?_ (by simp [hc]) _ h rfl
  · rintro past name t rfl
    exact .waits hcall rfl
  · rintro past moments name task next rt rt' left hP hturn hnext rfl
    exact (hP rfl).next hk hturn hnext

end Hall

end LanguageClient
