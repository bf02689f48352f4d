import LanguageClient.Proofs.Task.Hall
import Mathlib.Logic.Function.Basic
namespace LanguageClient

/-!
# Disciplines

An invariant of a world that tasks change in any order. What the invariant knows of a task is the
task's local state. A program is safe for a task if it keeps the invariant whatever the others do
and wherever it is given up. Loops may run for ever, so that safety is counted in strides.
-/

open Function (update)

structure Discipline (W J : Type) [HasAgenda W] : Type 2 where
  Local : Type 1
  idle : Local
  Holds : List (Moment W J) → (TaskId → Local) → W → Prop
  /-- Nothing is left to do when the task ends here. -/
  Rests : Local → Prop
  /-- What the local state tells of the program. -/
  Shows : {α : Type} → Local → Program W J α → Prop
  MayStart : J → Prop
  View : Type
  /-- What giving up does not change. -/
  view : W → View
  rests_idle : Rests idle
  shows_done {α : Type} (ℓ : Local) (a : α) : Shows ℓ (.done a)
  shows_bind {α β : Type} {ℓ : Local} {p : Program W J β} (k : β → Program W J α) :
    (∀ b, p ≠ .done b) → Shows ℓ p → Shows ℓ (p.bind k)
  holds_idle {past : List (Moment W J)} {g : TaskId → Local} {w : W} {t : TaskId} :
    Rests (g t) → Holds past g w → Holds past (update g t idle) w
  holds_agenda {past : List (Moment W J)} {g : TaskId → Local} {w : W} (f : Agenda → Agenda) :
    Holds past g w → Holds past g (HasAgenda.modify f w)
  view_agenda (w : W) (f : Agenda → Agenda) : view (HasAgenda.modify f w) = view w

namespace Task.Scope

variable {W J : Type} {α β : Type}

/-- The scope within a longer program. -/
def bind (k : β → Program W J α) : Task.Scope W J β → Task.Scope W J α
  | held release => held release
  | deadline time late => deadline time (late.bind k)

end Task.Scope

namespace Discipline

variable {W J : Type} [HasAgenda W] (D : Discipline W J) (t : TaskId) {α β : Type}

/-- A release leads from one local state to another. -/
structure Releases (release : W → W) (ℓ ℓ' : D.Local) : Prop where
  holds {past : List (Moment W J)} {g : TaskId → D.Local} {w : W} :
    g t = ℓ → D.Holds past g w → D.Holds past (update g t ℓ') (release w)
  view_eq (w : W) : D.view (release w) = D.view w

/-- Asking keeps the invariant; with an answer the task goes on in a local state from `next`. -/
structure Asks (poll : TaskId → W → W × Option β) (program : Program W J α) (ℓ : D.Local)
    (next : D.Local → β → Prop) : Prop where
  answered {past : List (Moment W J)} {g : TaskId → D.Local} {w u : W} {b : β} : g t = ℓ →
    D.Holds past g w → poll t w = (u, some b) →
    ∃ ℓ', D.Holds (past ++ [.asks t program w u]) (update g t ℓ') u ∧ next ℓ' b
  waits {past : List (Moment W J)} {g : TaskId → D.Local} {w u : W} : g t = ℓ →
    D.Holds past g w → poll t w = (u, none) → D.Holds (past ++ [.asks t program w u]) g u

/-- Giving up keeps the invariant and leaves the task in a local state from `left`. -/
structure Cancels (cancel : TaskId → W → W) (program : Program W J α) (ℓ : D.Local)
    (left : D.Local → Prop) : Prop where
  holds {past : List (Moment W J)} {g : TaskId → D.Local} {w : W} : g t = ℓ → D.Holds past g w →
    ∃ ℓ', D.Holds (past ++ [.givesUp t program w]) (update g t ℓ') (cancel t w) ∧ left ℓ'
  view_eq (w : W) : D.view (cancel t w) = D.view w

/-- Scopes can be unwound, down to a deadline or to the end. -/
def Yields (left : D.Local → Prop)
    (safe : D.Local → Program W J α → List (Task.Scope W J α) → Prop) :
    D.Local → List (Task.Scope W J α) → Prop
  | ℓ, [] => left ℓ
  | ℓ, .held release :: rest => ∃ ℓ', D.Releases t release ℓ ℓ' ∧ Yields left safe ℓ' rest
  | ℓ, .deadline _ late :: rest => D.Rests ℓ ∧ safe ℓ late rest ∧ Yields left safe ℓ rest

/-- What safety asks of the next stride. -/
def Next (left : D.Local → Prop) (post : D.Local → α → Prop)
    (safe : D.Local → Program W J α → List (Task.Scope W J α) → Prop) :
    D.Local → Program W J α → List (Task.Scope W J α) → Prop
  | ℓ, .done a, scopes => scopes = [] ∧ post ℓ a
  | ℓ, .await poll cancel next, scopes =>
    -- The moment tells the whole program, whatever comes after this one.
    ∀ {γ : Type} (k : α → Program W J γ),
      D.Asks t poll ((Program.await poll cancel next).bind k) ℓ
          (fun ℓ' b => safe ℓ' (next b) scopes) ∧
        D.Cancels t cancel ((Program.await poll cancel next).bind k) ℓ
          fun ℓ' => D.Yields t left safe ℓ' scopes
  | ℓ, .hold release next, scopes => safe ℓ next (.held release :: scopes)
  | ℓ, .letGo next, .held release :: rest => ∃ ℓ', D.Releases t release ℓ ℓ' ∧ safe ℓ' next rest
  | _, .letGo _, _ => False
  | ℓ, .within _ next, scopes => ∀ time, safe ℓ (next false) (.deadline time (next true) :: scopes)
  | ℓ, .leave next, .deadline _ _ :: rest => safe ℓ next rest
  | _, .leave _, _ => False
  | ℓ, .spawn job next, scopes => D.MayStart job ∧ ∀ u, safe ℓ (next u) scopes
  | ℓ, .abort _ next, scopes => safe ℓ next scopes
  | ℓ, .loop state body next, scopes =>
    safe ℓ ((body state).bind fun r => match r with
      | .inl s => .loop s body next
      | .inr b => next b) scopes

/-- For so many strides the task keeps the invariant. Given up, it comes to a local state from
`left`, and at the end to one from `post`. -/
def Safe (left : D.Local → Prop) (post : D.Local → α → Prop) :
    Nat → D.Local → Program W J α → List (Task.Scope W J α) → Prop
  | 0, _, _, _ => True
  | n + 1, ℓ, p, scopes => D.Shows ℓ p ∧ D.Next t left post (Safe left post n) ℓ p scopes

variable {D t}

theorem Asks.mono {poll : TaskId → W → W × Option β} {program : Program W J α} {ℓ : D.Local}
    {next next' : D.Local → β → Prop} (h : D.Asks t poll program ℓ next)
    (hnext : ∀ ℓ' b, next ℓ' b → next' ℓ' b) : D.Asks t poll program ℓ next' := by
  refine ⟨fun hg hw hp => ?_, h.waits⟩
  obtain ⟨ℓ', hu, hb⟩ := h.answered hg hw hp
  exact ⟨ℓ', hu, hnext ℓ' _ hb⟩

theorem Cancels.mono {cancel : TaskId → W → W} {program : Program W J α} {ℓ : D.Local}
    {left left' : D.Local → Prop} (h : D.Cancels t cancel program ℓ left)
    (hleft : ∀ ℓ', left ℓ' → left' ℓ') : D.Cancels t cancel program ℓ left' := by
  refine ⟨fun hg hw => ?_, h.view_eq⟩
  obtain ⟨ℓ', hu, hl⟩ := h.holds hg hw
  exact ⟨ℓ', hu, hleft ℓ' hl⟩

section Mono

variable {left left' : D.Local → Prop} {post post' : D.Local → α → Prop}
  {safe safe' : D.Local → Program W J α → List (Task.Scope W J α) → Prop}

theorem Yields.mono (hleft : ∀ ℓ, left ℓ → left' ℓ) (hsafe : ∀ ℓ p σ, safe ℓ p σ → safe' ℓ p σ)
    {ℓ : D.Local} {scopes : List (Task.Scope W J α)} (h : D.Yields t left safe ℓ scopes) :
    D.Yields t left' safe' ℓ scopes := by
  induction scopes generalizing ℓ with
  | nil => exact hleft ℓ h
  | cons scope rest ih =>
      cases scope with
      | held release =>
          obtain ⟨ℓ', hr, h⟩ := h
          exact ⟨ℓ', hr, ih h⟩
      | deadline time late => exact ⟨h.1, hsafe _ _ _ h.2.1, ih h.2.2⟩

theorem Next.mono (hleft : ∀ ℓ, left ℓ → left' ℓ) (hpost : ∀ ℓ a, post ℓ a → post' ℓ a)
    (hsafe : ∀ ℓ p σ, safe ℓ p σ → safe' ℓ p σ) {ℓ : D.Local} {p : Program W J α}
    {scopes : List (Task.Scope W J α)} (h : D.Next t left post safe ℓ p scopes) :
    D.Next t left' post' safe' ℓ p scopes := by
  cases p with
  | done a => exact ⟨h.1, hpost _ _ h.2⟩
  | await poll cancel next =>
      intro γ k
      exact ⟨(h k).1.mono fun ℓ' b hb => hsafe _ _ _ hb,
        (h k).2.mono fun ℓ' hl => hl.mono hleft hsafe⟩
  | hold release next => exact hsafe _ _ _ h
  | letGo next =>
      rcases scopes with _ | ⟨release | _, rest⟩
      · exact h
      · obtain ⟨ℓ', hr, h⟩ := h
        exact ⟨ℓ', hr, hsafe _ _ _ h⟩
      · exact h
  | within millis next => exact fun time => hsafe _ _ _ (h time)
  | leave next =>
      rcases scopes with _ | ⟨_ | _, rest⟩
      · exact h
      · exact h
      · exact hsafe _ _ _ h
  | spawn job next => exact ⟨h.1, fun u => hsafe _ _ _ (h.2 u)⟩
  | abort other next => exact hsafe _ _ _ h
  | loop state body next => exact hsafe _ _ _ h

theorem Safe.mono (hleft : ∀ ℓ, left ℓ → left' ℓ) (hpost : ∀ ℓ a, post ℓ a → post' ℓ a) {n : Nat}
    {ℓ : D.Local} {p : Program W J α} {scopes : List (Task.Scope W J α)}
    (h : D.Safe t left post n ℓ p scopes) : D.Safe t left' post' n ℓ p scopes := by
  induction n generalizing ℓ p scopes with
  | zero => trivial
  | succ n ih => exact ⟨h.1, h.2.mono hleft hpost fun _ _ _ => ih⟩

theorem Safe.of_le {n m : Nat} (hnm : m ≤ n) {ℓ : D.Local} {p : Program W J α}
    {scopes : List (Task.Scope W J α)} (h : D.Safe t left post n ℓ p scopes) :
    D.Safe t left post m ℓ p scopes := by
  induction m generalizing n ℓ p scopes with
  | zero => trivial
  | succ m ih =>
      obtain ⟨n, rfl⟩ : ∃ k, n = k + 1 := ⟨n - 1, by omega⟩
      exact ⟨h.1, h.2.mono (fun _ => id) (fun _ _ => id) fun _ _ _ => ih (by omega)⟩

end Mono

/-! ## Programs one after another -/

section Bind

variable {k : β → Program W J α} {left left' : D.Local → Prop} {post : D.Local → β → Prop}
  {post' : D.Local → α → Prop} {outer : List (Task.Scope W J α)}

theorem Yields.bind {safe : D.Local → Program W J β → List (Task.Scope W J β) → Prop}
    {safe' : D.Local → Program W J α → List (Task.Scope W J α) → Prop}
    (hleft : ∀ ℓ, left ℓ → D.Yields t left' safe' ℓ outer)
    (hsafe : ∀ ℓ p σ, safe ℓ p σ → safe' ℓ (p.bind k) (σ.map (Task.Scope.bind k) ++ outer))
    {ℓ : D.Local} {inner : List (Task.Scope W J β)} (h : D.Yields t left safe ℓ inner) :
    D.Yields t left' safe' ℓ (inner.map (Task.Scope.bind k) ++ outer) := by
  induction inner generalizing ℓ with
  | nil => exact hleft ℓ h
  | cons scope rest ih =>
      cases scope with
      | held release =>
          obtain ⟨ℓ', hr, h⟩ := h
          exact ⟨ℓ', hr, ih h⟩
      | deadline time late => exact ⟨h.1, hsafe _ _ _ h.2.1, ih h.2.2⟩

/-- A safe program in any scopes, if what comes after it is safe there and they can be unwound from
where it leaves off. -/
theorem Safe.bind {n : Nat} {ℓ : D.Local} {p : Program W J β} {inner : List (Task.Scope W J β)}
    (h : D.Safe t left post n ℓ p inner)
    (hpost : ∀ m ≤ n, ∀ ℓ' b, post ℓ' b → D.Safe t left' post' m ℓ' (k b) outer)
    (hleft : ∀ m ≤ n, ∀ ℓ', left ℓ' → D.Yields t left' (D.Safe t left' post' m) ℓ' outer) :
    D.Safe t left' post' n ℓ (p.bind k) (inner.map (Task.Scope.bind k) ++ outer) := by
  induction n generalizing ℓ p inner with
  | zero => trivial
  | succ n ih =>
    have ih {ℓ : D.Local} {p : Program W J β} {inner : List (Task.Scope W J β)}
        (h : D.Safe t left post n ℓ p inner) :
        D.Safe t left' post' n ℓ (p.bind k) (inner.map (Task.Scope.bind k) ++ outer) :=
      ih h (fun m hm => hpost m (by omega)) fun m hm => hleft m (by omega)
    obtain ⟨hshows, h⟩ := h
    have hshows (hp : ∀ b, p ≠ .done b) : D.Shows ℓ (p.bind k) := D.shows_bind k hp hshows
    cases p with
    | done b =>
        obtain ⟨rfl, h⟩ := h
        exact hpost (n + 1) (Nat.le_refl _) ℓ b h
    | await poll cancel next =>
        refine ⟨hshows nofun, fun k' => ?_⟩
        obtain ⟨hasks, hcancels⟩ := h fun b => (k b).bind k'
        rw [← Program.bind_assoc] at hasks hcancels
        refine ⟨hasks.mono fun ℓ' b hb => ih hb, hcancels.mono fun ℓ' hl => ?_⟩
        exact hl.bind (hleft n (by omega)) fun _ _ _ => ih
    | hold release next => exact ⟨hshows nofun, ih h⟩
    | letGo next =>
        refine ⟨hshows nofun, ?_⟩
        rcases inner with _ | ⟨release | _, rest⟩
        · exact h.elim
        · obtain ⟨ℓ', hr, h⟩ := h
          exact ⟨ℓ', hr, ih h⟩
        · exact h.elim
    | within millis next => exact ⟨hshows nofun, fun time => ih (h time)⟩
    | leave next =>
        refine ⟨hshows nofun, ?_⟩
        rcases inner with _ | ⟨_ | _, rest⟩
        · exact h.elim
        · exact h.elim
        · exact ih h
    | spawn job next => exact ⟨hshows nofun, h.1, fun u => ih (h.2 u)⟩
    | abort other next => exact ⟨hshows nofun, ih h⟩
    | loop state body next =>
        refine ⟨hshows nofun, ?_⟩
        have h := ih h
        rw [Program.bind_assoc] at h
        refine (congrArg (fun f => D.Safe t left' post' n ℓ ((body state).bind f) _)
          (funext fun r => ?_)).mp h
        cases r <;> rfl

end Bind

/-! ## Programs by themselves -/

variable (D t) in
/-- Safe for any number of strides, without scopes of its own. -/
def Fine (left : D.Local → Prop) (post : D.Local → α → Prop) (ℓ : D.Local)
    (p : Program W J α) : Prop :=
  ∀ n, D.Safe t left post n ℓ p []

variable (D) in
/-- The local state tells nothing of programs that do not await anything. -/
def Plain (ℓ : D.Local) : Prop :=
  ∀ {α : Type} (p : Program W J α), (∀ (β : Type) poll cancel (next : β → _),
    p ≠ .await poll cancel next) → D.Shows ℓ p

section Fine

variable {left left' : D.Local → Prop} {post : D.Local → α → Prop} {ℓ : D.Local}

theorem Fine.mono {post' : D.Local → α → Prop} {p : Program W J α} (h : D.Fine t left post ℓ p)
    (hleft : ∀ ℓ', left ℓ' → left' ℓ') (hpost : ∀ ℓ' a, post ℓ' a → post' ℓ' a) :
    D.Fine t left' post' ℓ p :=
  fun n => (h n).mono hleft hpost

theorem fine_done {a : α} (h : post ℓ a) : D.Fine t left post ℓ (.done a) := by
  rintro (_ | n)
  · trivial
  · exact ⟨D.shows_done ℓ a, rfl, h⟩

theorem Fine.bind {post' : D.Local → β → Prop} {p : Program W J α} {k : α → Program W J β}
    (h : D.Fine t left post ℓ p) (hk : ∀ ℓ' a, post ℓ' a → D.Fine t left post' ℓ' (k a)) :
    D.Fine t left post' ℓ (p.bind k) :=
  fun n => (h n).bind (fun m _ ℓ' a ha => hk ℓ' a ha m) fun _ _ _ hl => hl

theorem fine_await {poll : TaskId → W → W × Option α} {cancel : TaskId → W → W}
    (hshows : D.Shows ℓ (.await poll cancel .done))
    (hasks : ∀ {γ : Type} (k : α → Program W J γ), D.Asks t poll (.await poll cancel k) ℓ post)
    (hcancels : ∀ {γ : Type} (k : α → Program W J γ),
      D.Cancels t cancel (.await poll cancel k) ℓ left) :
    D.Fine t left post ℓ (.await poll cancel .done) := by
  rintro (_ | n)
  · trivial
  · exact ⟨hshows, fun k => ⟨(hasks k).mono fun ℓ' a ha => fine_done ha n, hcancels k⟩⟩

/-- What is never waited for can be given up only before it is done. -/
theorem fine_act {f : W → W × α} (hshows : D.Shows ℓ (.act f))
    (hacts : ∀ {γ : Type} (k : α → Program W J γ) {past : List (Moment W J)}
      {g : TaskId → D.Local} {w : W}, g t = ℓ → D.Holds past g w →
      ∃ ℓ', D.Holds (past ++ [.asks t ((Program.act f).bind k) w (f w).1]) (update g t ℓ') (f w).1 ∧
        post ℓ' (f w).2)
    (hleft : ∀ {γ : Type} (k : α → Program W J γ) {past : List (Moment W J)}
      {g : TaskId → D.Local} {w : W}, g t = ℓ → D.Holds past g w →
      ∃ ℓ', D.Holds (past ++ [.givesUp t ((Program.act f).bind k) w]) (update g t ℓ') w ∧
        left ℓ') :
    D.Fine t left post ℓ (.act f) := by
  refine fine_await hshows (fun k => ⟨?_, ?_⟩) fun k => ⟨fun hg hw => hleft k hg hw, fun _ => rfl⟩
  · intro past g w u b hg hw hp
    obtain ⟨rfl, hb⟩ := Prod.mk.inj hp
    obtain rfl := Option.some.inj hb
    exact hacts k hg hw
  · intro past g w u hg hw hp
    exact nomatch (Prod.mk.inj hp).2

/-- Releasing leads from where the body ends, or is given up, to where the program does. -/
theorem Fine.holding {left' : D.Local → Prop} {post' : D.Local → α → Prop} {p : Program W J α}
    {release : W → W} (h : D.Fine t left' post' ℓ p) (hplain : D.Plain ℓ)
    (hleft : ∀ ℓ', left' ℓ' → ∃ ℓ'', D.Releases t release ℓ' ℓ'' ∧ left ℓ'')
    (hpost : ∀ ℓ' a, post' ℓ' a → D.Plain ℓ' ∧ ∃ ℓ'', D.Releases t release ℓ' ℓ'' ∧ post ℓ'' a) :
    D.Fine t left post ℓ (.holding release p) := by
  rintro (_ | n)
  · trivial
  refine ⟨hplain _ nofun, (h n).bind (fun m _ ℓ' a ha => ?_) fun m _ ℓ' hl => hleft ℓ' hl⟩
  obtain ⟨hplain', ℓ'', hr, ha⟩ := hpost ℓ' a ha
  cases m with
  | zero => trivial
  | succ m => exact ⟨hplain' _ nofun, ℓ'', hr, fine_done ha m⟩

theorem Fine.timeout {left' : D.Local → Prop} {post : D.Local → Option α → Prop}
    {post' : D.Local → α → Prop} {p : Program W J α} (millis : Nat)
    (h : D.Fine t left' post' ℓ p) (hplain : D.Plain ℓ)
    (hleft : ∀ ℓ', left' ℓ' → D.Rests ℓ' ∧ post ℓ' none ∧ left ℓ')
    (hpost : ∀ ℓ' a, post' ℓ' a → D.Plain ℓ' ∧ post ℓ' (some a)) :
    D.Fine t left post ℓ (.timeout millis p) := by
  rintro (_ | n)
  · trivial
  refine ⟨hplain _ nofun, fun time => ?_⟩
  refine (h n).bind (fun m _ ℓ' a ha => ?_) fun m _ ℓ' hl => ?_
  · cases m with
    | zero => trivial
    | succ m => exact ⟨(hpost ℓ' a ha).1 _ nofun, fine_done (hpost ℓ' a ha).2 m⟩
  · obtain ⟨hrests, hnone, hl⟩ := hleft ℓ' hl
    exact ⟨hrests, fine_done hnone m, hl⟩

/-- `inv` holds before every round. -/
theorem fine_iterate {σ : Type} {body : σ → Program W J (σ ⊕ α)} {inv : D.Local → σ → Prop}
    (hshows : ∀ ℓ s, inv ℓ s → D.Shows ℓ (.iterate s body))
    (hbody : ∀ ℓ s, inv ℓ s → D.Fine t left (fun ℓ' r => match r with
      | .inl s' => inv ℓ' s'
      | .inr a => post ℓ' a) ℓ (body s)) {s : σ} (h : inv ℓ s) :
    D.Fine t left post ℓ (.iterate s body) := by
  intro n
  induction n using Nat.strongRecOn generalizing ℓ s with
  | ind n ih =>
    cases n with
    | zero => trivial
    | succ n =>
      refine ⟨hshows ℓ s h, ((hbody ℓ s h) n).bind (fun m hm ℓ' r hr => ?_) fun _ _ _ hl => hl⟩
      cases r with
      | inl s' => exact ih m (by omega) hr
      | inr a => exact fine_done hr m

theorem fine_start {job : J} {post : D.Local → TaskId → Prop} (hplain : D.Plain ℓ)
    (hjob : D.MayStart job) (h : ∀ u, post ℓ u) : D.Fine t left post ℓ (.start job) := by
  rintro (_ | n)
  · trivial
  · exact ⟨hplain _ nofun, hjob, fun u => fine_done (h u) n⟩

theorem fine_stop {task : TaskId} {post : D.Local → Unit → Prop} (hplain : D.Plain ℓ)
    (h : post ℓ ()) : D.Fine t left post ℓ (.stop task) := by
  rintro (_ | n)
  · trivial
  · exact ⟨hplain _ nofun, fine_done h n⟩

end Fine

end Discipline

end LanguageClient
