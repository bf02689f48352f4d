import LanguageClient.Proofs.Task.Turn
import LanguageClient.Task.Lock
import Mathlib.Logic.Function.Basic
namespace LanguageClient

/-!
# Regimes

A regime says what a task owes the others when it pauses, and what it can rely on until it goes on.
A program is followed from a scene: between two pauses the task is alone, and what it makes of the
world is known exactly; only at a pause it has to account for all it did since it went on.

`R.From t o s p post left` says that task `t`, which went on in scene `o` and is in scene `s`, keeps
the regime while it runs `p`, comes to its end as `post` says, and given up, is left as `left` says.
-/

open Function (update)

/-- What happened so far, what every task is about, and the world. -/
structure Scene (W J L : Type) : Type 1 where
  past : List (Moment W J)
  roles : TaskId → L
  world : W

namespace Scene

variable {W J L : Type} {α : Type}

def become (s : Scene W J L) (t : TaskId) (ℓ : L) : Scene W J L :=
  { s with roles := update s.roles t ℓ }

def put (s : Scene W J L) (w : W) : Scene W J L := { s with world := w }

def asked (s : Scene W J L) (t : TaskId) (p : Program W J α) (w : W) : Scene W J L :=
  { s with past := s.past ++ [.asks t p s.world w], world := w }

def gaveUp (s : Scene W J L) (t : TaskId) (p : Program W J α) (w : W) : Scene W J L :=
  { s with past := s.past ++ [.givesUp t p s.world], world := w }

@[simp] theorem world_become (s : Scene W J L) (t : TaskId) (ℓ : L) :
    (s.become t ℓ).world = s.world := rfl

@[simp] theorem past_become (s : Scene W J L) (t : TaskId) (ℓ : L) :
    (s.become t ℓ).past = s.past := rfl

@[simp] theorem roles_become_same (s : Scene W J L) (t : TaskId) (ℓ : L) :
    (s.become t ℓ).roles t = ℓ := by
  simp only [become, Function.update_self]

theorem roles_become_ne (s : Scene W J L) {t u : TaskId} (ℓ : L) (h : u ≠ t) :
    (s.become t ℓ).roles u = s.roles u := by
  simp only [become, Function.update_of_ne h]

@[simp] theorem become_become (s : Scene W J L) (t : TaskId) (ℓ ℓ' : L) :
    (s.become t ℓ).become t ℓ' = s.become t ℓ' := by
  simp only [become, Function.update_idem]

@[simp] theorem become_roles (s : Scene W J L) (t : TaskId) : s.become t (s.roles t) = s := by
  simp only [become, Function.update_eq_self]

@[simp] theorem world_put (s : Scene W J L) (w : W) : (s.put w).world = w := rfl

@[simp] theorem past_put (s : Scene W J L) (w : W) : (s.put w).past = s.past := rfl

@[simp] theorem roles_put (s : Scene W J L) (w : W) : (s.put w).roles = s.roles := rfl

@[simp] theorem world_asked (s : Scene W J L) (t : TaskId) (p : Program W J α) (w : W) :
    (s.asked t p w).world = w := rfl

@[simp] theorem past_asked (s : Scene W J L) (t : TaskId) (p : Program W J α) (w : W) :
    (s.asked t p w).past = s.past ++ [.asks t p s.world w] := rfl

@[simp] theorem roles_asked (s : Scene W J L) (t : TaskId) (p : Program W J α) (w : W) :
    (s.asked t p w).roles = s.roles := rfl

@[simp] theorem world_gaveUp (s : Scene W J L) (t : TaskId) (p : Program W J α) (w : W) :
    (s.gaveUp t p w).world = w := rfl

@[simp] theorem past_gaveUp (s : Scene W J L) (t : TaskId) (p : Program W J α) (w : W) :
    (s.gaveUp t p w).past = s.past ++ [.givesUp t p s.world] := rfl

@[simp] theorem roles_gaveUp (s : Scene W J L) (t : TaskId) (p : Program W J α) (w : W) :
    (s.gaveUp t p w).roles = s.roles := rfl

end Scene

structure Regime (W J L : Type) where
  /-- What a task owes from the scene in which it went on to the scene in which it pauses. -/
  guar : Scene W J L → Scene W J L → Prop
  rely : Scene W J L → Scene W J L → Prop
  /-- The role of a number that no task has yet. -/
  unborn : L
  /-- Tasks that may be aborted. -/
  Droppable : L → Prop
  /-- What the task of a job may begin as. -/
  Hires : J → L → Prop

/-- A scope of a program within a longer one. -/
def Task.Scope.then {W J α β : Type} (k : β → Program W J α) :
    Task.Scope W J β → Task.Scope W J α
  | .held release => .held release
  | .deadline time late => .deadline time (late.bind k)

namespace Regime

variable {W J L : Type} [HasAgenda W] (R : Regime W J L) (t : TaskId) {α β : Type}

/-- Scopes can be unwound, down to each deadline and to the end. -/
def Unwinds (left : Scene W J L → Scene W J L → Prop)
    (go : Scene W J L → Scene W J L → Program W J α → List (Task.Scope W J α) → Prop)
    (o : Scene W J L) : List (Task.Scope W J α) → Scene W J L → Prop
  | [], s => left o s
  | .held release :: rest, s => Unwinds left go o rest (s.put (release s.world))
  | .deadline time late :: rest, s =>
    go o (s.put (HasAgenda.modify (·.dropAlarm time t) s.world)) late rest ∧
      Unwinds left go o rest (s.put (HasAgenda.modify (·.dropAlarm time t) s.world))

/-- Going on from a pause. -/
structure Resumes {γ : Type} (left : Scene W J L → Scene W J L → Prop)
    (go : Scene W J L → Scene W J L → Program W J α → List (Task.Scope W J α) → Prop)
    (poll : TaskId → W → W × Option β) (cancel : TaskId → W → W) (next : β → Program W J α)
    (whole : Program W J γ) (scopes : List (Task.Scope W J α)) (s : Scene W J L) : Prop where
  answered {u : W} {b : β} : poll t s.world = (u, some b) →
    go s (s.asked t whole u) (next b) scopes
  waits {u : W} : poll t s.world = (u, none) → R.guar s (s.asked t whole u)
  dropped : Unwinds t left go s scopes (s.gaveUp t whole (cancel t s.world))

/-- What the regime asks of the next stride. -/
def Next (left : Scene W J L → Scene W J L → Prop) (post : α → Scene W J L → Scene W J L → Prop)
    (go : Scene W J L → Scene W J L → Program W J α → List (Task.Scope W J α) → Prop)
    (o s : Scene W J L) : Program W J α → List (Task.Scope W J α) → Prop
  | .done a, scopes => scopes = [] ∧ post a o s
  | .await poll cancel next, scopes =>
    -- Moments tell the whole program, whatever comes after this one.
    ∀ {γ : Type} (k : α → Program W J γ),
      (Program.Prompt poll ∧ ∀ {u : W} {b : _}, poll t s.world = (u, some b) →
        go o (s.asked t ((Program.await poll cancel next).bind k) u) (next b) scopes) ∨
      (R.guar o s ∧ ∀ s', R.rely s s' → s'.roles t = s.roles t →
        R.Resumes t left go poll cancel next ((Program.await poll cancel next).bind k) scopes s')
  | .hold release next, scopes => go o s next (.held release :: scopes)
  | .letGo next, .held release :: rest => go o (s.put (release s.world)) next rest
  | .letGo _, _ => False
  | .within millis next, scopes =>
    let time := HasAgenda.now s.world + millis
    go o (s.put (HasAgenda.modify (·.setAlarm time t) s.world)) (next false)
      (.deadline time (next true) :: scopes)
  | .leave next, .deadline time _ :: rest =>
    go o (s.put (HasAgenda.modify (·.dropAlarm time t) s.world)) next rest
  | .leave _, _ => False
  | .spawn job next, scopes =>
    ∃ ℓ, R.Hires job ℓ ∧ ∀ u, u ≠ t → s.roles u = R.unborn →
      go o ((s.put (HasAgenda.wake u s.world)).become u ℓ) (next u) scopes
  | .abort other next, scopes =>
    R.Droppable (s.roles other) ∧ go o s next scopes ∧
      go o (s.put (HasAgenda.wake other s.world)) next scopes
  | .loop state body next, scopes =>
    go o s ((body state).bind fun r => match r with
      | .inl s => .loop s body next
      | .inr b => next b) scopes

/-- For so many strides the task keeps the regime. Its role is its own: it can change at any time
between two pauses. -/
def Follows (left : Scene W J L → Scene W J L → Prop)
    (post : α → Scene W J L → Scene W J L → Prop) :
    Nat → Scene W J L → Scene W J L → Program W J α → List (Task.Scope W J α) → Prop
  | 0, _, _, _, _ => True
  | n + 1, o, s, p, scopes => ∃ ℓ, R.Next t left post (Follows left post n) o (s.become t ℓ) p scopes

variable {R t}

/-! ## Consequences -/

section Mono

variable {left left' : Scene W J L → Scene W J L → Prop}
  {post post' : α → Scene W J L → Scene W J L → Prop}
  {go go' : Scene W J L → Scene W J L → Program W J α → List (Task.Scope W J α) → Prop}
  {o s : Scene W J L}

theorem Unwinds.mono (hleft : ∀ o s, left o s → left' o s)
    (hgo : ∀ o s p σ, go o s p σ → go' o s p σ) {scopes : List (Task.Scope W J α)}
    (h : Unwinds t left go o scopes s) : Unwinds t left' go' o scopes s := by
  induction scopes generalizing s with
  | nil => exact hleft o s h
  | cons scope rest ih =>
      cases scope with
      | held release => exact ih h
      | deadline time late => exact ⟨hgo _ _ _ _ h.1, ih h.2⟩

theorem Next.mono (hleft : ∀ o s, left o s → left' o s) (hpost : ∀ a o s, post a o s → post' a o s)
    (hgo : ∀ o s p σ, go o s p σ → go' o s p σ) {p : Program W J α}
    {scopes : List (Task.Scope W J α)} (h : R.Next t left post go o s p scopes) :
    R.Next t left' post' go' o s p scopes := by
  cases p with
  | done a => exact ⟨h.1, hpost _ _ _ h.2⟩
  | await poll cancel next =>
      intro γ k
      rcases h k with ⟨hprompt, h⟩ | ⟨hguar, h⟩
      · exact .inl ⟨hprompt, fun hp => hgo _ _ _ _ (h hp)⟩
      · refine .inr ⟨hguar, fun s' hrely hrole => ?_⟩
        have h := h s' hrely hrole
        exact ⟨fun hp => hgo _ _ _ _ (h.answered hp), h.waits, h.dropped.mono hleft hgo⟩
  | hold release next => exact hgo _ _ _ _ h
  | letGo next =>
      rcases scopes with _ | ⟨_ | _, rest⟩
      · exact h
      · exact hgo _ _ _ _ h
      · exact h
  | within millis next => exact hgo _ _ _ _ h
  | leave next =>
      rcases scopes with _ | ⟨_ | _, rest⟩
      · exact h
      · exact h
      · exact hgo _ _ _ _ h
  | spawn job next =>
      obtain ⟨ℓ, hjob, h⟩ := h
      exact ⟨ℓ, hjob, fun u hu hr => hgo _ _ _ _ (h u hu hr)⟩
  | abort other next => exact ⟨h.1, hgo _ _ _ _ h.2.1, hgo _ _ _ _ h.2.2⟩
  | loop state body next => exact hgo _ _ _ _ h

theorem Follows.mono (hleft : ∀ o s, left o s → left' o s)
    (hpost : ∀ a o s, post a o s → post' a o s) {n : Nat} {p : Program W J α}
    {scopes : List (Task.Scope W J α)} (h : R.Follows t left post n o s p scopes) :
    R.Follows t left' post' n o s p scopes := by
  induction n generalizing o s p scopes with
  | zero => trivial
  | succ n ih =>
      obtain ⟨ℓ, h⟩ := h
      exact ⟨ℓ, h.mono hleft hpost fun _ _ _ _ => ih⟩

theorem Follows.of_le {n m : Nat} (hnm : m ≤ n) {p : Program W J α}
    {scopes : List (Task.Scope W J α)} (h : R.Follows t left post n o s p scopes) :
    R.Follows t left post m o s p scopes := by
  induction m generalizing n o s p scopes with
  | zero => trivial
  | succ m ih =>
      obtain ⟨n, rfl⟩ : ∃ k, n = k + 1 := ⟨n - 1, by omega⟩
      obtain ⟨ℓ, h⟩ := h
      exact ⟨ℓ, h.mono (fun _ _ => id) (fun _ _ _ => id) fun _ _ _ _ => ih (by omega)⟩

theorem Follows.become {n : Nat} {ℓ : L} {p : Program W J α} {scopes : List (Task.Scope W J α)}
    (h : R.Follows t left post n o (s.become t ℓ) p scopes) :
    R.Follows t left post n o s p scopes := by
  cases n with
  | zero => trivial
  | succ n =>
      obtain ⟨ℓ', h⟩ := h
      rw [Scene.become_become] at h
      exact ⟨ℓ', h⟩

end Mono

/-! ## One program after another -/

section Bind

variable {k : β → Program W J α} {left left' : Scene W J L → Scene W J L → Prop}
  {post : β → Scene W J L → Scene W J L → Prop} {post' : α → Scene W J L → Scene W J L → Prop}
  {outer : List (Task.Scope W J α)} {o s : Scene W J L}

theorem Unwinds.bind
    {go : Scene W J L → Scene W J L → Program W J β → List (Task.Scope W J β) → Prop}
    {go' : Scene W J L → Scene W J L → Program W J α → List (Task.Scope W J α) → Prop}
    (hleft : ∀ o s, left o s → Unwinds t left' go' o outer s)
    (hgo : ∀ o s p σ, go o s p σ → go' o s (p.bind k) (σ.map (Task.Scope.then k) ++ outer))
    {inner : List (Task.Scope W J β)} (h : Unwinds t left go o inner s) :
    Unwinds t left' go' o (inner.map (Task.Scope.then k) ++ outer) s := by
  induction inner generalizing s with
  | nil => exact hleft o s h
  | cons scope rest ih =>
      cases scope with
      | held release => exact ih h
      | deadline time late => exact ⟨hgo _ _ _ _ h.1, ih h.2⟩

theorem Follows.bind {n : Nat} {p : Program W J β} {inner : List (Task.Scope W J β)}
    (h : R.Follows t left post n o s p inner)
    (hpost : ∀ m ≤ n, ∀ b o' s', post b o' s' → R.Follows t left' post' m o' s' (k b) outer)
    (hleft : ∀ m ≤ n, ∀ o' s', left o' s' →
      Unwinds t left' (R.Follows t left' post' m) o' outer s') :
    R.Follows t left' post' n o s (p.bind k) (inner.map (Task.Scope.then k) ++ outer) := by
  induction n generalizing o s p inner with
  | zero => trivial
  | succ n ih =>
    have ih {o s : Scene W J L} {p : Program W J β} {inner : List (Task.Scope W J β)}
        (h : R.Follows t left post n o s p inner) :
        R.Follows t left' post' n o s (p.bind k) (inner.map (Task.Scope.then k) ++ outer) :=
      ih h (fun m hm => hpost m (by omega)) fun m hm => hleft m (by omega)
    obtain ⟨ℓ, h⟩ := h
    cases p with
    | done b =>
        obtain ⟨rfl, h⟩ := h
        exact (hpost (n + 1) (Nat.le_refl _) b o _ h).become
    | await poll cancel next =>
        refine ⟨ℓ, fun k' => ?_⟩
        have h := h fun b => (k b).bind k'
        rw [← Program.bind_assoc] at h
        rcases h with ⟨hprompt, h⟩ | ⟨hguar, h⟩
        · exact .inl ⟨hprompt, fun hp => ih (h hp)⟩
        · refine .inr ⟨hguar, fun s' hrely hrole => ?_⟩
          have h := h s' hrely hrole
          refine ⟨fun hp => ih (h.answered hp), h.waits, ?_⟩
          exact h.dropped.bind (hleft n (by omega)) fun _ _ _ _ => ih
    | hold release next => exact ⟨ℓ, ih h⟩
    | letGo next =>
        rcases inner with _ | ⟨_ | _, rest⟩
        · exact h.elim
        · exact ⟨ℓ, ih h⟩
        · exact h.elim
    | within millis next => exact ⟨ℓ, ih h⟩
    | leave next =>
        rcases inner with _ | ⟨_ | _, rest⟩
        · exact h.elim
        · exact h.elim
        · exact ⟨ℓ, ih h⟩
    | spawn job next =>
        obtain ⟨ℓ', hjob, h⟩ := h
        exact ⟨ℓ, ℓ', hjob, fun u hu hr => ih (h u hu hr)⟩
    | abort other next => exact ⟨ℓ, h.1, ih h.2.1, ih h.2.2⟩
    | loop state body next =>
        refine ⟨ℓ, ?_⟩
        have h := ih h
        rw [Program.bind_assoc] at h
        refine (congrArg (fun f => R.Follows t left' post' n o (s.become t ℓ) ((body state).bind f) _)
          (funext fun r => ?_)).mp h
        cases r <;> rfl

end Bind

/-! ## Programs by themselves -/

variable (R t) in
def From (o s : Scene W J L) (p : Program W J α) (post : α → Scene W J L → Scene W J L → Prop)
    (left : Scene W J L → Scene W J L → Prop) : Prop :=
  ∀ n, R.Follows t left post n o s p []

section From

variable {left left' : Scene W J L → Scene W J L → Prop}
  {post : α → Scene W J L → Scene W J L → Prop} {o s : Scene W J L}

theorem From.mono {post' : α → Scene W J L → Scene W J L → Prop} {p : Program W J α}
    (h : R.From t o s p post left) (hpost : ∀ a o' s', post a o' s' → post' a o' s')
    (hleft : ∀ o' s', left o' s' → left' o' s') : R.From t o s p post' left' :=
  fun n => (h n).mono hleft hpost

theorem From.become {ℓ : L} {p : Program W J α} (h : R.From t o (s.become t ℓ) p post left) :
    R.From t o s p post left := fun n => (h n).become

theorem from_done {a : α} (h : post a o s) : R.From t o s (.done a) post left := by
  rintro (_ | n)
  · trivial
  · exact ⟨s.roles t, rfl, by rwa [Scene.become_roles]⟩

theorem From.bind {Q : α → Scene W J L → Scene W J L → Prop}
    {post' : β → Scene W J L → Scene W J L → Prop} {p : Program W J α}
    {k : α → Program W J β} (h : R.From t o s p Q left)
    (hk : ∀ a o' s', Q a o' s' → R.From t o' s' (k a) post' left) :
    R.From t o s (p.bind k) post' left :=
  fun n => (h n).bind (fun m _ a o' s' ha => hk a o' s' ha m) fun _ _ _ _ hl => hl

/-- The role can change at the end. -/
theorem From.cast {post' : α → Scene W J L → Scene W J L → Prop} {p : Program W J α}
    (h : R.From t o s p post left)
    (hpost : ∀ a o' s', post a o' s' → ∃ ℓ, post' a o' (s'.become t ℓ)) :
    R.From t o s p post' left := by
  rw [← Program.bind_done p]
  refine h.bind fun a o' s' ha => ?_
  obtain ⟨ℓ, hℓ⟩ := hpost a o' s' ha
  exact (from_done hℓ).become

theorem from_act_become {f : W → W × α}
    (h : ∀ {γ : Type} (k : α → Program W J γ), ∃ ℓ,
      post (f s.world).2 o ((s.asked t ((Program.act f).bind k) (f s.world).1).become t ℓ)) :
    R.From t o s (.act f) post left := by
  rintro (_ | n)
  · trivial
  refine ⟨s.roles t, fun k => .inl ⟨Program.prompt_act f, fun hp => ?_⟩⟩
  rw [Scene.become_roles] at hp ⊢
  obtain ⟨rfl, hb⟩ := Prod.mk.inj hp
  obtain rfl := Option.some.inj hb
  obtain ⟨ℓ, h⟩ := h k
  exact (from_done h).become n

theorem from_act {f : W → W × α}
    (h : ∀ {γ : Type} (k : α → Program W J γ),
      post (f s.world).2 o (s.asked t ((Program.act f).bind k) (f s.world).1)) :
    R.From t o s (.act f) post left :=
  from_act_become fun k => ⟨s.roles t, by
    have hrole := Scene.become_roles (s.asked t ((Program.act f).bind k) (f s.world).1) t
    rw [Scene.roles_asked] at hrole
    rw [hrole]
    exact h k⟩

/-- A pause for something that may not be there. -/
theorem from_await {poll : TaskId → W → W × Option α} {cancel : TaskId → W → W} {ℓ : L}
    (hguar : R.guar o (s.become t ℓ))
    (h : ∀ s', R.rely (s.become t ℓ) s' → s'.roles t = ℓ → ∀ {γ : Type} (k : α → Program W J γ),
      (∀ {u b}, poll t s'.world = (u, some b) → post b s' (s'.asked t (.await poll cancel k) u)) ∧
      (∀ {u}, poll t s'.world = (u, none) → R.guar s' (s'.asked t (.await poll cancel k) u)) ∧
      left s' (s'.gaveUp t (.await poll cancel k) (cancel t s'.world))) :
    R.From t o s (.await poll cancel .done) post left := by
  rintro (_ | n)
  · trivial
  refine ⟨ℓ, fun k => .inr ⟨hguar, fun s' hrely hrole => ?_⟩⟩
  rw [Scene.roles_become_same] at hrole
  obtain ⟨hanswered, hwaits, hleft⟩ := h s' hrely hrole k
  exact ⟨fun hp => from_done (hanswered hp) n, hwaits, hleft⟩

theorem From.holding {p : Program W J α} {release : W → W}
    (h : R.From t o s p (fun a o' s' => post a o' (s'.put (release s'.world)))
      fun o' s' => left o' (s'.put (release s'.world))) :
    R.From t o s (.holding release p) post left := by
  rintro (_ | n)
  · trivial
  refine ⟨s.roles t, ?_⟩
  rw [Scene.become_roles]
  refine (h n).bind (fun m _ a o' s' ha => ?_) fun m _ o' s' hl => hl
  cases m with
  | zero => trivial
  | succ m =>
      refine ⟨s'.roles t, ?_⟩
      rw [Scene.become_roles]
      exact from_done ha m

theorem From.timeout {post : Option α → Scene W J L → Scene W J L → Prop} {p : Program W J α}
    (millis : Nat)
    (h : ∀ time, R.From t o (s.put (HasAgenda.modify (·.setAlarm time t) s.world)) p
      (fun a o' s' => post (some a) o' (s'.put (HasAgenda.modify (·.dropAlarm time t) s'.world)))
      fun o' s' =>
        post none o' (s'.put (HasAgenda.modify (·.dropAlarm time t) s'.world)) ∧
          left o' (s'.put (HasAgenda.modify (·.dropAlarm time t) s'.world))) :
    R.From t o s (.timeout millis p) post left := by
  rintro (_ | n)
  · trivial
  refine ⟨s.roles t, ?_⟩
  rw [Scene.become_roles]
  refine (h _ n).bind (fun m _ a o' s' ha => ?_) fun m _ o' s' hl => ?_
  · cases m with
    | zero => trivial
    | succ m =>
        refine ⟨s'.roles t, ?_⟩
        rw [Scene.become_roles]
        exact from_done ha m
  · exact ⟨from_done hl.1 m, hl.2⟩

/-- `I` holds before every round. -/
theorem from_iterate {σ : Type} {body : σ → Program W J (σ ⊕ α)}
    {I : σ → Scene W J L → Scene W J L → Prop}
    (hbody : ∀ x o s, I x o s → R.From t o s (body x) (fun r o' s' => match r with
      | .inl x' => I x' o' s'
      | .inr a => post a o' s') left) {x : σ} (h : I x o s) :
    R.From t o s (.iterate x body) post left := by
  intro n
  induction n using Nat.strongRecOn generalizing o s x with
  | ind n ih =>
    cases n with
    | zero => trivial
    | succ n =>
      refine ⟨s.roles t, ?_⟩
      rw [Scene.become_roles]
      refine (hbody x o s h n).bind (fun m hm r o' s' hr => ?_) fun _ _ _ _ hl => hl
      cases r with
      | inl x' => exact ih m (by omega) hr
      | inr a => exact from_done hr m

theorem from_start {job : J} {post : TaskId → Scene W J L → Scene W J L → Prop} {ℓ : L}
    (hjob : R.Hires job ℓ) (h : ∀ u, u ≠ t → s.roles u = R.unborn →
      post u o ((s.put (HasAgenda.wake u s.world)).become u ℓ)) :
    R.From t o s (.start job) post left := by
  rintro (_ | n)
  · trivial
  refine ⟨s.roles t, ℓ, hjob, fun u hu hr => ?_⟩
  rw [Scene.become_roles] at hr ⊢
  exact from_done (h u hu hr) n

theorem from_stop {task : TaskId} {post : Unit → Scene W J L → Scene W J L → Prop}
    (hdrop : R.Droppable (s.roles task)) (h : post () o s)
    (hwake : post () o (s.put (HasAgenda.wake task s.world))) :
    R.From t o s (.stop task) post left := by
  rintro (_ | n)
  · trivial
  refine ⟨s.roles t, ?_⟩
  rw [Scene.become_roles]
  exact ⟨hdrop, from_done h n, from_done hwake n⟩

end From

end Regime

end LanguageClient
