import LanguageClient.Proofs.Task.Solo
namespace LanguageClient

/-!
# What is seen of solo runs

A view shows a part of the world. `Program.Solo` is the weakest precondition of solo runs in which
nothing that is seen changes from outside: from a world that is seen as `g` a program comes to a
value and a view that satisfy `Q`, unless a deadline around it has it given up where `I` holds.
-/

/-- What is seen of a world; the agenda is not. -/
structure View (W G : Type) [HasAgenda W] where
  see : W → G
  see_modify (f : Agenda → Agenda) (w : W) : see (HasAgenda.modify f w) = see w

variable {W J G : Type} [HasAgenda W] {α β γ : Type}

namespace View

/-- Nothing that is seen has changed. -/
def Same (view : View W G) (w w' : W) : Prop := view.see w' = view.see w

theorem see_wake (view : View W G) (t : TaskId) (w : W) :
    view.see (HasAgenda.wake t w) = view.see w := view.see_modify _ w

theorem see_wakeAll (view : View W G) (ts : List TaskId) (w : W) :
    view.see (HasAgenda.wakeAll ts w) = view.see w := view.see_modify _ w

end View

namespace Runtime

/-- A deadline around the task has passed, and the task goes on with what comes then. -/
def GivenUp (view : View W G) (t : TaskId) (I : G → Prop) (scopes : List (Task.Scope W J α))
    (aborted : Bool) (n : Nat) (rt' : Runtime W J) (a : α) : Prop :=
  ∃ (m now : Nat) (rt₁ : Runtime W J) (w : W) (inner : List (Task.Scope W J α))
    (late : Program W J α) (rest : List (Task.Scope W J α)),
    m ≤ n ∧ expired? now scopes = some (inner, late, rest) ∧ I (view.see w) ∧
      rt₁.world = unwind t inner w ∧ Ran view.Same m rt₁ ⟨t, late, rest, aborted⟩ rt' a

namespace GivenUp

variable {view : View W G} {t : TaskId} {I I' : G → Prop} {scopes : List (Task.Scope W J α)}
  {aborted : Bool} {n m : Nat} {rt' : Runtime W J} {a : α}

theorem mono (h : GivenUp view t I scopes aborted m rt' a) (hm : m ≤ n)
    (hI : ∀ g, I g → I' g) : GivenUp view t I' scopes aborted n rt' a := by
  obtain ⟨l, now, rt₁, w, inner, late, rest, hl, he, hw, hrest⟩ := h
  exact ⟨l, now, rt₁, w, inner, late, rest, Nat.le_trans hl hm, he, hI _ hw, hrest⟩

/-- Only a deadline has a task given up. -/
theorem not_calm (h : GivenUp view t I scopes aborted n rt' a) (hcalm : Calm scopes) : False := by
  obtain ⟨l, now, rt₁, w, inner, late, rest, hl, he, hrest⟩ := h
  exact nomatch (hcalm now).symm.trans he

theorem of_held {release : W → W}
    (h : GivenUp view t I (.held release :: scopes) aborted n rt' a)
    (hI : ∀ w, I (view.see w) → I' (view.see (release w))) :
    GivenUp view t I' scopes aborted n rt' a := by
  obtain ⟨l, now, rt₁, w, inner, late, rest, hl, he, hw, hrt, hr⟩ := h
  simp only [expired?, Option.map_eq_some_iff, Prod.mk.injEq] at he
  obtain ⟨⟨inner, late, rest⟩, he, rfl, rfl, rfl⟩ := he
  exact ⟨l, now, rt₁, release w, inner, late, rest, hl, he, hI w hw, hrt, hr⟩

/-- The innermost deadline comes first. -/
theorem of_deadline {time : Nat} {late : Program W J α}
    (h : GivenUp view t I (.deadline time late :: scopes) aborted n rt' a) :
    GivenUp view t I scopes aborted n rt' a ∨ ∃ m rt₁, m ≤ n ∧ I (view.see rt₁.world) ∧
      Ran view.Same m rt₁ ⟨t, late, scopes, aborted⟩ rt' a := by
  obtain ⟨l, now, rt₁, w, inner, late', rest, hl, he, hw, hrt, hr⟩ := h
  have hdrop : view.see (HasAgenda.modify (·.dropAlarm time t) w) = view.see w :=
    view.see_modify _ w
  simp only [expired?] at he
  split at he
  · simp only [Option.some.injEq, Prod.mk.injEq] at he
    obtain ⟨rfl, rfl, rfl⟩ := he
    refine .inr ⟨l, rt₁, hl, ?_, hr⟩
    rw [hrt]
    exact hdrop.symm ▸ hw
  · simp only [Option.map_eq_some_iff, Prod.mk.injEq] at he
    obtain ⟨⟨inner, late', rest⟩, he, rfl, rfl, rfl⟩ := he
    exact .inl ⟨l, now, rt₁, _, inner, late', rest, hl, he, hdrop.symm ▸ hw, hrt, hr⟩

end GivenUp

end Runtime

open LanguageClient.Runtime (Calm GivenUp Ran Stride stride unwind)

namespace Program

/-- In every solo run of task `t` from a world that is seen as `g`. -/
structure Solo (view : View W G) (t : TaskId) (p : Program W J β) (g : G) (Q : β → G → Prop)
    (I : G → Prop) : Prop where
  goes {α : Type} {k : β → Program W J α} {scopes : List (Task.Scope W J α)} {aborted : Bool}
    {n : Nat} {rt rt' : Runtime W J} {a : α} : view.see rt.world = g →
    Ran view.Same n rt ⟨t, p.bind k, scopes, aborted⟩ rt' a →
    (∃ m rt₁ b, m ≤ n ∧ Q b (view.see rt₁.world) ∧
      Ran view.Same m rt₁ ⟨t, k b, scopes, aborted⟩ rt' a) ∨
    GivenUp view t I scopes aborted n rt' a

variable {view : View W G} {t : TaskId} {g : G} {Q : β → G → Prop} {I : G → Prop}

/-- Without a deadline around it, the program comes to its value. -/
theorem Solo.brings {p : Program W J β} {rt : Runtime W J}
    (h : p.Solo view t (view.see rt.world) Q I) :
    p.Brings view.Same t rt fun b rt' => Q b (view.see rt'.world) ∧ rt'.perform = rt.perform := by
  constructor
  intro α k scopes aborted n rt' a hcalm hr
  rcases h.goes rfl hr with ⟨m, rt₁, b, hm, hb, hr₁⟩ | hgiven
  · exact ⟨m, rt₁, b, hm, ⟨hb, hr₁.perform_eq.symm.trans hr.perform_eq⟩, hr₁⟩
  · exact (hgiven.not_calm hcalm).elim

theorem Solo.ran {p : Program W J β} {rt rt' : Runtime W J} {n : Nat} {aborted : Bool} {b : β}
    (h : p.Solo view t (view.see rt.world) Q I)
    (hr : Ran view.Same n rt ⟨t, p, [], aborted⟩ rt' b) : Q b (view.see rt'.world) :=
  (h.brings.ran hr).1

/-- Where no deadline is around it, a program does what its solo runs make of every view. -/
theorem Solo.does {p : Program W J β} {R : G → β → G → Prop}
    (h : ∀ g, p.Solo view t g (R g) I) :
    Does view.Same t p fun w b w' => R (view.see w) b (view.see w') :=
  does_iff.2 fun _ => (h _).brings.mono fun _ _ => And.left

theorem Solo.mono {p : Program W J β} {Q' : β → G → Prop} {I' : G → Prop}
    (h : p.Solo view t g Q I) (hQ : ∀ b g', Q b g' → Q' b g') (hI : ∀ g', I g' → I' g') :
    p.Solo view t g Q' I' := by
  constructor
  intro α k scopes aborted n rt rt' a hg hr
  rcases h.goes hg hr with ⟨m, rt₁, b, hm, hb, hr₁⟩ | hgiven
  · exact .inl ⟨m, rt₁, b, hm, hQ _ _ hb, hr₁⟩
  · exact .inr (hgiven.mono (Nat.le_refl n) hI)

theorem solo_done {b : β} (h : Q b g) : (done b : Program W J β).Solo view t g Q I := by
  constructor
  rintro α k scopes aborted n rt rt' a rfl hr
  exact .inl ⟨n, rt, b, Nat.le_refl n, h, hr⟩

theorem Solo.bind {p : Program W J γ} {f : γ → Program W J β}
    (h : p.Solo view t g (fun c g' => (f c).Solo view t g' Q I) I) :
    (p.bind f).Solo view t g Q I := by
  constructor
  intro α k scopes aborted n rt rt' a hg hr
  rw [bind_assoc] at hr
  rcases h.goes hg hr with ⟨m, rt₁, c, hm, hf, hr₁⟩ | hgiven
  · rcases hf.goes rfl hr₁ with ⟨l, rt₂, b, hl, hb, hr₂⟩ | hgiven
    · exact .inl ⟨l, rt₂, b, Nat.le_trans hl hm, hb, hr₂⟩
    · exact .inr (hgiven.mono hm fun _ => id)
  · exact .inr hgiven

theorem solo_await {poll : TaskId → W → W × Option β} {cancel : TaskId → W → W}
    (hanswer : ∀ w u b, view.see w = g → poll t w = (u, some b) → Q b (view.see u))
    (hwait : ∀ w u, view.see w = g → poll t w = (u, none) →
      view.see u = g ∧ I (view.see (cancel t u))) :
    (await poll cancel done : Program W J β).Solo view t g Q I := by
  constructor
  intro α k scopes aborted n rt rt' a hg hr
  have hstride : rt.stride ⟨t, (await poll cancel done).bind k, scopes, aborted⟩ =
      rt.stride ⟨t, await poll cancel k, scopes, aborted⟩ := rfl
  induction n generalizing rt with
  | zero =>
      cases hr with
      | ended h =>
          simp only [Program.bind, stride] at h
          rcases hp : poll t rt.world with ⟨w, _ | b⟩
          · rw [hp] at h
            dsimp only at h
            split at h <;> cases h
          · rw [hp] at h
            cases h
  | succ n ih =>
      rcases hp : poll t rt.world with ⟨u, _ | b⟩
      · obtain ⟨hu, hI⟩ := hwait _ _ hg hp
        cases he : Runtime.expired? (HasAgenda.now u) scopes with
        | none =>
            have hs : rt.stride ⟨t, (await poll cancel done).bind k, scopes, aborted⟩ =
                ({ rt with world := u }, .waits) := by
              simp [Program.bind, stride, hp, he]
            cases hr with
            | went h _ => simp [hs] at h
            | @waited _ _ _ _ _ _ w h o r =>
                rw [hs] at h
                simp only [Prod.mk.injEq, and_true] at h
                subst h
                have hw : view.see ({ rt with world := w } : Runtime W J).world = g :=
                  Eq.trans o hu
                rcases ih hw r rfl with ⟨m, rt₁, b, hm, hQ, hr₁⟩ | hg'
                · exact .inl ⟨m, rt₁, b, by omega, hQ, hr₁⟩
                · exact .inr (hg'.mono (Nat.le_succ n) fun _ => id)
        | some r =>
            obtain ⟨inner, late, rest⟩ := r
            have hs : rt.stride ⟨t, (await poll cancel done).bind k, scopes, aborted⟩ =
                ({ rt with world := unwind t inner (cancel t u) }, .going ⟨t, late, rest, aborted⟩) := by
              simp [Program.bind, stride, hp, he]
            obtain ⟨m, hm, hr₁⟩ := hr.of_going hs
            exact .inr ⟨m, _, _, _, inner, late, rest, by omega, he, hI, rfl, hr₁⟩
      · have hs : rt.stride ⟨t, (await poll cancel done).bind k, scopes, aborted⟩ =
            ({ rt with world := u }, .going ⟨t, k b, scopes, aborted⟩) := by
          simp [Program.bind, stride, hp]
        obtain ⟨m, hm, hr₁⟩ := hr.of_going hs
        exact .inl ⟨m, _, b, by omega, hanswer _ _ _ hg hp, hr₁⟩

theorem solo_act {f : W → W × β} (h : ∀ w, view.see w = g → Q (f w).2 (view.see (f w).1)) :
    (act f : Program W J β).Solo view t g Q I := by
  refine solo_await (fun w u b hw hp => ?_) fun w u _ hp => ?_
  · simp only [Prod.mk.injEq, Option.some.injEq] at hp
    obtain ⟨rfl, rfl⟩ := hp
    exact h w hw
  · simp at hp

theorem solo_read {f : W → β} (h : ∀ w, view.see w = g → Q (f w) g) :
    (read f : Program W J β).Solo view t g Q I := by
  refine solo_act fun w hw => ?_
  rw [hw]
  exact h w hw

theorem solo_modify {f : W → W} {Q : Unit → G → Prop}
    (h : ∀ w, view.see w = g → Q () (view.see (f w))) :
    (modify f : Program W J Unit).Solo view t g Q I :=
  solo_act h

theorem solo_start {job : J} {Q : TaskId → G → Prop} (h : ∀ u, Q u g) :
    (start job : Program W J TaskId).Solo view t g Q I := by
  constructor
  rintro α k scopes aborted n rt rt' a hg hr
  have hs : rt.stride ⟨t, (start job).bind k, scopes, aborted⟩ =
      (rt.addTask (rt.perform job), .going ⟨t, k rt.nextId, scopes, aborted⟩) := rfl
  obtain ⟨m, hm, hr₁⟩ := hr.of_going hs
  have hsee : view.see (rt.addTask (rt.perform job)).world = g := (view.see_wake _ _).trans hg
  exact .inl ⟨m, _, rt.nextId, by omega, hsee ▸ h _, hr₁⟩

theorem solo_stop {task : TaskId} {Q : Unit → G → Prop} (h : Q () g) :
    (stop task : Program W J Unit).Solo view t g Q I := by
  constructor
  rintro α k scopes aborted n rt rt' a hg hr
  have hs : rt.stride ⟨t, (stop task).bind k, scopes, aborted⟩ =
      (rt.abortTask task, .going ⟨t, k (), scopes, aborted⟩) := rfl
  obtain ⟨m, hm, hr₁⟩ := hr.of_going hs
  have hsee : view.see (rt.abortTask task).world = g := by
    unfold Runtime.abortTask
    split
    · exact (view.see_wake _ _).trans hg
    · exact hg
  exact .inl ⟨m, _, (), by omega, hsee ▸ h, hr₁⟩

theorem Solo.holding {p : Program W J β} {release : W → W} {r : G → G}
    (hrelease : ∀ w, view.see (release w) = r (view.see w))
    (h : p.Solo view t g (fun b g' => Q b (r g')) fun g' => I (r g')) :
    (holding release p).Solo view t g Q I := by
  constructor
  intro α k scopes aborted n rt rt' a hg hr
  have hs : rt.stride ⟨t, (Program.holding release p).bind k, scopes, aborted⟩ =
      (rt, .going ⟨t, p.bind fun b => letGo (k b), .held release :: scopes, aborted⟩) := by
    simp only [Program.holding, Program.bind, stride, bind_assoc]
  obtain ⟨m, hm, hr₁⟩ := hr.of_going hs
  rcases h.goes hg hr₁ with ⟨l, rt₁, b, hl, hQ, hr₂⟩ | hgiven
  · have hs₂ : rt₁.stride ⟨t, letGo (k b), .held release :: scopes, aborted⟩ =
        ({ rt₁ with world := release rt₁.world }, .going ⟨t, k b, scopes, aborted⟩) := rfl
    obtain ⟨i, hi, hr₃⟩ := hr₂.of_going hs₂
    exact .inl ⟨i, _, b, by omega, (hrelease rt₁.world).symm ▸ hQ, hr₃⟩
  · refine .inr ((hgiven.of_held fun w hw => ?_).mono (by omega) fun _ => id)
    rw [hrelease]
    exact hw

theorem Solo.timeout {p : Program W J γ} {Q : Option γ → G → Prop} (millis : Nat)
    (h : p.Solo view t g (fun c => Q (some c)) fun g' => Q none g' ∧ I g') :
    (timeout millis p).Solo view t g Q I := by
  constructor
  intro α k scopes aborted n rt rt' a hg hr
  let time := HasAgenda.now rt.world + millis
  let late : Program W J α := k none
  have hs : rt.stride ⟨t, (Program.timeout millis p).bind k, scopes, aborted⟩ =
      ({ rt with world := HasAgenda.modify (·.setAlarm time t) rt.world },
        .going ⟨t, p.bind fun c => leave (k (some c)), .deadline time late :: scopes, aborted⟩) := by
    simp only [Program.timeout, Program.bind, stride, if_true, Bool.false_eq_true, if_false,
      bind_assoc]
    rfl
  obtain ⟨m, hm, hr₁⟩ := hr.of_going hs
  have hset : view.see (HasAgenda.modify (·.setAlarm time t) rt.world) = g :=
    (view.see_modify _ _).trans hg
  rcases h.goes hset hr₁ with ⟨l, rt₁, c, hl, hQ, hr₂⟩ | hgiven
  · have hs₂ : rt₁.stride ⟨t, leave (k (some c)), .deadline time late :: scopes, aborted⟩ =
        ({ rt₁ with world := HasAgenda.modify (·.dropAlarm time t) rt₁.world },
          .going ⟨t, k (some c), scopes, aborted⟩) := rfl
    obtain ⟨i, hi, hr₃⟩ := hr₂.of_going hs₂
    have hdrop : view.see (HasAgenda.modify (·.dropAlarm time t) rt₁.world) =
        view.see rt₁.world := view.see_modify _ _
    exact .inl ⟨i, _, some c, by omega, hdrop.symm ▸ hQ, hr₃⟩
  · rcases hgiven.of_deadline with hgiven | ⟨l, rt₁, hl, hI, hr₂⟩
    · exact .inr (hgiven.mono (by omega) fun _ hI => hI.2)
    · exact .inl ⟨l, rt₁, none, by omega, hI.1, hr₂⟩

/-- `P` holds before every round. -/
theorem solo_iterate {σ : Type} {body : σ → Program W J (σ ⊕ β)} {P : σ → G → Prop}
    (hbody : ∀ s g, P s g → (body s).Solo view t g (fun r g' => match r with
      | .inl s' => P s' g'
      | .inr b => Q b g') I) {s : σ} (h : P s g) :
    (iterate s body).Solo view t g Q I := by
  constructor
  intro α k scopes aborted n rt rt' a hg hr
  induction n using Nat.strongRecOn generalizing s g rt with
  | ind n ih =>
    have hs : rt.stride ⟨t, (iterate s body).bind k, scopes, aborted⟩ =
        (rt, .going ⟨t, (body s).bind (Sum.elim (fun s' => (iterate s' body).bind k) k), scopes,
          aborted⟩) := by
      refine congrArg (fun f => (rt, Stride.going ⟨t, (body s).bind f, scopes, aborted⟩))
        (funext fun r => ?_)
      cases r <;> rfl
    obtain ⟨m, hm, hr₁⟩ := hr.of_going hs
    rcases (hbody s g h).goes hg hr₁ with ⟨l, rt₁, r, hl, hr, hr₂⟩ | hgiven
    · cases r with
      | inl s' =>
          rcases ih l (by omega) hr rfl hr₂ with ⟨i, rt₂, b, hi, hQ, hr₃⟩ | hgiven
          · exact .inl ⟨i, rt₂, b, by omega, hQ, hr₃⟩
          · exact .inr (hgiven.mono (by omega) fun _ => id)
      | inr b => exact .inl ⟨l, rt₁, b, by omega, hr, hr₂⟩
    · exact .inr (hgiven.mono (by omega) fun _ => id)

/-- `P` holds before every part, of what is left. -/
theorem solo_each {f : γ → Program W J Unit} {P : List γ → G → Prop}
    (hf : ∀ c cs g, P (c :: cs) g → (f c).Solo view t g (fun _ => P cs) I) (cs : List γ)
    (h : P cs g) : (each f cs).Solo view t g (fun _ => P []) I := by
  induction cs generalizing g with
  | nil => exact solo_done h
  | cons c cs ih => exact ((hf c cs g h).mono (fun _ _ hg => ih hg) fun _ => id).bind

/-- Under a lock that is not seen. -/
theorem Solo.locked {place : Lock.Place W} {p : Program W J β}
    (hwrite : ∀ lock w, view.see (place.write lock w) = view.see w) (h : p.Solo view t g Q I)
    (hI : I g) : (locked place p).Solo view t g Q I := by
  have hacquire {w u : W} {r : Option Unit} (hw : view.see w = g)
      (hp : place.acquire t w = (u, r)) : view.see u = g := by
    obtain rfl := (Prod.mk.inj hp).1
    exact (hwrite _ w).trans hw
  refine Solo.bind (p := (await place.acquire place.giveUp done : Program W J Unit))
    (solo_await (fun w u b hw hp => ?_) fun w u hw hp => ⟨hacquire hw hp, ?_⟩)
  · rw [hacquire hw hp]
    exact h.holding (r := id) fun v => (view.see_wakeAll _ _).trans (hwrite _ v)
  · have hgiveUp : view.see (place.giveUp t u) = g :=
      ((view.see_wakeAll _ _).trans (hwrite _ u)).trans (hacquire hw hp)
    rwa [hgiveUp]

/-! ## Programs that change nothing -/

/-- Run alone, the program changes nothing that is seen. -/
def Still (view : View W G) (t : TaskId) (p : Program W J β) : Prop :=
  ∀ g, p.Solo view t g (fun _ g' => g' = g) fun g' => g' = g

theorem Still.solo {p : Program W J β} (h : p.Still view t) (hQ : ∀ b, Q b g) (hI : I g) :
    p.Solo view t g Q I := by
  refine (h g).mono ?_ ?_
  · rintro b g' rfl
    exact hQ b
  · rintro g' rfl
    exact hI

theorem still_done (b : β) : (done b : Program W J β).Still view t := fun _ => solo_done rfl

theorem Still.bind {p : Program W J γ} {f : γ → Program W J β} (h : p.Still view t)
    (hf : ∀ c, (f c).Still view t) : (p.bind f).Still view t :=
  fun g => (h.solo (I := fun g' => g' = g) (fun c => hf c g) rfl).bind

theorem still_await {poll : TaskId → W → W × Option β} {cancel : TaskId → W → W}
    (hpoll : ∀ w, view.see (poll t w).1 = view.see w)
    (hcancel : ∀ w, view.see (cancel t w) = view.see w) :
    (await poll cancel done : Program W J β).Still view t := by
  intro g
  refine solo_await (fun w u b hw hp => ?_) fun w u hw hp => ?_
  · rw [← hw, ← hpoll w, hp]
  · have hu : view.see u = g := by rw [← hw, ← hpoll w, hp]
    exact ⟨hu, (hcancel u).trans hu⟩

theorem still_act {f : W → W × β} (h : ∀ w, view.see (f w).1 = view.see w) :
    (act f : Program W J β).Still view t :=
  fun _ => solo_act fun w hw => (h w).trans hw

theorem still_read (f : W → β) : (read f : Program W J β).Still view t := still_act fun _ => rfl

theorem still_modify {f : W → W} (h : ∀ w, view.see (f w) = view.see w) :
    (modify f : Program W J Unit).Still view t :=
  still_act h

theorem still_start (job : J) : (start job : Program W J TaskId).Still view t :=
  fun _ => solo_start fun _ => rfl

theorem still_stop (task : TaskId) : (stop task : Program W J Unit).Still view t :=
  fun _ => solo_stop rfl

theorem Still.holding {p : Program W J β} {release : W → W} (h : p.Still view t)
    (hrelease : ∀ w, view.see (release w) = view.see w) : (holding release p).Still view t :=
  fun g => Solo.holding (r := id) hrelease (h g)

theorem still_iterate {σ : Type} {body : σ → Program W J (σ ⊕ β)}
    (h : ∀ s, (body s).Still view t) (s : σ) : (iterate s body).Still view t := by
  intro g
  refine solo_iterate (P := fun _ g' => g' = g) ?_ rfl
  rintro s _ rfl
  refine (h s).solo (fun r => ?_) rfl
  cases r <;> rfl

theorem Still.locked {place : Lock.Place W} {p : Program W J β} (h : p.Still view t)
    (hwrite : ∀ lock w, view.see (place.write lock w) = view.see w) :
    (locked place p).Still view t :=
  fun g => (h g).locked hwrite rfl

end Program

end LanguageClient
