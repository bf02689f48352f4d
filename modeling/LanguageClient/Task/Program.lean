import LanguageClient.Task.Agenda
namespace LanguageClient

/-!
# Programs

What a task still has to do, as data, in a world of type `W`. A program goes on by itself until it
awaits something that is not there yet; only then do other tasks have their turn. It can be given up
while it waits: by a deadline around a part of it, or by aborting the task. Then the wait is
cancelled and everything that part held is released, last held first. A program starts other tasks
by naming their job, of type `J`.
-/

inductive Program (W J : Type) : Type → Type 1 where
  | done {α : Type} (value : α) : Program W J α
  /-- Asks `poll` until it has an answer, and is asked again whenever the task is woken. -/
  | await {α β : Type} (poll : TaskId → W → W × Option β) (cancel : TaskId → W → W)
      (next : β → Program W J α) : Program W J α
  /-- From here on, giving up runs `release`. -/
  | hold {α : Type} (release : W → W) (next : Program W J α) : Program W J α
  /-- Releases what was held last. -/
  | letGo {α : Type} (next : Program W J α) : Program W J α
  /-- Goes on with `false`; if that has not come to `leave` within so many milliseconds, it is given
  up and the program goes on with `true` instead. -/
  | within {α : Type} (millis : Nat) (next : Bool → Program W J α) : Program W J α
  | leave {α : Type} (next : Program W J α) : Program W J α
  | spawn {α : Type} (job : J) (next : TaskId → Program W J α) : Program W J α
  | abort {α : Type} (task : TaskId) (next : Program W J α) : Program W J α
  /-- Repeats `body` on what it gives on the left, until it gives something on the right. -/
  | loop {α σ β : Type} (state : σ) (body : σ → Program W J (σ ⊕ β)) (next : β → Program W J α) :
      Program W J α

namespace Program

variable {W J : Type} {α β : Type}

def bind : Program W J α → (α → Program W J β) → Program W J β
  | done a, f => f a
  | await poll cancel next, f => await poll cancel fun b => (next b).bind f
  | hold release next, f => hold release (next.bind f)
  | letGo next, f => letGo (next.bind f)
  | within millis next, f => within millis fun late => (next late).bind f
  | leave next, f => leave (next.bind f)
  | spawn job next, f => spawn job fun t => (next t).bind f
  | abort task next, f => abort task (next.bind f)
  | loop state body next, f => loop state body fun b => (next b).bind f

instance : Monad (Program W J) where
  pure := done
  bind := bind

/-- An action on the world that is never waited for. -/
def act (f : W → W × α) : Program W J α :=
  await (fun _ w => let r := f w; (r.1, some r.2)) (fun _ w => w) done

def read (f : W → α) : Program W J α := act fun w => (w, f w)

def modify (f : W → W) : Program W J Unit := act fun w => (f w, ())

/-- Starts a task of its own. -/
def start (job : J) : Program W J TaskId := spawn job done

/-- Ends a task at its next turn. -/
def stop (task : TaskId) : Program W J Unit := abort task (done ())

/-- Runs `body` with something held that is released when it ends or is given up. -/
def holding (release : W → W) (body : Program W J α) : Program W J α :=
  hold release (body.bind fun a => letGo (done a))

/-- Gives `body` so many milliseconds; nothing if it takes longer. -/
def timeout (millis : Nat) (body : Program W J α) : Program W J (Option α) :=
  within millis fun late => if late then done none else body.bind fun a => leave (done (some a))

/-- Repeats `body` until it gives something on the right. -/
def iterate {σ : Type} (state : σ) (body : σ → Program W J (σ ⊕ α)) : Program W J α :=
  loop state body done

/-- Waits until the clock shows a time. -/
def sleepUntil [HasAgenda W] (time : W → Nat) : Program W J Unit :=
  (read time).bind fun at_ =>
    await
      (fun t w =>
        if at_ ≤ HasAgenda.now w then (w, some ())
        else
          (HasAgenda.modify (fun a => if (at_, t) ∈ a.alarms then a else a.setAlarm at_ t) w, none))
      (fun t w => HasAgenda.modify (·.dropAlarm at_ t) w)
      done

/-- Lets so many milliseconds pass. -/
def sleep [HasAgenda W] (millis : Nat) : Program W J Unit :=
  sleepUntil fun w => HasAgenda.now w + millis

/-- Runs programs one after another and collects their values. -/
def collect (f : α → Program W J β) : List α → Program W J (List β)
  | [] => done []
  | a :: as => (f a).bind fun b => (collect f as).bind fun bs => done (b :: bs)

/-- Runs programs one after another. -/
def each (f : α → Program W J Unit) : List α → Program W J Unit
  | [] => done ()
  | a :: as => (f a).bind fun _ => each f as

@[simp] theorem done_bind (a : α) (f : α → Program W J β) : (done a).bind f = f a := rfl

theorem bind_done (p : Program W J α) : p.bind done = p := by
  induction p with
  | done _ => rfl
  | await _ _ _ ih => simp [bind, ih]
  | hold _ _ ih => simp [bind, ih]
  | letGo _ ih => simp [bind, ih]
  | within _ _ ih => simp [bind, ih]
  | leave _ ih => simp [bind, ih]
  | spawn _ _ ih => simp [bind, ih]
  | abort _ _ ih => simp [bind, ih]
  | loop _ _ _ _ ih => simp [bind, ih]

theorem bind_assoc {γ : Type} (p : Program W J α) (f : α → Program W J β) (g : β → Program W J γ) :
    (p.bind f).bind g = p.bind fun a => (f a).bind g := by
  induction p with
  | done _ => rfl
  | await _ _ _ ih => simp [bind, ih]
  | hold _ _ ih => simp [bind, ih]
  | letGo _ ih => simp [bind, ih]
  | within _ _ ih => simp [bind, ih]
  | leave _ ih => simp [bind, ih]
  | spawn _ _ ih => simp [bind, ih]
  | abort _ _ ih => simp [bind, ih]
  | loop _ _ _ _ ih => simp [bind, ih]

instance : LawfulMonad (Program W J) :=
  LawfulMonad.mk' _ (fun p => bind_done p) (fun a f => done_bind a f) fun p f g => bind_assoc p f g

end Program

end LanguageClient
