import LanguageClient.Proofs.Task.Hall
import LanguageClient.Proofs.Transport.Traffic
import LanguageClient.Transport.Exchange
namespace LanguageClient

/-!
# Settings of a link

A link among tasks that use it as they are meant to: they send requests, notifications and answers
over it and close it, and leave its record, its requests and its output alone otherwise. What
happens to the link is told by the moments of their programs.
-/

/-- The wiring is a field of the world. -/
class LawfulWiring (W : Type) [HasWiring W] : Prop where
  wiring_setWiring (v : Wiring) (w : W) : HasWiring.wiring (HasWiring.setWiring v w) = v
  setWiring_wiring (w : W) : HasWiring.setWiring (HasWiring.wiring w) w = w

namespace HasWiring

variable {W : Type} [HasWiring W] [LawfulWiring W] {β : Type}

@[simp] theorem wiring_modify (f : Wiring → Wiring) (w : W) : wiring (modify f w) = f (wiring w) :=
  LawfulWiring.wiring_setWiring _ w

@[simp] theorem wiring_visit (f : Wiring → Wiring × β) (w : W) :
    wiring (visit f w).1 = (f (wiring w)).1 :=
  LawfulWiring.wiring_setWiring _ w

@[simp] theorem wiring_modifyAgenda (f : Agenda → Agenda) (w : W) :
    wiring (HasAgenda.modify f w) = { wiring w with agenda := f (wiring w).agenda } :=
  LawfulWiring.wiring_setWiring _ w

theorem modify_of_eq {f : Wiring → Wiring} {w : W} (h : f (wiring w) = wiring w) :
    modify f w = w := by
  unfold modify
  rw [h, LawfulWiring.setWiring_wiring]

end HasWiring

/-- What a promise was kept with. -/
def Wiring.outcome (w : Wiring) (promise : PromiseId) : Option (Except ClientError Json) :=
  (w.promises.get? promise).bind Promise.outcome

namespace Program

variable {W J : Type} [HasWiring W] {α β : Type}

/-- Offers bytes once: what is left of them, or how the write ended. -/
def offering (p : PipeId) (rest : Bytes) (t : TaskId) :
    W → W × Option (Bytes ⊕ Except ClientError Unit) :=
  HasWiring.visit fun w =>
    let r := w.offer p rest t
    (r.1, match r.2 with
      | .broken => some (Sum.inr (.error (.transfer "broken pipe")))
      | .waits => none
      | .took _ [] => some (Sum.inr (.ok ()))
      | .took _ rest => some (Sum.inl rest))

theorem write_eq (p : PipeId) (bytes : Bytes) :
    (write p bytes : Program W J (Except ClientError Unit)) =
      iterate bytes fun rest => await (offering p rest) (fun _ w => w) done := rfl

/-- The program awaits that a pipe takes some bytes. -/
def AwaitsOffer (p : PipeId) (rest : Bytes) (program : Program W J α) : Prop :=
  rest ≠ [] ∧ ∃ (cancel : TaskId → W → W) (next : Bytes ⊕ Except ClientError Unit → Program W J α),
    program = .await (offering p rest) cancel next

/-- The program has still to write these bytes before anything else. -/
def Offers (p : PipeId) (rest : Bytes) (program : Program W J α) : Prop :=
  program.AwaitsOffer p rest ∨
    ∃ k : Except ClientError Unit → Program W J α, program = (write p rest).bind k

end Program

namespace Link

/-- A link with its pipes among tasks that use it. -/
structure Setting (W J : Type) : Type 1 where
  link : LinkId
  input : PipeId
  output : PipeId
  handler : Handler W J
  /-- The job of the task that answers a request. -/
  job : RequestId → String → Json → J
  perform : J → Program W J Unit
  mayStart : J → Prop
  /-- The disconnects that the handler has noted. -/
  reports : W → List ClientError
  note : ClientError → W → W

namespace Setting

variable {W J : Type} [HasWiring W] (S : Setting W J)

/-- The record of the link. -/
def state (w : W) : Link := (HasWiring.wiring w).link S.link

/-- The link, its requests and what was written to it are left alone. Its output may break. -/
structure Aside (w v : W) : Prop where
  link_eq : (HasWiring.wiring v).links.get? S.link = (HasWiring.wiring w).links.get? S.link
  carried_eq : (HasWiring.wiring v).carried S.output = (HasWiring.wiring w).carried S.output
  takes : (HasWiring.wiring v).takes S.output → (HasWiring.wiring w).takes S.output
  length_le : (HasWiring.wiring w).promises.entries.length ≤
    (HasWiring.wiring v).promises.entries.length
  outcome_pending {e : Int × PromiseId} : e ∈ (S.state w).pending →
    (HasWiring.wiring v).outcome e.2 = (HasWiring.wiring w).outcome e.2
  outcome_kept {promise : PromiseId} {o : Except ClientError Json} :
    (HasWiring.wiring w).outcome promise = some o → (HasWiring.wiring v).outcome promise = some o
  reports_eq : S.reports v = S.reports w

/-- Besides, the output does not break. -/
structure Unseen (w v : W) : Prop extends S.Aside w v where
  takes_eq : (HasWiring.wiring v).takes S.output = (HasWiring.wiring w).takes S.output

/-- A program that uses the link as it is meant to be used. -/
inductive Polite : {α : Type} → Program W J α → Prop where
  | done {α : Type} (a : α) : Polite (.done a)
  | await {α β : Type} {poll : TaskId → W → W × Option β} {cancel : TaskId → W → W}
      {next : β → Program W J α} (hpoll : ∀ t w, S.Aside w (poll t w).1)
      (hcancel : ∀ t w, S.Unseen w (cancel t w)) (hnext : ∀ b, Polite (next b)) :
      Polite (.await poll cancel next)
  | holding {α β : Type} {release : W → W} {body : Program W J β} {k : β → Program W J α}
      (hrelease : ∀ w, S.Unseen w (release w)) (hbody : Polite body) (hk : ∀ b, Polite (k b)) :
      Polite ((Program.holding release body).bind k)
  | timeout {α β : Type} {millis : Nat} {body : Program W J β} {k : Option β → Program W J α}
      (hbody : Polite body) (hk : ∀ b, Polite (k b)) : Polite ((Program.timeout millis body).bind k)
  | iterate {α β σ : Type} {state : σ} {body : σ → Program W J (σ ⊕ β)} {k : β → Program W J α}
      (hbody : ∀ s, Polite (body s)) (hk : ∀ b, Polite (k b)) :
      Polite ((Program.iterate state body).bind k)
  | start {α : Type} {job : J} {k : TaskId → Program W J α} (hjob : S.mayStart job)
      (hk : ∀ t, Polite (k t)) : Polite ((Program.start job).bind k)
  | stop {α : Type} {task : TaskId} {k : Unit → Program W J α} (hk : Polite (k ())) :
      Polite ((Program.stop task).bind k)
  | send {α : Type} {m : OutgoingMessage} {k : Except ClientError Unit → Program W J α}
      (hk : ∀ r, Polite (k r)) : Polite ((Link.send S.link m).bind k)
  | notify {α : Type} {method : String} {params : Json}
      {k : Except ClientError Unit → Program W J α} (hk : ∀ r, Polite (k r)) :
      Polite ((Link.notify S.link method params).bind k)
  | request {α : Type} {method : String} {params : Json}
      {k : Except ClientError Json → Program W J α} (hk : ∀ r, Polite (k r)) :
      Polite ((Link.request S.link method params).bind k)
  | close {α : Type} {k : Unit → Program W J α} (hk : Polite (k ())) :
      Polite ((Link.close S.link).bind k)

/-- What the tasks around the link are relied on for. -/
structure Lawful : Prop where
  reports_setWiring (v : Wiring) (w : W) : S.reports (HasWiring.setWiring v w) = S.reports w
  input_ne : S.input ≠ S.output
  onNotification (method : String) (params : Json) :
    S.Polite (S.handler.onNotification method params)
  /-- The handler may note a disconnect before it goes on. -/
  onDisconnect (e : ClientError) : S.Polite (S.handler.onDisconnect e) ∨
    ∃ k, S.handler.onDisconnect e = (Program.modify (S.note e)).bind k ∧ S.Polite (k ())
  wiring_note (e : ClientError) (w : W) : HasWiring.wiring (S.note e w) = HasWiring.wiring w
  reports_note (e : ClientError) (w : W) : S.reports (S.note e w) = S.reports w ++ [e]
  perform {job : J} : S.mayStart job → S.Polite (S.perform job)
  answer (id : RequestId) (method : String) (params : Json) : S.mayStart (S.job id method params)

/-! ## What happens to a link -/

/-- Task `t` entered its request under an id. -/
def Enters (t : TaskId) (id : Int) (m : Moment W J) : Prop :=
  ∃ (α : Type) (k : Option (Int × PromiseId) → Program W J α) (w u : W),
    m = .asks t ((Program.act (HasWiring.visit (·.enterRequest S.link))).bind k) w u ∧
      (S.state w).connected = true ∧ id = (S.state w).nextId

/-- Task `t` could not enter a request any more. -/
def Refuses (t : TaskId) (m : Moment W J) : Prop :=
  ∃ (α : Type) (k : Option (Int × PromiseId) → Program W J α) (w u : W),
    m = .asks t ((Program.act (HasWiring.visit (·.enterRequest S.link))).bind k) w u ∧
      (S.state w).connected = false

/-- A frame was read that is a response with a numeric id. -/
def Answers (id : Int) (outcome : RpcOutcome) (m : Moment W J) : Prop :=
  ∃ (t : TaskId) (body : Text) (α : Type) (k : Unit → Program W J α) (w u : W),
    m = .asks t ((Link.accept S.handler S.job S.link body).bind k) w u ∧
      IncomingMessage.parse body = .ok (.response (.number id) outcome)

/-- What the end of the stream makes of a link. -/
def hangUp (l : LinkId) (w : Wiring) : Wiring :=
  (w.updateLink l fun link => { link with connected := false }).failPending l
    "Server closed connection"

/-- The stream ended, cleanly or with an error. -/
def Ends (m : Moment W J) : Prop :=
  ∃ (t : TaskId) (α : Type) (k : Unit → Program W J α) (w u : W),
    m = .asks t ((Program.modify (HasWiring.modify (hangUp S.link))).bind k) w u

/-- A task that closes the link failed its requests. -/
def Shuts (m : Moment W J) : Prop :=
  ∃ (t : TaskId) (α : Type) (k : Unit → Program W J α) (w u : W),
    m = .asks t ((Program.modify
      (HasWiring.modify (·.failPending S.link "Transport closed"))).bind k) w u

/-- Task `t` could not send a message: the link was closed before it could write, or the output
broke. -/
def Misses (t : TaskId) (e : ClientError) (m : Moment W J) : Prop :=
  ∃ (α : Type) (p : Program W J α) (w u : W), m = .asks t p w u ∧
    ((∃ k, p = (Program.read fun w => ((HasWiring.wiring w).link S.link).output).bind k) ∧
        (S.state w).output = none ∧ e = closedError ∨
      (∃ rest, p.AwaitsOffer S.output rest) ∧ (HasWiring.wiring w).takes S.output = false ∧
        e = .transfer "broken pipe")

/-- A request waits for its answer under an id. -/
def Pending (id : Int) (w : W) : Prop := ∃ promise, (id, promise) ∈ (S.state w).pending

/-- What a request under an id came to, which was waiting for its answer. -/
def Settles (id : Int) (outcome : Except ClientError Json) (m : Moment W J) : Prop :=
  S.Pending id m.before ∧
    ((∃ o, S.Answers id o m ∧ outcome = o.mapError RpcError.toClientError) ∨
      (S.Ends m ∧ outcome = .error (.disconnected "Server closed connection")) ∨
      (S.Shuts m ∧ outcome = .error (.disconnected "Transport closed")))

/-- Why a request of task `t` came to its outcome. -/
inductive Verdict (t : TaskId) (past : List (Moment W J)) : Except ClientError Json → Prop where
  | refused {m : Moment W J} (hm : m ∈ past) (h : S.Refuses t m) : Verdict t past (.error closedError)
  | unsent {m : Moment W J} {e : ClientError} (hm : m ∈ past) (h : S.Misses t e m) :
      Verdict t past (.error e)
  | settled {id : Int} {m m' : Moment W J} {o : Except ClientError Json} (hm : m ∈ past)
      (h : S.Enters t id m) (hm' : m' ∈ past) (h' : S.Settles id o m') : Verdict t past o

/-- A write is given up in the middle of a frame while the output takes bytes. -/
def Cuts : Moment W J → Prop
  | .asks _ _ _ _ => False
  | .givesUp _ p w => (∃ rest, p.AwaitsOffer S.output rest) ∧
    (HasWiring.wiring w).takes S.output = true ∧
    ¬ ∃ ms : List OutgoingMessage, (HasWiring.wiring w).carried S.output = ms.flatMap OutgoingMessage.frame

end Setting

end Link

end LanguageClient
