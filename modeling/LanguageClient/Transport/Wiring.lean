import LanguageClient.Task.Lock
import LanguageClient.Task.Pipe
import LanguageClient.Task.Promise
import LanguageClient.Task.Store
namespace LanguageClient

/-!
# Wiring

The pipes, promises and links of a world. A link is the client's end of a connection: it writes
requests, notifications and answers to one pipe, reads what the server writes from another, and
keeps a promise for every request that has no answer yet.
-/

abbrev PipeId := Nat
abbrev PromiseId := Nat
abbrev LinkId := Nat

structure Link where
  input : PipeId
  /-- Where messages are written, until the link is closed. -/
  output : Option PipeId
  /-- Held while a message is written. -/
  writing : Lock
  /-- The promises of the requests without an answer, by their ids. -/
  pending : List (Int × PromiseId)
  connected : Bool
  /-- Whether the client ended the connection. -/
  closing : Bool
  nextId : Nat
  /-- The task that reads. -/
  reader : Option TaskId
deriving Repr

namespace Link

def new (input output : PipeId) : Link :=
  ⟨input, some output, Lock.free, [], true, false, 1, none⟩

/-- A link that never was. -/
def closed : Link := ⟨0, none, Lock.free, [], false, true, 1, none⟩

instance : Inhabited Link := ⟨closed⟩

/-- Enters a new request. -/
def enter (l : Link) (promise : PromiseId) : Link × Int :=
  ({ l with nextId := l.nextId + 1, pending := l.pending ++ [((l.nextId : Int), promise)] },
    l.nextId)

/-- Takes the promise of a request out. -/
def forget (l : Link) (id : Int) : Link := { l with pending := l.pending.filter fun e => e.1 != id }

theorem lookup_forget (l : Link) (id : Int) : (l.forget id).pending.lookup id = none := by
  rw [List.lookup_eq_none_iff]
  intro e he
  simp only [forget, List.mem_filter, bne_iff_ne] at he
  simpa using Ne.symm he.2

end Link

/-- What a client hands to a link, and the answers it gets. -/
inductive Link.Event where
  | asked (method : String) (params : Json)
  | told (method : String) (params : Json)
  | answered (method : String) (outcome : Except ClientError Json)

structure Wiring where
  agenda : Agenda
  pipes : Store Pipe
  promises : Store Promise
  links : Store Link
  /-- What pipes have taken in, oldest first. -/
  traffic : List (PipeId × Bytes)
  /-- What was handed to links and what they were answered, oldest first. -/
  transcript : List (LinkId × Link.Event)

/-- A world of which the wiring is a part. -/
class HasWiring (W : Type) where
  wiring : W → Wiring
  setWiring : Wiring → W → W

namespace Wiring

def empty : Wiring := ⟨Agenda.start, Store.empty, Store.empty, Store.empty, [], []⟩

instance : Inhabited Wiring := ⟨empty⟩

instance : HasWiring Wiring := ⟨id, fun w _ => w⟩

def wakeAll (w : Wiring) (ts : List TaskId) : Wiring := { w with agenda := w.agenda.wakeAll ts }

/-! ## Pipes -/

def openPipe (w : Wiring) (p : Pipe) : Wiring × PipeId :=
  let r := w.pipes.add p
  ({ w with pipes := r.1 }, r.2)

/-- Changes a pipe and wakes a task. -/
def visitPipe {β : Type} (w : Wiring) (p : PipeId) (f : Pipe → Pipe × Option TaskId × β) :
    Wiring × β :=
  let r := w.pipes.visit p f
  ({ w with pipes := r.1 }.wakeAll r.2.1.toList, r.2.2)

/-- Offers bytes to a pipe and notes what it takes. -/
def offer (w : Wiring) (p : PipeId) (bytes : Bytes) (t : TaskId) : Wiring × Pipe.Write :=
  match w.visitPipe p (·.offer bytes t) with
  | (w, .took taken rest) => ({ w with traffic := w.traffic ++ [(p, taken)] }, .took taken rest)
  | r => r

/-- All bytes that a pipe has taken in. -/
def carried (w : Wiring) (p : PipeId) : Bytes :=
  (w.traffic.filter fun e => e.1 == p).flatMap (·.2)

theorem carried_append (w : Wiring) (p q : PipeId) (bytes : Bytes) :
    { w with traffic := w.traffic ++ [(q, bytes)] }.carried p =
      w.carried p ++ if q = p then bytes else [] := by
  by_cases h : q = p <;> simp [carried, h]

theorem carried_offer {w v : Wiring} {p : PipeId} {bytes taken rest : Bytes} {t : TaskId}
    (h : w.offer p bytes t = (v, .took taken rest)) : v.carried p = w.carried p ++ taken := by
  unfold offer at h
  split at h
  · rename_i u tk rs hv
    simp only [Prod.mk.injEq, Pipe.Write.took.injEq] at h
    obtain ⟨rfl, rfl, rfl⟩ := h
    have hu : u.traffic = w.traffic := by
      unfold visitPipe at hv
      exact congrArg (fun r => r.1.traffic) hv.symm
    simp [carried, hu]
  · rename_i hv
    exact absurd h (hv v taken rest)

def closeWriter (w : Wiring) (p : PipeId) : Wiring :=
  (w.visitPipe p fun pipe => let r := pipe.closeWriter; (r.1, r.2, ())).1

def closeReader (w : Wiring) (p : PipeId) : Wiring :=
  (w.visitPipe p fun pipe => let r := pipe.closeReader; (r.1, r.2, ())).1

/-! ## Promises -/

def newPromise (w : Wiring) : Wiring × PromiseId :=
  let r := w.promises.add Promise.new
  ({ w with promises := r.1 }, r.2)

def keep (w : Wiring) (promise : PromiseId) (outcome : Except ClientError Json) : Wiring :=
  let r := w.promises.visit promise (·.keep outcome)
  { w with promises := r.1 }.wakeAll r.2.toList

/-! ## Links -/

def link (w : Wiring) (l : LinkId) : Link := w.links.get l

def updateLink (w : Wiring) (l : LinkId) (f : Link → Link) : Wiring :=
  { w with links := w.links.update l f }

def addLink (w : Wiring) (l : Link) : Wiring × LinkId :=
  let r := w.links.add l
  ({ w with links := r.1 }, r.2)

/-- Enters a request of a connected link: its id and the promise of its outcome. -/
def enterRequest (w : Wiring) (l : LinkId) : Wiring × Option (Int × PromiseId) :=
  if (w.link l).connected then
    let (w, promise) := w.newPromise
    let r := w.links.visit l (·.enter promise)
    ({ w with links := r.1 }, some (r.2, promise))
  else (w, none)

/-- Notes what was handed to a link, or what it was answered. -/
def note (w : Wiring) (l : LinkId) (e : Link.Event) : Wiring :=
  { w with transcript := w.transcript ++ [(l, e)] }

/-- All that was handed to a link, and its answers. -/
def said (w : Wiring) (l : LinkId) : List Link.Event :=
  (w.transcript.filter fun e => e.1 == l).map (·.2)

/-- Hands an outcome to the request that waits for it; other ids change nothing. -/
def complete (w : Wiring) (l : LinkId) (id : Int) (outcome : Except ClientError Json) : Wiring :=
  match (w.link l).pending.lookup id with
  | some promise => (w.updateLink l (·.forget id)).keep promise outcome
  | none => w

/-- Fails all requests of a link that have no answer. -/
def failPending (w : Wiring) (l : LinkId) (reason : String) : Wiring :=
  let waiting := (w.link l).pending
  waiting.foldl (fun w e => w.keep e.2 (.error (.disconnected reason)))
    (w.updateLink l fun link => { link with pending := [] })

end Wiring

namespace HasWiring

variable {W : Type} [HasWiring W]

instance : HasAgenda W where
  agenda w := (wiring w).agenda
  setAgenda a w := setWiring { wiring w with agenda := a } w

def modify (f : Wiring → Wiring) (w : W) : W := setWiring (f (wiring w)) w

/-- Changes the wiring and gives something back. -/
def visit {β : Type} (f : Wiring → Wiring × β) (w : W) : W × β :=
  let r := f (wiring w)
  (setWiring r.1 w, r.2)

end HasWiring

end LanguageClient
