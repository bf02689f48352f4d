import LanguageClient.Client.Requests
import LanguageClient.Proofs.Transport.Traffic
namespace LanguageClient

/-!
# Ledgers

What a client keeps of its servers, its sessions and its links, as far as the tasks have to agree on
it. Locks, buffers, settings, pipes and promises are left out: a change of them alone is quiet.
-/

/-- A server without what may change at any time. -/
def Server.plain (s : Server) : Server :=
  { s with
    failureShown := false
    crashShown := false
    lifecycle := if s.lifecycle.owner = .taken then ⟨.taken, []⟩ else Lock.free
    registrations := RegistrationTable.empty
    settings := ServerSettings.none
    watchers := [] }

structure Ledger where
  servers : List Server
  /-- The documents of all sessions. -/
  uris : List String
  index : DocumentIndex
  /-- What is open in the editor. -/
  documents : List OpenDocument
  /-- The tasks that read from the links. -/
  readers : List (Option TaskId)
  transcript : List (LinkId × Link.Event)

namespace Ledger

def server (L : Ledger) (s : ServerId) : Server := (L.servers[s]?).getD default

def put (L : Ledger) (s : ServerId) (x : Server) : Ledger := { L with servers := L.servers.set s x }

def said (L : Ledger) (l : LinkId) : List Link.Event :=
  (L.transcript.filter fun e => e.1 == l).map (·.2)

def say (L : Ledger) (l : LinkId) (e : Link.Event) : Ledger :=
  { L with transcript := L.transcript ++ [(l, e)] }

variable (L : Ledger) {s r : ServerId}

@[simp] theorem server_put_same (x : Server) (h : s < L.servers.length) :
    (L.put s x).server s = x := by
  simp [server, put, h]

@[simp] theorem server_put_ne (x : Server) (h : s ≠ r) : (L.put s x).server r = L.server r := by
  simp [server, put, h]

theorem put_server (s : ServerId) : L.put s (L.server s) = L := by
  unfold put server
  congr 1
  refine List.ext_getElem? fun i => ?_
  rw [List.getElem?_set]
  split
  · rename_i h
    subst h
    split
    · rename_i h
      simp [h]
    · rename_i h
      rw [List.getElem?_eq_none (Nat.le_of_not_lt h)]
  · rfl

@[simp, grind =] theorem length_put (s : ServerId) (x : Server) :
    (L.put s x).servers.length = L.servers.length := by
  simp [put]

theorem said_say_same (l : LinkId) (e : Link.Event) : (L.say l e).said l = L.said l ++ [e] := by
  simp [said, say]

theorem said_say_ne {l r : LinkId} (e : Link.Event) (h : l ≠ r) :
    (L.say l e).said r = L.said r := by
  simp [said, say, h]

end Ledger

namespace Server

variable (x : Server)

@[simp] theorem plain_plain : x.plain.plain = x.plain := by
  simp only [plain]
  split <;> simp [Lock.free]

@[simp] theorem definition_plain : x.plain.definition = x.definition := rfl
@[simp] theorem root_plain : x.plain.root = x.root := rfl
@[simp] theorem status_plain : x.plain.status = x.status := rfl
@[simp] theorem moves_plain : x.plain.moves = x.moves := rfl
@[simp] theorem refused_plain : x.plain.refused = x.refused := rfl
@[simp] theorem generation_plain : x.plain.generation = x.generation := rfl
@[simp] theorem crashes_plain : x.plain.crashes = x.crashes := rfl
@[simp] theorem connection_plain : x.plain.connection = x.connection := rfl
@[simp] theorem access_plain : x.plain.access = x.access := rfl
@[simp] theorem connected_plain : x.plain.connected = x.connected := rfl
@[simp] theorem queue_plain : x.plain.queue = x.queue := rfl

theorem owner_plain : x.plain.lifecycle.owner = .taken ↔ x.lifecycle.owner = .taken := by
  unfold plain
  dsimp only
  split
  · simp [*]
  · simp [Lock.free, *]

theorem plain_default : (default : Server).plain = default := rfl

/-- What a function makes of a plain server it makes of every server. -/
def Commutes (f : Server → Server) : Prop := ∀ x, (f x).plain = f x.plain

theorem move_of_eq {x : Server} {status : ServerStatus} (h : x.status = status) :
    x.move status = x := if_pos h

theorem move_of_canMove {x : Server} {status : ServerStatus} (h : x.status ≠ status)
    (hc : x.status.canMove status = true) :
    x.move status = { x with status, moves := x.moves ++ [(x.status, status)] } := by
  rw [move, if_neg h, if_pos hc]

theorem move_of_not_canMove {x : Server} {status : ServerStatus} (h : x.status ≠ status)
    (hc : ¬ x.status.canMove status = true) :
    x.move status = { x with refused := x.refused ++ [(x.status, status)] } := by
  rw [move, if_neg h, if_neg hc]

theorem commutes_move (status : ServerStatus) : Commutes fun x => x.move status := by
  intro x
  by_cases h : x.status = status
  · have h' : x.plain.status = status := h
    simp only [move_of_eq h, move_of_eq h']
  have h' : x.plain.status ≠ status := h
  by_cases hc : x.status.canMove status = true
  · have hc' : x.plain.status.canMove status = true := hc
    simp only [move_of_canMove h hc, move_of_canMove h' hc']
    rfl
  · have hc' : ¬ x.plain.status.canMove status = true := hc
    simp only [move_of_not_canMove h hc, move_of_not_canMove h' hc']
    rfl

theorem beginStart_of_idle {x : Server} (h : x.status = .stopped ∨ x.status = .failed) :
    x.beginStart = ({ x.move .starting with generation := (x.move .starting).generation + 1 },
      some ((x.move .starting).generation + 1)) := by
  rcases h with h | h <;> simp only [beginStart, h]

theorem beginStart_of_runs {x : Server} (h : x.status = .starting ∨ x.status = .started) :
    x.beginStart = (x, none) := by
  rcases h with h | h <;> simp only [beginStart, h]

theorem idle_or_runs (status : ServerStatus) :
    (status = .stopped ∨ status = .failed) ∨ status = .starting ∨ status = .started := by
  cases status <;> simp

theorem commutes_beginStart : Commutes fun x => x.beginStart.1 := by
  intro x
  rcases idle_or_runs x.status with h | h
  · have h' : x.plain.status = .stopped ∨ x.plain.status = .failed := h
    simp only [beginStart_of_idle h, beginStart_of_idle h']
    exact congrArg (fun y : Server => { y with generation := y.generation + 1 })
      (commutes_move .starting x)
  · have h' : x.plain.status = .starting ∨ x.plain.status = .started := h
    simp only [beginStart_of_runs h, beginStart_of_runs h']

theorem commutes_beginStop : Commutes fun x => x.beginStop.1 := fun _ => rfl

theorem plain_endStop (x : Server) : x.endStop.plain = x.plain.endStop := by
  unfold endStop
  dsimp only
  rw [status_plain]
  split
  · rfl
  · exact commutes_move .stopped _

theorem commutes_becomeStarted (a : Access) : Commutes fun x => x.becomeStarted a :=
  fun x => commutes_move .started { x with access := some a }

theorem commutes_takeSessions : Commutes fun x => x.takeSessions.1 := fun _ => rfl

theorem commutes_takeQueue : Commutes fun x => x.takeQueue.1 := fun _ => rfl

theorem commutes_enqueue (d : OpenDocument) : Commutes fun x => x.enqueue d := by
  intro x
  by_cases h : x.isPending d.uri = true
  · have h' : x.plain.isPending d.uri = true := h
    simp only [enqueue, if_pos h, if_pos h']
  · have h' : ¬ x.plain.isPending d.uri = true := h
    simp only [enqueue, if_neg h, if_neg h']
    rfl

theorem commutes_remove (uri : String) : Commutes fun x => x.remove uri := fun _ => rfl

end Server

/-- Whether the client has ended a link, and whether it does not write to it any more. -/
def Link.ends (x : Link) : Bool × Bool := (x.closing && !x.connected, x.output.isNone)

namespace Wiring

def readers (w : Wiring) : List (Option TaskId) := w.links.entries.map Link.reader

/-- Links are read by the same tasks, and nothing is handed to them. -/
def Quiet (w v : Wiring) : Prop := v.readers = w.readers ∧ v.transcript = w.transcript

namespace Quiet

theorem refl (w : Wiring) : Quiet w w := ⟨rfl, rfl⟩

theorem trans {u v w : Wiring} (h : Quiet u v) (k : Quiet v w) : Quiet u w :=
  ⟨k.1.trans h.1, k.2.trans h.2⟩

theorem of_eq {w v : Wiring} (hl : v.links = w.links) (ht : v.transcript = w.transcript) :
    Quiet w v := ⟨congrArg (fun s : Store Link => s.entries.map Link.reader) hl, ht⟩

end Quiet

/-- What a change of a link leaves as it was. -/
theorem map_updateLink {β : Type} (w : Wiring) (l : LinkId) {f : Link → Link} (p : Link → β)
    (h : ∀ x, p (f x) = p x) : (w.updateLink l f).links.entries.map p = w.links.entries.map p := by
  simp only [updateLink, Store.update]
  refine List.ext_getElem? fun i => ?_
  simp only [List.getElem?_map, List.getElem?_modify]
  cases w.links.entries[i]? with
  | none => rfl
  | some x => by_cases hi : l = i <;> simp [hi, h]

theorem map_enterRequest {β : Type} (w : Wiring) (l : LinkId) (p : Link → β)
    (h : ∀ (x : Link) promise, p (x.enter promise).1 = p x) :
    (w.enterRequest l).1.links.entries.map p = w.links.entries.map p := by
  unfold enterRequest
  split
  · simp only [Store.visit, Store.update]
    refine List.ext_getElem? fun i => ?_
    simp only [List.getElem?_map, List.getElem?_modify, newPromise, Store.get, Store.get?]
    cases hi : w.links.entries[i]? with
    | none => rfl
    | some x => by_cases hl : l = i <;> simp [hi, hl, h]
  · rfl

theorem readers_updateLink (w : Wiring) (l : LinkId) {f : Link → Link}
    (h : ∀ x, (f x).reader = x.reader) : (w.updateLink l f).readers = w.readers :=
  w.map_updateLink l Link.reader h

theorem readers_of_reader {w : Wiring} {l : LinkId} {task : TaskId}
    (h : (w.link l).reader = some task) : w.readers[l]? = some (some task) := by
  rw [link, Store.get, Store.get?] at h
  rw [readers, List.getElem?_map]
  cases hl : w.links.entries[l]? with
  | none =>
    rw [hl] at h
    cases h
  | some link =>
    rw [hl] at h
    exact congrArg some h

theorem readers_setReader (w : Wiring) (l : LinkId) (reader : Option TaskId) :
    (w.updateLink l fun link => { link with reader }).readers = w.readers.set l reader := by
  refine List.ext_getElem? fun i => ?_
  simp only [readers, updateLink, Store.update, List.getElem?_map, List.getElem?_modify,
    List.getElem?_set, List.length_map]
  by_cases hi : l = i
  · subst hi
    by_cases hl : l < w.links.entries.length <;> simp [hl]
  · simp [hi]

theorem quiet_updateLink (w : Wiring) (l : LinkId) {f : Link → Link}
    (h : ∀ x, (f x).reader = x.reader) : Quiet w (w.updateLink l f) :=
  ⟨w.readers_updateLink l h, rfl⟩

theorem quiet_visitPipe {β : Type} (w : Wiring) (p : PipeId)
    (f : Pipe → Pipe × Option TaskId × β) : Quiet w (w.visitPipe p f).1 := .of_eq rfl rfl

theorem quiet_offer (w : Wiring) (p : PipeId) (bytes : Bytes) (t : TaskId) :
    Quiet w (w.offer p bytes t).1 := by
  have h := w.quiet_visitPipe p (·.offer bytes t)
  unfold offer
  split
  · rename_i heq
    rw [heq] at h
    exact h
  · exact h

theorem quiet_keep (w : Wiring) (promise : PromiseId) (outcome : Except ClientError Json) :
    Quiet w (w.keep promise outcome) := .of_eq rfl rfl

theorem quiet_complete (w : Wiring) (l : LinkId) (id : Int) (outcome : Except ClientError Json) :
    Quiet w (w.complete l id outcome) := by
  unfold complete
  split
  · exact (w.quiet_updateLink l (f := (·.forget id)) fun _ => rfl).trans (quiet_keep _ _ _)
  · exact .refl w

theorem quiet_keepAll (reason : ClientError) (waiting : List (Int × PromiseId)) (w : Wiring) :
    Quiet w (waiting.foldl (fun w e => w.keep e.2 (.error reason)) w) := by
  induction waiting generalizing w with
  | nil => exact .refl w
  | cons e waiting ih => exact (w.quiet_keep e.2 (.error reason)).trans (ih _)

theorem quiet_failPending (w : Wiring) (l : LinkId) (reason : String) :
    Quiet w (w.failPending l reason) :=
  (w.quiet_updateLink l (f := fun link => { link with pending := [] }) fun _ => rfl).trans
    (quiet_keepAll _ _ _)

theorem transcript_enterRequest (w : Wiring) (l : LinkId) :
    (w.enterRequest l).1.transcript = w.transcript := by
  unfold enterRequest
  split <;> rfl

theorem quiet_enterRequest (w : Wiring) (l : LinkId) : Quiet w (w.enterRequest l).1 :=
  ⟨w.map_enterRequest l Link.reader fun _ _ => rfl, w.transcript_enterRequest l⟩

theorem quiet_closeOutput (l : LinkId) (w : Wiring) : Quiet w (Link.closeOutput l w) := by
  unfold Link.closeOutput
  split
  · exact .refl w
  · exact (w.quiet_updateLink l (f := fun link => { link with output := none }) fun _ => rfl).trans
      (quiet_visitPipe _ _ _)

/-! ## Links that are ended -/

/-- Which links the client has ended, and which it does not write to any more. -/
def ends (w : Wiring) : List (Bool × Bool) := w.links.entries.map Link.ends

/-- Nothing is handed to links, and none is ended. -/
structure Passes (w v : Wiring) : Prop where
  transcript : v.transcript = w.transcript
  ends : v.ends = w.ends

theorem Passes.of_eq {w v : Wiring} (hl : v.links = w.links) (ht : v.transcript = w.transcript) :
    Passes w v := ⟨ht, by rw [Wiring.ends, Wiring.ends, hl]⟩

theorem Passes.length_eq {w v : Wiring} (h : w.Passes v) :
    v.links.entries.length = w.links.entries.length := by
  simpa [Wiring.ends] using congrArg List.length h.ends

theorem passes_updateLink (w : Wiring) (l : LinkId) {f : Link → Link}
    (hended : ∀ x, (f x).ends = x.ends) : Passes w (w.updateLink l f) :=
  ⟨rfl, w.map_updateLink l _ hended⟩

theorem passes_offer (w : Wiring) (p : PipeId) (bytes : Bytes) (t : TaskId) :
    Passes w (w.offer p bytes t).1 := by
  refine ⟨(w.quiet_offer p bytes t).2, ?_⟩
  unfold offer
  split
  · rename_i heq
    exact congrArg (fun r : Wiring × Pipe.Write => r.1.ends) heq.symm
  · rfl

theorem passes_enterRequest (w : Wiring) (l : LinkId) : Passes w (w.enterRequest l).1 :=
  ⟨w.transcript_enterRequest l, w.map_enterRequest l _ fun _ _ => rfl⟩

theorem passes_complete (w : Wiring) (l : LinkId) (id : Int) (outcome : Except ClientError Json) :
    Passes w (w.complete l id outcome) := by
  refine ⟨(w.quiet_complete l id outcome).2, ?_⟩
  unfold complete
  split
  · exact w.map_updateLink l _ fun _ => rfl
  · rfl

theorem passes_failPending (w : Wiring) (l : LinkId) (reason : String) :
    Passes w (w.failPending l reason) := by
  have hkept (waiting : List (Int × PromiseId)) (v : Wiring) :
      (waiting.foldl (fun v e => v.keep e.2 (.error (.disconnected reason))) v).ends = v.ends := by
    induction waiting generalizing v with
    | nil => rfl
    | cons e waiting ih => exact ih _
  refine ⟨(w.quiet_failPending l reason).2, (hkept _ _).trans ?_⟩
  exact w.map_updateLink l _ fun _ => rfl

/-- A link that never was counts as ended. -/
theorem getD_ends (w : Wiring) (l : LinkId) : w.ends[l]?.getD (true, true) = (w.link l).ends := by
  rw [ends, List.getElem?_map, link, Store.get, Store.get?]
  cases w.links.entries[l]? <;> rfl

theorem ends_updateLink (w : Wiring) (l : LinkId) {f : Link → Link}
    (h : (f .closed).ends = (true, true)) :
    ((w.updateLink l f).link l).ends = (f (w.link l)).ends := by
  rw [link, link, updateLink]
  cases hl : w.links.get? l with
  | none =>
    rw [Store.update_of_isNone hl, Store.get, hl]
    exact h.symm
  | some x => rw [Store.get_update_of_isSome (by rw [hl]; rfl)]

theorem ends_closeOutput (w : Wiring) (l : LinkId) :
    ((Link.closeOutput l w).link l).ends = ((w.link l).ends.1, true) := by
  unfold Link.closeOutput
  split
  · rename_i h
    rw [Link.ends, h]
    rfl
  · exact w.ends_updateLink l (f := fun link => { link with output := none }) rfl

end Wiring

namespace Client

variable {E : Type}

def ledger (c : Client E) : Ledger :=
  { servers := c.servers.entries.map Server.plain
    uris := c.sessions.entries.map Session.uri
    index := c.index
    documents := c.editor.documents
    readers := c.wiring.readers
    transcript := c.wiring.transcript }

variable (c : Client E)

@[simp] theorem server_ledger (s : ServerId) : c.ledger.server s = (c.server s).plain := by
  simp only [Ledger.server, ledger, List.getElem?_map, server, Store.get, Store.get?]
  cases c.servers.entries[s]? with
  | none => exact Server.plain_default.symm
  | some x => rfl

@[simp] theorem transcript_ledger : c.ledger.transcript = c.wiring.transcript := rfl

@[simp] theorem said_ledger (l : LinkId) : c.ledger.said l = c.wiring.said l := rfl

@[simp] theorem ledger_modifyAgenda (f : Agenda → Agenda) :
    (HasAgenda.modify f c).ledger = c.ledger := rfl

@[simp] theorem ledger_wake (t : TaskId) : (HasAgenda.wake t c).ledger = c.ledger := rfl

@[simp] theorem ledger_wakeAll (ts : List TaskId) : (HasAgenda.wakeAll ts c).ledger = c.ledger :=
  rfl

theorem ledger_setWiring {w : Wiring} (h : c.wiring.Quiet w) :
    ledger { c with wiring := w } = c.ledger := by
  simp only [ledger, h.1, h.2]

theorem ledger_modifyWiring {f : Wiring → Wiring} (h : c.wiring.Quiet (f c.wiring)) :
    (HasWiring.modify f c).ledger = c.ledger := c.ledger_setWiring h

theorem ledger_visitWiring {β : Type} {f : Wiring → Wiring × β}
    (h : c.wiring.Quiet (f c.wiring).1) : (HasWiring.visit f c).1.ledger = c.ledger :=
  c.ledger_setWiring h

theorem ledger_setReader (l : LinkId) (reader : Option TaskId) :
    (HasWiring.modify (·.updateLink l fun link => { link with reader }) c).ledger =
      { c.ledger with readers := c.ledger.readers.set l reader } :=
  congrArg (fun readers => ({ c.ledger with readers } : Ledger))
    (c.wiring.readers_setReader l reader)

theorem ledger_visitServer {β : Type} (s : ServerId) (f : Server → Server × β) :
    (c.visitServer s f).1.ledger = c.ledger.put s (f (c.server s)).1.plain := by
  have h (x : Server) (watchers : List TaskId) :
      ledger { c with servers := c.servers.update s fun _ => { x with watchers } } =
        c.ledger.put s x.plain := by
    simp only [ledger, Ledger.put, Store.update, Ledger.mk.injEq, and_true]
    refine List.ext_getElem? fun i => ?_
    simp only [List.getElem?_map, List.getElem?_modify, List.getElem?_set, List.length_map]
    by_cases hi : s = i
    · subst hi
      by_cases hs : s < c.servers.entries.length
      · simp [hs, Server.plain]
      · simp [hs]
    · simp [hi]
  unfold visitServer
  dsimp only
  split
  · exact h _ []
  · exact h (f (c.server s)).1 (f (c.server s)).1.watchers

theorem ledger_updateServer (s : ServerId) (f : Server → Server) :
    (c.updateServer s f).ledger = c.ledger.put s (f (c.server s)).plain :=
  c.ledger_visitServer s fun x => (f x, ())

theorem ledger_visitServer_of_commutes {β : Type} (s : ServerId) {f : Server → Server × β}
    (h : Server.Commutes fun x => (f x).1) :
    (c.visitServer s f).1.ledger = c.ledger.put s (f (c.ledger.server s)).1 := by
  rw [ledger_visitServer, server_ledger]
  exact congrArg _ (h _)

theorem ledger_updateServer_of_commutes (s : ServerId) {f : Server → Server}
    (h : Server.Commutes f) :
    (c.updateServer s f).ledger = c.ledger.put s (f (c.ledger.server s)) :=
  c.ledger_visitServer_of_commutes s (f := fun x => (f x, ())) h

/-- What does not show on a plain server does not show in the ledger. -/
theorem ledger_visitServer_of_plain {β : Type} (s : ServerId) {f : Server → Server × β}
    (h : (f (c.server s)).1.plain = (c.server s).plain) :
    (c.visitServer s f).1.ledger = c.ledger := by
  rw [ledger_visitServer, h, ← server_ledger, Ledger.put_server]

theorem ledger_updateServer_of_plain (s : ServerId) {f : Server → Server}
    (h : (f (c.server s)).plain = (c.server s).plain) : (c.updateServer s f).ledger = c.ledger :=
  c.ledger_visitServer_of_plain s (f := fun x => (f x, ())) h

theorem ledger_updateSession_of_eq {s : SessionId} {f : Session → Session}
    (h : (f (c.session s)).uri = (c.session s).uri) : (c.updateSession s f).ledger = c.ledger := by
  simp only [ledger, updateSession, Store.update, Ledger.mk.injEq, and_true, true_and]
  refine List.ext_getElem? fun i => ?_
  simp only [List.getElem?_map, List.getElem?_modify]
  cases hi : c.sessions.entries[i]? with
  | none => rfl
  | some x =>
    by_cases hs : s = i
    · subst hs
      simp only [session, Store.get, Store.get?, hi, Option.getD_some] at h
      simp [h]
    · simp [hs]

theorem ledger_updateSession (s : SessionId) {f : Session → Session}
    (h : ∀ x, (f x).uri = x.uri) : (c.updateSession s f).ledger = c.ledger :=
  c.ledger_updateSession_of_eq (h _)

theorem ledger_updateEditor {f : Editor → Editor}
    (h : (f c.editor).documents = c.editor.documents) : (c.updateEditor f).ledger = c.ledger := by
  simp only [ledger, updateEditor, h]

end Client

end LanguageClient
