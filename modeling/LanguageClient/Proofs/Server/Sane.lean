import LanguageClient.Proofs.Server.Step
namespace LanguageClient

/-!
# Sane affairs

What holds of the servers, their links and their tasks together at every time, and why each step
keeps it.
-/

open Function (update)

namespace Server

/-- The moves are a chain from stopped to the status, each of them allowed, and none was refused. -/
structure Traced (x : Server) : Prop where
  chained : (ServerStatus.stopped :: x.moves.map (·.2)) = x.moves.map (·.1) ++ [x.status]
  allowed : ∀ m ∈ x.moves, m.1.canMove m.2 = true
  refused : x.refused = []

theorem Traced.of_eq {x y : Server} (h : x.Traced) (hs : y.status = x.status)
    (hm : y.moves = x.moves) (hr : y.refused = x.refused) : y.Traced :=
  ⟨by rw [hs, hm]; exact h.chained, by rw [hm]; exact h.allowed, by rw [hr]; exact h.refused⟩

theorem Traced.move {x : Server} (h : x.Traced) {status : ServerStatus}
    (hc : x.status = status ∨ x.status.canMove status = true) : (x.move status).Traced := by
  by_cases hs : x.status = status
  · rwa [move_of_eq hs]
  have hc := hc.resolve_left hs
  rw [move_of_canMove hs hc]
  refine ⟨?_, fun m hm => ?_, h.refused⟩
  · simp only [List.map_append, List.map_cons, List.map_nil, ← h.chained, List.cons_append]
  · rcases List.mem_append.1 hm with hm | hm
    · exact h.allowed m hm
    · rwa [List.mem_singleton.1 hm]

end Server

namespace Server

variable (x : Server) (status : ServerStatus)

/-- A move changes the status and what is kept of moves. -/
theorem exists_move : ∃ status' moves refused,
    x.move status = { x with status := status', moves, refused } := by
  unfold move
  split
  · exact ⟨_, _, _, rfl⟩
  · split <;> exact ⟨_, _, _, rfl⟩

@[simp, grind =] theorem generation_move : (x.move status).generation = x.generation := by
  obtain ⟨_, _, _, h⟩ := x.exists_move status
  rw [h]

@[simp, grind =] theorem crashes_move : (x.move status).crashes = x.crashes := by
  obtain ⟨_, _, _, h⟩ := x.exists_move status
  rw [h]

@[simp, grind =] theorem lifecycle_move : (x.move status).lifecycle = x.lifecycle := by
  obtain ⟨_, _, _, h⟩ := x.exists_move status
  rw [h]

@[simp, grind =] theorem connection_move : (x.move status).connection = x.connection := by
  obtain ⟨_, _, _, h⟩ := x.exists_move status
  rw [h]

@[simp, grind =] theorem access_move : (x.move status).access = x.access := by
  obtain ⟨_, _, _, h⟩ := x.exists_move status
  rw [h]

@[simp, grind =] theorem connected_move : (x.move status).connected = x.connected := by
  obtain ⟨_, _, _, h⟩ := x.exists_move status
  rw [h]

theorem status_move {x : Server} {status : ServerStatus}
    (h : x.status = status ∨ x.status.canMove status = true) : (x.move status).status = status := by
  by_cases hs : x.status = status
  · rwa [move_of_eq hs]
  · rw [move_of_canMove hs (h.resolve_left hs)]

theorem canMove_failed {x : Server} (h : x.status ≠ .stopped) :
    x.status = .failed ∨ x.status.canMove .failed = true := by
  cases hs : x.status with
  | stopped => exact absurd hs h
  | _ => simp [ServerStatus.canMove]

@[grind =] theorem status_move_failed {x : Server} (h : x.status ≠ .stopped) :
    (x.move .failed).status = .failed := status_move (canMove_failed h)

theorem canMove_starting {x : Server} (h : x.status = .stopped ∨ x.status = .failed) :
    x.status = .starting ∨ x.status.canMove .starting = true := by
  rcases h with h | h <;> simp [h, ServerStatus.canMove]

@[grind =] theorem status_beginStart {x : Server} (h : x.status = .stopped ∨ x.status = .failed) :
    x.beginStart.1.status = .starting := by
  rw [beginStart_of_idle h]
  exact status_move (canMove_starting h)

@[grind =] theorem generation_beginStart {x : Server}
    (h : x.status = .stopped ∨ x.status = .failed) :
    x.beginStart.1.generation = x.generation + 1 := by
  rw [beginStart_of_idle h]
  exact congrArg (· + 1) (x.generation_move .starting)

/-- A start changes the status, the generation and what is kept of moves. -/
theorem exists_beginStart : ∃ status' moves refused generation',
    x.beginStart.1 = { x with status := status', moves, refused, generation := generation' } := by
  rcases idle_or_runs x.status with h | h
  · obtain ⟨_, _, _, hm⟩ := x.exists_move .starting
    rw [beginStart_of_idle h, hm]
    exact ⟨_, _, _, _, rfl⟩
  · rw [beginStart_of_runs h]
    exact ⟨_, _, _, _, rfl⟩

@[simp, grind =] theorem crashes_beginStart : x.beginStart.1.crashes = x.crashes := by
  obtain ⟨_, _, _, _, h⟩ := x.exists_beginStart
  rw [h]

@[simp, grind =] theorem lifecycle_beginStart : x.beginStart.1.lifecycle = x.lifecycle := by
  obtain ⟨_, _, _, _, h⟩ := x.exists_beginStart
  rw [h]

@[simp, grind =] theorem connection_beginStart : x.beginStart.1.connection = x.connection := by
  obtain ⟨_, _, _, _, h⟩ := x.exists_beginStart
  rw [h]

@[simp, grind =] theorem access_beginStart : x.beginStart.1.access = x.access := by
  obtain ⟨_, _, _, _, h⟩ := x.exists_beginStart
  rw [h]

@[simp, grind =] theorem connected_beginStart : x.beginStart.1.connected = x.connected := by
  obtain ⟨_, _, _, _, h⟩ := x.exists_beginStart
  rw [h]

/-- The end of a stop changes the status, what is kept of moves, and the registrations. -/
theorem exists_endStop : ∃ status' moves refused registrations,
    x.endStop = { x with status := status', moves, refused, registrations } := by
  unfold endStop
  dsimp only
  split
  · exact ⟨_, _, _, _, rfl⟩
  · obtain ⟨_, _, _, hm⟩ :=
      exists_move { x with registrations := RegistrationTable.empty } .stopped
    rw [hm]
    exact ⟨_, _, _, _, rfl⟩

theorem status_endStop : x.endStop.status = if x.status = .failed then .failed else .stopped := by
  unfold endStop
  dsimp only
  split
  · assumption
  · exact status_move (.inr (ServerStatus.canMove_stopped _))

@[simp, grind =] theorem generation_endStop : x.endStop.generation = x.generation := by
  obtain ⟨_, _, _, _, h⟩ := x.exists_endStop
  rw [h]

@[simp, grind =] theorem crashes_endStop : x.endStop.crashes = x.crashes := by
  obtain ⟨_, _, _, _, h⟩ := x.exists_endStop
  rw [h]

@[simp, grind =] theorem lifecycle_endStop : x.endStop.lifecycle = x.lifecycle := by
  obtain ⟨_, _, _, _, h⟩ := x.exists_endStop
  rw [h]

@[simp, grind =] theorem connection_endStop : x.endStop.connection = x.connection := by
  obtain ⟨_, _, _, _, h⟩ := x.exists_endStop
  rw [h]

@[simp, grind =] theorem access_endStop : x.endStop.access = x.access := by
  obtain ⟨_, _, _, _, h⟩ := x.exists_endStop
  rw [h]

@[simp, grind =] theorem connected_endStop : x.endStop.connected = x.connected := by
  obtain ⟨_, _, _, _, h⟩ := x.exists_endStop
  rw [h]

@[simp, grind =] theorem generation_becomeStarted (a : Access) :
    (x.becomeStarted a).generation = x.generation := generation_move _ _

@[simp, grind =] theorem crashes_becomeStarted (a : Access) :
    (x.becomeStarted a).crashes = x.crashes := crashes_move _ _

@[simp, grind =] theorem lifecycle_becomeStarted (a : Access) :
    (x.becomeStarted a).lifecycle = x.lifecycle := lifecycle_move _ _

@[simp, grind =] theorem connection_becomeStarted (a : Access) :
    (x.becomeStarted a).connection = x.connection := connection_move _ _

@[simp, grind =] theorem access_becomeStarted (a : Access) :
    (x.becomeStarted a).access = some a := access_move _ _

@[simp, grind =] theorem connected_becomeStarted (a : Access) :
    (x.becomeStarted a).connected = x.connected := connected_move _ _

@[grind =] theorem status_becomeStarted {x : Server} (h : x.status = .starting) (a : Access) :
    (x.becomeStarted a).status = .started :=
  status_move (.inr (by simp [h, ServerStatus.canMove]))

namespace Traced

variable {x}

theorem beginStart (h : x.Traced) (hs : x.status = .stopped ∨ x.status = .failed) :
    x.beginStart.1.Traced := by
  rw [beginStart_of_idle hs]
  exact (h.move (canMove_starting hs)).of_eq rfl rfl rfl

theorem becomeStarted (h : x.Traced) (hs : x.status = .starting) (a : Access) :
    (x.becomeStarted a).Traced :=
  Traced.move (h.of_eq (y := { x with access := some a }) rfl rfl rfl)
    (.inr (by simp [hs, ServerStatus.canMove]))

theorem endStop (h : x.Traced) : x.endStop.Traced := by
  have h := h.of_eq (y := { x with registrations := RegistrationTable.empty }) rfl rfl rfl
  unfold Server.endStop
  dsimp only
  split
  · exact h
  · exact h.move (.inr (ServerStatus.canMove_stopped _))

end Traced

attribute [grind] beginStop takeSessions takeQueue remove Lock.free countCrash

theorem exists_enqueue (d : OpenDocument) : ∃ queue, x.enqueue d = { x with queue } := by
  unfold enqueue
  split <;> exact ⟨_, rfl⟩

@[simp, grind =] theorem lifecycle_enqueue (d : OpenDocument) :
    (x.enqueue d).lifecycle = x.lifecycle := by
  obtain ⟨_, h⟩ := x.exists_enqueue d
  rw [h]

@[simp, grind =] theorem connected_enqueue (d : OpenDocument) :
    (x.enqueue d).connected = x.connected := by
  obtain ⟨_, h⟩ := x.exists_enqueue d
  rw [h]

/-- What concerns only documents leaves everything else as it is. -/
structure Shelves (x y : Server) : Prop where
  status : y.status = x.status
  moves : y.moves = x.moves
  refused : y.refused = x.refused
  generation : y.generation = x.generation
  crashes : y.crashes = x.crashes
  lifecycle : y.lifecycle = x.lifecycle
  connection : y.connection = x.connection
  access : y.access = x.access

theorem Shelves.refl (x : Server) : x.Shelves x := ⟨rfl, rfl, rfl, rfl, rfl, rfl, rfl, rfl⟩

theorem shelves_enqueue (d : OpenDocument) : x.Shelves (x.enqueue d) := by
  obtain ⟨_, h⟩ := x.exists_enqueue d
  rw [h]
  exact ⟨rfl, rfl, rfl, rfl, rfl, rfl, rfl, rfl⟩

end Server

namespace Ledger

variable (L : Ledger) (s : ServerId) (x : Server) (l r : LinkId) (e : Link.Event)

@[simp, grind =] theorem readers_put : (L.put s x).readers = L.readers := rfl
@[simp, grind =] theorem uris_put : (L.put s x).uris = L.uris := rfl
@[simp, grind =] theorem said_put : (L.put s x).said l = L.said l := rfl
@[simp, grind =] theorem servers_say : (L.say l e).servers = L.servers := rfl
@[simp, grind =] theorem readers_say : (L.say l e).readers = L.readers := rfl
@[simp, grind =] theorem uris_say : (L.say l e).uris = L.uris := rfl

end Ledger

namespace Affairs

variable {K : Type} (A : Affairs K) (t u : TaskId) (s r : ServerId) (l m : LinkId) (ρ : Role K)
  (x : Server) (L : Ledger) (e : Link.Event)

@[simp] theorem roles_cast_same : (A.cast t ρ).roles t = ρ := Function.update_self ..

@[grind =] theorem roles_cast : (A.cast t ρ).roles u = if u = t then ρ else A.roles u :=
  Function.update_apply ..

@[simp, grind =] theorem ledger_cast : (A.cast t ρ).ledger = A.ledger := rfl
@[simp, grind =] theorem server_cast : (A.cast t ρ).server s = A.server s := rfl
@[simp, grind =] theorem stage?_cast : (A.cast t ρ).stage? l = A.stage? l := rfl
@[simp, grind =] theorem roles_keep : (A.keep L).roles u = A.roles u := rfl
@[simp, grind =] theorem ledger_keep : (A.keep L).ledger = L := rfl
@[simp, grind =] theorem server_keep : (A.keep L).server s = L.server s := rfl
@[simp, grind =] theorem roles_put : (A.put s x).roles u = A.roles u := rfl
@[simp, grind =] theorem ledger_put : (A.put s x).ledger = A.ledger.put s x := rfl
@[simp, grind =] theorem stage?_put : (A.put s x).stage? l = A.stage? l := rfl
@[simp, grind =] theorem roles_say : (A.say l e).roles u = A.roles u := rfl
@[simp, grind =] theorem ledger_say : (A.say l e).ledger = A.ledger.say l e := rfl
@[simp, grind =] theorem server_say : (A.say l e).server s = A.server s := rfl

@[simp, grind =] theorem roles_strike (d : String × SessionId) :
    (A.strike d).roles u = A.roles u := rfl
@[simp, grind =] theorem server_strike (d : String × SessionId) :
    (A.strike d).server s = A.server s := rfl
@[simp, grind =] theorem stage?_strike (d : String × SessionId) :
    (A.strike d).stage? l = A.stage? l := rfl
@[simp, grind =] theorem servers_strike (d : String × SessionId) :
    (A.strike d).ledger.servers = A.ledger.servers := rfl
@[simp, grind =] theorem uris_strike (d : String × SessionId) :
    (A.strike d).ledger.uris = A.ledger.uris := rfl
@[simp, grind =] theorem readers_strike (d : String × SessionId) :
    (A.strike d).ledger.readers = A.ledger.readers := rfl

@[simp, grind =] theorem roles_addLink : A.addLink.roles u = A.roles u := rfl
@[simp, grind =] theorem server_addLink : A.addLink.server s = A.server s := rfl
@[simp, grind =] theorem stage?_addLink : A.addLink.stage? l = A.stage? l := rfl
@[simp, grind =] theorem servers_addLink : A.addLink.ledger.servers = A.ledger.servers := rfl
@[simp, grind =] theorem uris_addLink : A.addLink.ledger.uris = A.ledger.uris := rfl
@[simp, grind =] theorem readers_addLink :
    A.addLink.ledger.readers = A.ledger.readers ++ [none] := rfl

@[grind =] theorem server_put :
    (A.put s x).server r =
      if r = s ∧ s < A.ledger.servers.length then x else A.server r := by
  by_cases h : r = s
  · subst h
    by_cases hs : r < A.ledger.servers.length
    · simp [put, server, hs]
    · simp [put, server, hs, Ledger.server, Ledger.put]
  · simp [put, server, h, Ne.symm h]

theorem traced_put {A : Affairs K} (h : ∀ r, (A.server r).Traced) {s : ServerId} {x : Server}
    (hx : x.Traced) (r : ServerId) : ((A.put s x).server r).Traced := by
  rw [server_put]
  split
  · exact hx
  · exact h r

@[grind =] theorem stage?_say :
    (A.say l e).stage? m = if m = l then (A.stage? l).bind (·.next e) else A.stage? m := by
  by_cases h : m = l
  · subst h
    rw [if_pos rfl]
    simp only [stage?, say, keep, Ledger.said_say_same, Link.Stage.after?_append]
  · rw [if_neg h]
    simp only [stage?, say, keep, Ledger.said_say_ne _ _ (Ne.symm h)]

end Affairs

namespace Affairs

variable {K : Type} (A : Affairs K)

/-- At most one task has the lifecycle of a server. -/
structure Locked : Prop where
  taken {t : TaskId} {s : ServerId} {phase : Phase} : (A.roles t).hold = some (s, phase) →
    (A.server s).lifecycle.owner = .taken
  alone {t u : TaskId} {s : ServerId} {phase phase' : Phase} :
    (A.roles t).hold = some (s, phase) → (A.roles u).hold = some (s, phase') → t = u
  drives {t : TaskId} {s : ServerId} {phase : Phase} : (A.roles t).hold = some (s, phase) →
    (A.roles t).origin.Drives s ∧ s < A.ledger.servers.length
  greeting {t : TaskId} {s : ServerId} {phase : Phase} : (A.roles t).hold = some (s, phase) →
    (A.roles t).origin.greeting? ≠ none → phase = .idle

/-- Links are known before they are spoken on, and each is read and greeted by one task. -/
structure Lined : Prop where
  orderly (l : LinkId) : (A.stage? l).isSome
  unspoken {l : LinkId} : A.ledger.readers.length ≤ l → A.stage? l = some .fresh
  reading {l : LinkId} {r : TaskId} : A.ledger.readers[l]? = some (some r) →
    (A.roles r).origin.reading? = some l
  hand {t u : TaskId} {o o' : LinkOwner} {l : LinkId} :
    (A.roles t).origin.greeting? = some (o, l) →
    (A.roles u).origin.greeting? = some (o', l) → t = u
  hand_lt {t : TaskId} {o : LinkOwner} {l : LinkId} :
    (A.roles t).origin.greeting? = some (o, l) → l < A.ledger.readers.length

/-- A link is spoken on by one task, or by all through the access of one server. -/
structure Owned : Prop where
  stage {t : TaskId} {l : LinkId} {stage : Link.Stage} : (A.roles t).link = some (l, stage) →
    A.stage? l = some stage
  lt {t : TaskId} {l : LinkId} {stage : Link.Stage} : (A.roles t).link = some (l, stage) →
    l < A.ledger.readers.length
  apart {t u : TaskId} {l : LinkId} {stage stage' : Link.Stage} :
    (A.roles t).link = some (l, stage) → (A.roles u).link = some (l, stage') → t = u
  unshared {t : TaskId} {s : ServerId} {a : Access} {l : LinkId} {stage : Link.Stage} :
    (A.server s).access = some a → (A.roles t).link = some (l, stage) → l ≠ a.link
  busy {t : TaskId} : (A.roles t).link ≠ none → (A.roles t).origin.greeting? ≠ none ∨
    (A.roles t).phase? = some .launching ∨ (A.roles t).phase? = some .stopping
  ready {s : ServerId} {a : Access} : (A.server s).access = some a →
    A.stage? a.link = some .ready
  access_lt {s : ServerId} {a : Access} : (A.server s).access = some a →
    a.link < A.ledger.readers.length
  own {s r : ServerId} {a b : Access} : (A.server s).access = some a →
    (A.server r).access = some b → a.link = b.link → s = r

/-- What a server is to the tasks that start, initialize and stop it. -/
structure Bound : Prop where
  traced (s : ServerId) : (A.server s).Traced
  access_eq {s : ServerId} {a : Access} : (A.server s).access = some a →
    a.server = s ∧ a.generation = (A.server s).generation ∧
      (A.server s).connection.map Connection.link = some a.link
  started {s : ServerId} {a : Access} : (A.server s).access = some a →
    (A.server s).status = .started ∨ ∃ t, (A.roles t).hold = some (s, .failing)
  greeted {s : ServerId} {a : Access} : (A.server s).access = some a →
    ∃ t, (A.roles t).origin.greeting? = some (⟨s, a.generation⟩, a.link)
  greeter {s : ServerId} {k : Connection} : (A.server s).connection = some k →
    (A.roles k.handshake).origin.greeting?.map (fun g => (g.1.server, g.2)) = some (s, k.link)
  logger {s : ServerId} {k : Connection} {t : TaskId} : (A.server s).connection = some k →
    k.errorLog = some t → (A.roles t).origin.logs = true
  token {t : TaskId} {o : LinkOwner} {l m : LinkId} {stage : Link.Stage} :
    (A.roles t).origin.greeting? = some (o, l) → (A.roles t).link = some (m, stage) →
    m = l ∧ (o.generation = (A.server o.server).generation →
      (A.server o.server).access = none ∧
      (A.server o.server).connection.map (fun k => (k.link, k.handshake)) = some (l, t))
  begun {t : TaskId} {o : LinkOwner} {l : LinkId} : (A.roles t).origin.greeting? = some (o, l) →
    A.Begun o
  launching {t : TaskId} {s : ServerId} : (A.roles t).hold = some (s, .launching) →
    (A.server s).access = none ∧ (A.server s).status ≠ .stopped
  counting {t : TaskId} {s : ServerId} : (A.roles t).hold = some (s, .counting) →
    (A.server s).status ≠ .stopped
  failing {t : TaskId} {s : ServerId} : (A.roles t).hold = some (s, .failing) →
    (A.server s).status ≠ .stopped
  launched {t : TaskId} {s : ServerId} : (A.roles t).hold = some (s, .launching) →
    (A.roles t).generation = (A.server s).generation
  -- Nobody initializes the server yet.
  unbegun {t u : TaskId} {s : ServerId} {o : LinkOwner} {l : LinkId} :
    (A.roles t).hold = some (s, .launching) → (A.roles u).origin.greeting? = some (o, l) →
    o.server = s → o.generation < (A.server s).generation
  unsent {t : TaskId} {s : ServerId} {l : LinkId} {stage : Link.Stage} :
    (A.roles t).hold = some (s, .launching) → (A.roles t).link = some (l, stage) → stage = .fresh
  unread {t u : TaskId} {s : ServerId} {o : LinkOwner} {l : LinkId} {stage : Link.Stage} :
    (A.roles t).hold = some (s, .launching) → (A.roles t).link = some (l, stage) →
    (A.roles u).origin.greeting? ≠ some (o, l)
  stopping {t : TaskId} {s : ServerId} : (A.roles t).hold = some (s, .stopping) →
    (A.server s).access = none

/-- The session of a connected document is one of that document. -/
def Keyed : Prop :=
  ∀ (s : ServerId) (e : String × SessionId), e ∈ (A.server s).connected →
    A.ledger.uris[e.2]? = some e.1

/-- So is a session that a task has taken out of its server. -/
def Owing : Prop :=
  ∀ (t : TaskId) (e : String × SessionId), e ∈ (A.roles t).dues → A.ledger.uris[e.2]? = some e.1

structure Sane : Prop extends A.Locked, A.Lined, A.Owned, A.Bound where
  keyed : A.Keyed
  owing : A.Owing
  founded {t : TaskId} {job : Job K} : (A.roles t).origin = .hired job → A.Founded job

/-! ## What is left alone -/

variable {A} {B : Affairs K}

/-- Roles stay, servers differ at most in their documents, and links keep their stages. -/
structure Still (A B : Affairs K) : Prop where
  roles : B.roles = A.roles
  servers (s : ServerId) : (A.server s).Shelves (B.server s)
  length_eq : B.ledger.servers.length = A.ledger.servers.length
  readers_eq : B.ledger.readers.length = A.ledger.readers.length
  stage_eq (l : LinkId) : B.stage? l = A.stage? l

namespace Still

variable (c : A.Still B)

include c

theorem begun {o : LinkOwner} (h : A.Begun o) : B.Begun o where
  lt := by rw [c.length_eq]; exact h.lt
  le := by rw [(c.servers _).generation]; exact h.le
  ne_stopped hg := by
    rw [(c.servers _).generation] at hg
    rw [(c.servers _).status]
    exact h.ne_stopped hg
  not_stopping hg := by
    rw [(c.servers _).generation] at hg
    rw [c.roles]
    exact h.not_stopping hg

theorem genuine {a : Access} (h : A.Genuine a) : B.Genuine a where
  lt := by rw [c.length_eq]; exact h.lt
  le := by rw [(c.servers _).generation]; exact h.le
  eq hg := by
    rw [(c.servers _).generation] at hg
    rw [(c.servers _).access]
    exact h.eq hg
  greeted := by rw [c.roles]; exact h.greeted

theorem locked (h : A.Locked) : B.Locked where
  taken := by
    intro t s phase
    rw [c.roles, (c.servers s).lifecycle]
    exact h.taken
  alone := by rw [c.roles]; exact h.alone
  drives := by rw [c.roles, c.length_eq]; exact h.drives
  greeting := by rw [c.roles]; exact h.greeting

theorem owned (h : A.Owned) : B.Owned where
  stage := by
    intro t l stage
    rw [c.roles, c.stage_eq]
    exact h.stage
  lt := by rw [c.roles, c.readers_eq]; exact h.lt
  apart := by rw [c.roles]; exact h.apart
  unshared := by
    intro t s a l stage
    rw [c.roles, (c.servers s).access]
    exact h.unshared
  busy := by rw [c.roles]; exact h.busy
  ready := by
    intro s a
    rw [c.stage_eq, (c.servers s).access]
    exact h.ready
  access_lt := by
    intro s a
    rw [c.readers_eq, (c.servers s).access]
    exact h.access_lt
  own := by
    intro s r a b
    rw [(c.servers s).access, (c.servers r).access]
    exact h.own

theorem bound (h : A.Bound) : B.Bound where
  traced s :=
    (h.traced s).of_eq (c.servers s).status (c.servers s).moves (c.servers s).refused
  access_eq := by
    intro s a
    rw [(c.servers s).access, (c.servers s).generation, (c.servers s).connection]
    exact h.access_eq
  started := by
    intro s a
    rw [c.roles, (c.servers s).access, (c.servers s).status]
    exact h.started
  greeted := by
    intro s a
    rw [c.roles, (c.servers s).access]
    exact h.greeted
  greeter := by
    intro s k
    rw [c.roles, (c.servers s).connection]
    exact h.greeter
  logger := by
    intro s k t
    rw [c.roles, (c.servers s).connection]
    exact h.logger
  token := by
    intro t o l m stage
    rw [c.roles, (c.servers o.server).access, (c.servers o.server).generation,
      (c.servers o.server).connection]
    exact h.token
  begun := by
    intro t o l
    rw [c.roles]
    exact fun ht => c.begun (h.begun ht)
  launching := by
    intro t s
    rw [c.roles, (c.servers s).access, (c.servers s).status]
    exact h.launching
  counting := by
    intro t s
    rw [c.roles, (c.servers s).status]
    exact h.counting
  failing := by
    intro t s
    rw [c.roles, (c.servers s).status]
    exact h.failing
  launched := by
    intro t s
    rw [c.roles, (c.servers s).generation]
    exact h.launched
  unbegun := by
    intro t u s o l
    rw [c.roles, (c.servers s).generation]
    exact h.unbegun
  unsent := by rw [c.roles]; exact h.unsent
  unread := by rw [c.roles]; exact h.unread
  stopping := by
    intro t s
    rw [c.roles, (c.servers s).access]
    exact h.stopping

end Still

end Affairs

end LanguageClient
