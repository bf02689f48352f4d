import LanguageClient.Proofs.Server.Ledger
import LanguageClient.Proofs.Server.Stage
import Mathlib.Logic.Function.Basic
namespace LanguageClient

/-!
# The steps of servers

What tasks can make of the servers together, one step at a time. Every task has a role: where it
comes from, which server it has the lifecycle of, and which link is its own to speak on.
-/

open Function (update)

inductive Origin (K : Type) where
  | unborn
  | called
  | hired (job : Job K)

namespace Origin

variable {K : Type}

/-- Which servers a task may have the lifecycle of. -/
def Drives (s : ServerId) : Origin K → Prop
  | called => True
  | hired (.handshake owner _ _) | hired (.abandon owner) | hired (.crash owner _) =>
    owner.server = s
  | _ => False

/-- The link that a task initializes a server over. -/
def greeting? : Origin K → Option (LinkOwner × LinkId)
  | hired (.handshake owner l _) => some (owner, l)
  | _ => none

/-- The link that a task reads from. -/
def reading? : Origin K → Option LinkId
  | hired (.readAll _ l) => some l
  | _ => none

def logs : Origin K → Bool
  | hired (.errorLog _ _) => true
  | _ => false

@[simp, grind =] theorem greeting?_unborn : (unborn : Origin K).greeting? = none := rfl
@[simp, grind =] theorem reading?_unborn : (unborn : Origin K).reading? = none := rfl
@[simp, grind =] theorem logs_unborn : (unborn : Origin K).logs = false := rfl
@[simp, grind =] theorem greeting?_called : (called : Origin K).greeting? = none := rfl

@[simp, grind =] theorem greeting?_handshake (o : LinkOwner) (l : LinkId) (params : Json) :
    (hired (.handshake o l params) : Origin K).greeting? = some (o, l) := rfl

end Origin

/-- What a task that has the lifecycle of a server is about. -/
inductive Phase where
  | idle
  | launching
  /-- A crash was counted, and the server is going to be stopped or to fail. -/
  | counting
  /-- The server has failed and is going to be stopped. -/
  | failing
  | stopping
deriving DecidableEq

structure Role (K : Type) where
  origin : Origin K
  hold : Option (ServerId × Phase)
  /-- The link that nobody else speaks on, and how far it has come. -/
  link : Option (LinkId × Link.Stage)
  /-- The generation that it launches. -/
  generation : Nat
  /-- What it took out of its server and has not taken out of the index yet. -/
  dues : List (String × SessionId)

namespace Role

variable {K : Type}

def new (origin : Origin K) : Role K := ⟨origin, none, none, 0, []⟩

def phase? (ρ : Role K) : Option Phase := ρ.hold.map (·.2)

/-- How the task of a job begins. -/
def ofJob : Job K → Role K
  | .handshake owner l params => ⟨.hired (.handshake owner l params), none, some (l, .fresh), 0, []⟩
  | job => new (.hired job)

@[simp, grind =] theorem origin_new (o : Origin K) : (new o).origin = o := rfl
@[simp, grind =] theorem hold_new (o : Origin K) : (new o).hold = none := rfl
@[simp, grind =] theorem link_new (o : Origin K) : (new o).link = none := rfl
@[simp, grind =] theorem dues_new (o : Origin K) : (new o).dues = [] := rfl

@[simp, grind =] theorem origin_ofJob (job : Job K) : (ofJob job).origin = .hired job := by
  cases job <;> rfl

@[simp, grind =] theorem link_ofJob (o : LinkOwner) (l : LinkId) (params : Json) :
    (ofJob (.handshake o l params : Job K)).link = some (l, .fresh) := rfl

@[simp, grind =] theorem hold_ofJob (job : Job K) : (ofJob job).hold = none := by
  cases job <;> rfl

@[simp, grind =] theorem dues_ofJob (job : Job K) : (ofJob job).dues = [] := by
  cases job <;> rfl

end Role

structure Affairs (K : Type) where
  roles : TaskId → Role K
  ledger : Ledger

namespace Affairs

variable {K : Type} (A : Affairs K)

def server (s : ServerId) : Server := A.ledger.server s

def stage? (l : LinkId) : Option Link.Stage := Link.Stage.after? (A.ledger.said l)

def cast (t : TaskId) (ρ : Role K) : Affairs K := { A with roles := update A.roles t ρ }

def keep (L : Ledger) : Affairs K := { A with ledger := L }

def put (s : ServerId) (x : Server) : Affairs K := A.keep (A.ledger.put s x)

def say (l : LinkId) (e : Link.Event) : Affairs K := A.keep (A.ledger.say l e)

/-- Takes a session out of the index. -/
def strike (e : String × SessionId) : Affairs K :=
  A.keep { A.ledger with index := A.ledger.index.remove e.1 e.2 }

def addLink : Affairs K := A.keep { A.ledger with readers := A.ledger.readers ++ [none] }

/-- The generation was begun by a start, and is not being stopped. -/
structure Begun (owner : LinkOwner) : Prop where
  lt : owner.server < A.ledger.servers.length
  le : owner.generation ≤ (A.server owner.server).generation
  ne_stopped : owner.generation = (A.server owner.server).generation →
    (A.server owner.server).status ≠ .stopped
  not_stopping {t : TaskId} : owner.generation = (A.server owner.server).generation →
    (A.roles t).hold ≠ some (owner.server, .stopping)

/-- The access that a server has or had at its generation. -/
structure Genuine (a : Access) : Prop where
  lt : a.server < A.ledger.servers.length
  le : a.generation ≤ (A.server a.server).generation
  eq : a.generation = (A.server a.server).generation → (A.server a.server).access = some a
  greeted : ∃ t, (A.roles t).origin.greeting? = some (⟨a.server, a.generation⟩, a.link)

/-- What a job can rely on from its start. -/
def Founded : Job K → Prop
  | .readAll owner _ | .answer owner _ _ _ _ | .handshake owner _ _ | .crash owner _ =>
    A.Begun owner
  | .abandon owner => owner.server < A.ledger.servers.length
  | .search a _ _ => A.Genuine a
  | .errorLog _ _ | .outside _ => True

end Affairs

variable {K : Type} {may : TaskId → String → Prop} {given : String → Prop}

variable (may given) in
/-- What leaves roles and lifecycles alone. Task `t` may bring a document back to a server if
`may t` says so; the editor opens documents that are `given`. -/
inductive Aside : Affairs K → Affairs K → Prop where
  | same {A : Affairs K} : Aside A A
  | lists {A : Affairs K} {documents : List OpenDocument}
      (h : ∀ d ∈ documents, d ∈ A.ledger.documents ∨ given d.uri) :
      Aside A (A.keep { A.ledger with documents })
  | reads {A : Affairs K} {l : LinkId} {r : TaskId} (h : (A.roles r).origin.reading? = some l) :
      Aside A (A.keep { A.ledger with readers := A.ledger.readers.set l (some r) })
  | lets {A : Affairs K} {l : LinkId} :
      Aside A (A.keep { A.ledger with readers := A.ledger.readers.set l none })
  | hears {A : Affairs K} {l : LinkId} {method : String} {outcome : Except ClientError Json}
      (h : method ≠ "shutdown" ∨ outcome.isOk = false) : Aside A (A.say l (.answered method outcome))
  | talks {A : Affairs K} {a : Access} {e : Link.Event} {u : Link.Utterance}
      (h : (A.server a.server).access = some a) (he : e.utterance? = some u)
      (hu : u.isTraffic = true) : Aside A (A.say a.link e)
  | empties {A : Affairs K} {s : ServerId} : Aside A (A.put s (A.server s).takeQueue.1)
  | removes {A : Affairs K} {s : ServerId} {uri : String}
      (h : (A.server s).session? uri = none) : Aside A (A.put s ((A.server s).remove uri))
  | drops {A : Affairs K} {s : ServerId} {uri : String} {session : SessionId}
      (h : (A.server s).session? uri = some session) :
      Aside A ((A.put s ((A.server s).remove uri)).strike (uri, session))
  | enqueues {A : Affairs K} {t : TaskId} {s : ServerId} {d : OpenDocument} (h : may t d.uri) :
      Aside A (A.put s ((A.server s).enqueue d))
  | enters {A : Affairs K} {t : TaskId} {s : ServerId} {d : OpenDocument} (h : may t d.uri)
      (hd : (A.server s).isConnectedTo d.uri = false) :
      Aside A (A.keep { A.ledger.put s { A.server s with
          connected := (A.server s).connected ++ [(d.uri, A.ledger.uris.length)] } with
        uris := A.ledger.uris ++ [d.uri]
        index := A.ledger.index.insert d.uri ⟨A.ledger.uris.length, s⟩ })

theorem Aside.mono {may' : TaskId → String → Prop} {A B : Affairs K}
    (h : Aside may given A B) (hm : ∀ t uri, may t uri → may' t uri) : Aside may' given A B := by
  cases h with
  | same => exact .same
  | lists h => exact .lists h
  | reads h => exact .reads h
  | lets => exact .lets
  | hears h => exact .hears h
  | talks h he hu => exact .talks h he hu
  | empties => exact .empties
  | removes h => exact .removes h
  | drops h => exact .drops h
  | enqueues h => exact .enqueues (hm _ _ h)
  | enters h hd => exact .enters (hm _ _ h) hd

/-- What tasks make of servers in their roles. -/
inductive Act : Affairs K → Affairs K → Prop where
  -- Tasks come to be.
  | called {A : Affairs K} {u : TaskId} (h : A.roles u = .new .unborn) :
      Act A (A.cast u (.new .called))
  | hired {A : Affairs K} {u : TaskId} {job : Job K} (h : A.roles u = .new .unborn)
      (hjob : A.Founded job) (hne : (Origin.hired job).greeting? = none) :
      Act A (A.cast u (.new (.hired job)))
  -- The lifecycle of a server is taken and given back.
  | takes {A : Affairs K} {t : TaskId} {s : ServerId} (hs : s < A.ledger.servers.length)
      (ht : (A.roles t).origin.Drives s) (hold : (A.roles t).hold = none)
      (hlink : (A.roles t).origin.greeting? ≠ none ∨ (A.roles t).link = none)
      (hfree : (A.server s).lifecycle.owner ≠ .taken) :
      Act A ((A.cast t { A.roles t with hold := some (s, .idle) }).put s
        { A.server s with lifecycle := ⟨.taken, []⟩ })
  | returns {A : Affairs K} {t : TaskId} {s : ServerId}
      (hold : (A.roles t).hold = some (s, .idle)) (hdues : (A.roles t).dues = []) :
      Act A ((A.cast t { A.roles t with hold := none }).put s
        { A.server s with lifecycle := Lock.free })
  -- Starting.
  | begins {A : Affairs K} {t : TaskId} {s : ServerId} (ht : (A.roles t).origin.greeting? = none)
      (hold : (A.roles t).hold = some (s, .idle))
      (hidle : (A.server s).status = .stopped ∨ (A.server s).status = .failed) :
      Act A ((A.cast t { A.roles t with
          hold := some (s, .launching), generation := (A.server s).generation + 1 }).put s
        (A.server s).beginStart.1)
  | opens {A : Affairs K} {t : TaskId} {s : ServerId}
      (hold : (A.roles t).hold = some (s, .launching)) (hlink : (A.roles t).link = none) :
      Act A (A.cast t { A.roles t with link := some (A.ledger.readers.length, .fresh) }).addLink
  | launches {A : Affairs K} {t u : TaskId} {s : ServerId} {l : LinkId} {params : Json}
      {k : Connection} (hold : (A.roles t).hold = some (s, .launching))
      (hlink : (A.roles t).link = some (l, .fresh)) (hu : A.roles u = .new .unborn)
      (hl : k.link = l) (hk : k.handshake = u)
      (hlog : ∀ v, k.errorLog = some v → (A.roles v).origin.logs = true) :
      Act A (((A.cast t { A.roles t with
          hold := some (s, .idle), link := none, generation := 0 }).cast u
        (.ofJob (.handshake ⟨s, (A.server s).generation⟩ l params))).put s
        { A.server s with connection := some k })
  | misses {A : Affairs K} {t : TaskId} {s : ServerId}
      (hold : (A.roles t).hold = some (s, .launching)) :
      Act A ((A.cast t { A.roles t with
          hold := some (s, .idle), link := none, generation := 0 }).put s
        ((A.server s).move .failed))
  -- Initializing.
  | asks {A : Affairs K} {t : TaskId} {owner : LinkOwner} {l : LinkId} {params : Json}
      (ht : (A.roles t).origin.greeting? = some (owner, l))
      (hlink : (A.roles t).link = some (l, .fresh)) :
      Act A ((A.cast t { A.roles t with link := some (l, .initializing) }).say l
        (.asked "initialize" params))
  | greets {A : Affairs K} {t : TaskId} {s : ServerId} {γ : Nat} {l : LinkId}
      {capabilities : Capabilities} {params : Json}
      (ht : (A.roles t).origin.greeting? = some (⟨s, γ⟩, l))
      (hold : (A.roles t).hold = some (s, .idle))
      (hlink : (A.roles t).link = some (l, .initializing)) (hγ : (A.server s).generation = γ)
      (hs : (A.server s).status = .starting) :
      Act A (((A.cast t { A.roles t with link := none }).put s
        ((A.server s).becomeStarted ⟨s, γ, l, capabilities⟩)).say l (.told "initialized" params))
  | breaks {A : Affairs K} {t : TaskId} {s : ServerId} {γ : Nat} {l : LinkId}
      (ht : (A.roles t).origin.greeting? = some (⟨s, γ⟩, l))
      (hold : (A.roles t).hold = none)
      (hlink : (A.roles t).link = some (l, .initializing)) (hγ : (A.server s).generation = γ) :
      Act A ((A.cast t { A.roles t with link := none }).put s ((A.server s).move .failed))
  -- Crashes.
  | counts {A : Affairs K} {t : TaskId} {s : ServerId} (ht : (A.roles t).origin.greeting? = none)
      (hold : (A.roles t).hold = some (s, .idle)) (hs : (A.server s).status ≠ .stopped) :
      Act A ((A.cast t { A.roles t with hold := some (s, .counting) }).put s
        (A.server s).countCrash.1)
  | forgives {A : Affairs K} {t : TaskId} {s : ServerId}
      (hold : (A.roles t).hold = some (s, .idle)) :
      Act A (A.put s { A.server s with crashes := 0 })
  | fails {A : Affairs K} {t : TaskId} {s : ServerId} (ht : (A.roles t).origin.greeting? = none)
      (hold : (A.roles t).hold = some (s, .counting)) :
      Act A ((A.cast t { A.roles t with hold := some (s, .failing) }).put s
        ((A.server s).move .failed))
  -- Stopping.
  | clears {A : Affairs K} {t : TaskId} {s : ServerId} {phase : Phase}
      (hold : (A.roles t).hold = some (s, phase)) :
      Act A ((A.cast t { A.roles t with dues := (A.roles t).dues ++ (A.server s).connected }).put s
        (A.server s).takeSessions.1)
  | strikes {A : Affairs K} {t : TaskId} {e : String × SessionId} {dues : List (String × SessionId)}
      (h : (A.roles t).dues = e :: dues) :
      Act A ((A.cast t { A.roles t with dues }).strike e)
  | stops {A : Affairs K} {t : TaskId} {s : ServerId} {link : Option (LinkId × Link.Stage)}
      (ht : (A.roles t).origin.greeting? = none)
      (hold : (A.roles t).hold = some (s, .idle) ∨ (A.roles t).hold = some (s, .counting) ∨
        (A.roles t).hold = some (s, .failing))
      (hlink : ∀ l stage, link = some (l, stage) →
        ∃ a, (A.server s).access = some a ∧ l = a.link ∧ stage = .ready) :
      Act A ((A.cast t { A.roles t with hold := some (s, .stopping), link }).put s
        (A.server s).beginStop.1)
  | closes {A : Affairs K} {t : TaskId} {s : ServerId} {l : LinkId}
      (hold : (A.roles t).hold = some (s, .stopping))
      (hlink : (A.roles t).link = some (l, .ready)) :
      Act A ((A.cast t { A.roles t with link := some (l, .closing) }).say l
        (.asked "shutdown" .null))
  | heeds {A : Affairs K} {t : TaskId} {l : LinkId} {outcome : Except ClientError Json}
      {s : ServerId} (hold : (A.roles t).hold = some (s, .stopping))
      (hlink : (A.roles t).link = some (l, .closing)) (h : outcome.isOk = true) :
      Act A ((A.cast t { A.roles t with link := some (l, .closed) }).say l
        (.answered "shutdown" outcome))
  | exits {A : Affairs K} {t : TaskId} {s : ServerId} {l : LinkId}
      (hold : (A.roles t).hold = some (s, .stopping))
      (hlink : (A.roles t).link = some (l, .closed)) :
      Act A ((A.cast t { A.roles t with link := some (l, .exited) }).say l (.told "exit" .null))
  | ends {A : Affairs K} {t : TaskId} {s : ServerId}
      (hold : (A.roles t).hold = some (s, .stopping)) :
      Act A ((A.cast t { A.roles t with hold := some (s, .idle), link := none }).put s
        (A.server s).endStop)

variable (may given) in
inductive Step (A B : Affairs K) : Prop where
  | aside (h : Aside may given A B)
  | act (h : Act A B)

theorem Step.mono {may' : TaskId → String → Prop} {A B : Affairs K} (h : Step may given A B)
    (hm : ∀ t uri, may t uri → may' t uri) : Step may' given A B := by
  cases h with
  | aside h => exact .aside (h.mono hm)
  | act h => exact .act h

end LanguageClient
