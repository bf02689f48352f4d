import LanguageClient.Definition.Basic
import LanguageClient.Registration.Table
import LanguageClient.Server.Capability
import LanguageClient.Session.Basic
import LanguageClient.Settings
import LanguageClient.Status
import LanguageClient.Transport.Wiring
namespace LanguageClient

/-!
# Servers

A server runs one definition for one project. Its status moves as `ServerStatus.canMove` allows.
Every start and every stop begins a new generation, so that what belongs to an older connection can
be told apart.
-/

abbrev ProviderId := Nat

/-- What the live connection holds. -/
structure Connection where
  provider : ProviderId
  link : LinkId
  errorLog : Option TaskId
  /-- The task that initializes the server. -/
  handshake : TaskId
  startedAt : Nat
deriving Repr

/-- What it takes to reach a server once it is initialized. -/
structure Access where
  server : ServerId
  generation : Nat
  link : LinkId
  capabilities : Capabilities

structure Server where
  definition : ServerDefinition
  root : Path
  status : ServerStatus
  /-- Every move of the status, oldest first. -/
  moves : List (ServerStatus × ServerStatus)
  /-- Every move that was not allowed and not made, oldest first. -/
  refused : List (ServerStatus × ServerStatus)
  generation : Nat
  /-- The crashes since the last restart. -/
  crashes : Nat
  failureShown : Bool
  crashShown : Bool
  /-- Held while the server is started, stopped or a crash is handled. -/
  lifecycle : Lock
  connection : Option Connection
  access : Option Access
  registrations : RegistrationTable
  settings : ServerSettings
  /-- The session of every connected document. -/
  connected : List (String × SessionId)
  /-- The documents that wait until the server is initialized, in order of arrival. -/
  queue : List OpenDocument
  /-- The tasks to wake when the status moves. -/
  watchers : List TaskId

namespace Server

def new (definition : ServerDefinition) (root : Path) : Server :=
  { definition
    root
    status := .stopped
    moves := []
    refused := []
    generation := 0
    crashes := 0
    failureShown := false
    crashShown := false
    lifecycle := Lock.free
    connection := none
    access := none
    registrations := RegistrationTable.empty
    settings := ServerSettings.none
    connected := []
    queue := []
    watchers := [] }

instance : Inhabited Server := ⟨new ⟨[], [], .rawCommand [], none⟩ []⟩

def id (s : Server) : String := String.ofList s.definition.id

/-- Moves the status where that is allowed; standing still is not a move. -/
def move (s : Server) (next : ServerStatus) : Server :=
  if s.status = next then s
  else if s.status.canMove next then
    { s with status := next, moves := s.moves ++ [(s.status, next)] }
  else { s with refused := s.refused ++ [(s.status, next)] }

/-- Whether a document is connected. -/
def isConnectedTo (s : Server) (uri : String) : Bool := s.connected.any fun e => e.1 == uri

/-- Whether a document waits for the server. -/
def isPending (s : Server) (uri : String) : Bool := s.queue.any fun d => d.uri == uri

def session? (s : Server) (uri : String) : Option SessionId := s.connected.lookup uri

/-- Stopped, with no document connected or waiting. -/
def isIdle (s : Server) : Bool := s.status == .stopped && s.connected.isEmpty && s.queue.isEmpty

/-- Begins a start under a new generation, unless the server runs already. -/
def beginStart (s : Server) : Server × Option Nat :=
  match s.status with
  | .stopped | .failed =>
    let s := s.move .starting
    ({ s with generation := s.generation + 1 }, some (s.generation + 1))
  | .starting | .started => (s, none)

/-- Takes the sessions out. -/
def takeSessions (s : Server) : Server × List SessionId :=
  ({ s with connected := [] }, s.connected.map (·.2))

/-- Begins a stop under a new generation: empties the queue and takes the connection out. -/
def beginStop (s : Server) : Server × (Option Connection × Option Access) :=
  ({ s with queue := [], generation := s.generation + 1, connection := none, access := none },
    (s.connection, s.access))

/-- Ends a stop; a failed server stays failed. -/
def endStop (s : Server) : Server :=
  let s := { s with registrations := RegistrationTable.empty }
  if s.status = .failed then s else s.move .stopped

/-- Enters the access of a server that has been initialized. -/
def becomeStarted (s : Server) (access : Access) : Server :=
  { s with access := some access }.move .started

/-- Takes the waiting documents out. -/
def takeQueue (s : Server) : Server × List OpenDocument := ({ s with queue := [] }, s.queue)

/-- Adds a document to the queue, unless it waits already. -/
def enqueue (s : Server) (d : OpenDocument) : Server :=
  if s.isPending d.uri then s else { s with queue := s.queue ++ [d] }

/-- Takes a document out, wherever it is. -/
def remove (s : Server) (uri : String) : Server :=
  { s with
    connected := s.connected.filter fun e => e.1 != uri
    queue := s.queue.filter fun d => d.uri != uri }

/-- Forgets the crashes and what was shown about them. -/
def forgive (s : Server) : Server :=
  { s with crashes := 0, crashShown := false, failureShown := false }

theorem isConnectedTo_remove (s : Server) (uri : String) :
    (s.remove uri).isConnectedTo uri = false := by
  simp [remove, isConnectedTo]

theorem isPending_remove (s : Server) (uri : String) : (s.remove uri).isPending uri = false := by
  simp [remove, isPending]

theorem isPending_enqueue (s : Server) (d : OpenDocument) :
    (s.enqueue d).isPending d.uri = true := by
  unfold enqueue
  split
  · assumption
  · simp [isPending]

/-- The registrations as a gate sees them. -/
def isRegistered (s : Server) (method : DynamicMethod) : Bool := s.registrations.isRegistered method

end Server

/-!
## Providers

Where connections come from: a provider is acquired for a definition and a project, started and
stopped as often as needed, and released in the end.
-/

/-- The pipes of a started server. -/
structure Streams where
  /-- What the server writes. -/
  output : PipeId
  /-- What the server reads. -/
  input : PipeId
  errors : Option PipeId

structure Providers (W J : Type) where
  acquire : ServerDefinition → Path → Program W J (Except ClientError ProviderId)
  start : ProviderId → Program W J (Except ClientError Streams)
  stop : ProviderId → Program W J Unit
  release : ServerDefinition → Path → Program W J Unit

end LanguageClient
