import LanguageClient.Server.Lifecycle
namespace LanguageClient

/-!
# Routing documents

Which server a document goes to: documents that are opened, closed, pinned to a definition and
released, and definitions that are replaced. Servers are made as documents need them and forgotten
once they are stopped and hold no documents; a failed one stays, so that its crashes are remembered.
-/

namespace Routing

variable {E K : Type}

/-- The server a document is connected to, or waits for. -/
def serverOf? (uri : String) (c : Client E) : Option ServerId :=
  ((c.index.find? uri).map (·.server)).or
    (c.routes.servers.find? fun s => (c.server s).isPending uri)

/-- The server of a definition and a root, made if there is none. -/
def serverFor (definition : ServerDefinition) (root : Path) (c : Client E) : Client E × ServerId :=
  let known := c.routes.servers.find? fun s =>
    (c.server s).definition == definition && Path.same (c.server s).root root
  match known with
  | some s => (c, s)
  | none =>
    let (c, s) := c.addServer (Server.new definition root)
    (c.updateRoutes fun r => { r with servers := r.servers ++ [s] }, s)

/-- Lists a server again that was forgotten before a document was connected to it. -/
def track (s : ServerId) (c : Client E) : Client E :=
  if (c.server s).isIdle || c.routes.servers.contains s then c
  else c.updateRoutes fun r => { r with servers := r.servers ++ [s] }

/-- Forgets the servers that are stopped and hold no documents. -/
def prune (c : Client E) : Client E :=
  c.updateRoutes fun r => { r with servers := r.servers.filter fun s => !(c.server s).isIdle }

/-- Takes a document off its server. -/
def disconnect (net : Providers (Client E) (Job K)) (uri : String) : Prog E K Unit := do
  match ← Program.read (serverOf? uri) with
  | none => return ()
  | some s => do
    Server.disconnect net s uri
    Program.modify prune

/-- A document was opened: it is connected to the server of its definition, and taken off another
one. -/
def opened (net : Providers (Client E) (Job K)) (d : OpenDocument) : Prog E K Unit := do
  match ← Program.read fun c => c.routes.definitionFor d with
  | none => return ()
  | some definition => do
    let s ← Program.act (serverFor definition d.root)
    let current ← Program.read (serverOf? d.uri)
    if current = some s then return ()
    match current with
    | none => pure ()
    | some current => Server.disconnect net current d.uri
    Server.connect net s d
    Program.modify fun c => prune (track s c)

/-- A document was closed. -/
def closed (net : Providers (Client E) (Job K)) (uri : String) : Prog E K Unit :=
  disconnect net uri

/-- Pins a document to a definition and connects it to the server of that. -/
def force (net : Providers (Client E) (Job K)) (d : OpenDocument) (definition : ServerDefinition) :
    Prog E K Unit := do
  Program.modify fun c => c.updateRoutes fun r =>
    r.force ⟨d.uri, String.ofList d.root, definition.toArray.map String.ofList⟩
  opened net d

/-- Takes the documents of released pins off their servers; what is no URI names no document. -/
def disconnectAll (net : Providers (Client E) (Job K)) (uris : List String) : Prog E K Unit :=
  Program.each (disconnect net) (uris.filter fun uri => Uri.isReference uri.toList)

/-- Releases all pins and disconnects their documents. -/
def releaseAll (net : Providers (Client E) (Job K)) : Prog E K Unit := do
  let uris ← Program.act fun c =>
    (c.updateRoutes fun r => { r with forced := [] }, c.routes.forced.map (·.1))
  disconnectAll net uris

/-- Takes the servers out that satisfy a condition. -/
def takeServers (p : Server → Bool) (c : Client E) : Client E × List ServerId :=
  let (out, kept) := c.routes.servers.partition fun s => p (c.server s)
  (c.updateRoutes fun r => { r with servers := kept }, out)

/-- Replaces the definitions: the pins to those that are gone are released, the servers of removed
and changed ones stopped, and the open documents of added and changed ones opened again. -/
def setDefinitions (net : Providers (Client E) (Job K)) (definitions : List ServerDefinition) :
    Prog E K Unit := do
  let new := Routes.flatten definitions
  let old ← Program.act fun c =>
    (c.updateRoutes fun r => { r with definitions := new }, c.routes.definitions)
  let stale ← Program.act fun c => (c.updateRoutes fun r => r.release r.stale, c.routes.stale)
  disconnectAll net stale
  let removed := Routes.keysChanged old new
  let dropped ← Program.act (takeServers fun s => s.definition.extensions.any removed.contains)
  Program.each (Server.stop net) dropped
  let added := Routes.keysChanged new old
  let documents ← Program.read fun c => c.editor.documents
  Program.each (opened net) (documents.filter fun d => added.contains d.extension)

/-- The roots of the servers in use, in order and each once. -/
def roots (c : Client E) : List Path :=
  let sorted := (c.routes.servers.map fun s => (c.server s).root).mergeSort Path.comesBefore
  sorted.foldr
    (fun p rest => p :: rest.dropWhile fun q => Path.same p q)
    []

/-- Stops all servers. -/
def shutDown (net : Providers (Client E) (Job K)) : Prog E K Unit := do
  let servers ← Program.act (takeServers fun _ => true)
  Program.each (Server.stop net) servers

end Routing

end LanguageClient
