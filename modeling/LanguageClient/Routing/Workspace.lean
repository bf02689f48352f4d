import LanguageClient.Routing.Documents
namespace LanguageClient

/-!
# Workspace events

What concerns all started servers of the client: files that change on disk, and the search for
symbols.
-/

/-- A symbol that a server found. -/
structure SymbolMatch where
  name : String
  kind : Int
  container : Option String
  uri : String
  /-- Missing where the server gave only the document. -/
  range : Option Json
  /-- The id of the server that found it. -/
  server : String

namespace SymbolMatch

/-- Reads the normal form of a symbol. -/
def ofNormal (server : String) (j : Json) : SymbolMatch :=
  let location := j.get "location"
  { name := (j.get "name").str?.getD ""
    kind := (j.get "kind").int?.getD 0
    container := (j.get "containerName").str?
    uri := (location.get "uri").str?.getD ""
    range := location.get? "range"
    server }

/-- The path of the file that holds the symbol. -/
def path? (m : SymbolMatch) : Option Path := Uri.toPath? m.uri.toList

end SymbolMatch

namespace Routing

variable {E K : Type}

/-- The servers in use that are started. -/
def started (c : Client E) : List ServerId :=
  c.routes.servers.filter fun s => (c.server s).status == .started

/-- A file changed on disk. A change of an open document is a save to its own server; every other
started server hears of it as of a watched file. -/
def fileChanged (uri : String) (change : FileChange) : Prog E K Unit := do
  let entry ← Program.read fun c => c.index.find? uri
  if change = FileChange.changed then
    match entry with
    | none => pure ()
    | some entry => Session.tellSaved entry.session
  let servers ← Program.read started
  let isOwn (s : ServerId) : Bool := change = FileChange.changed ∧ entry.map (·.server) = some s
  Program.each (fun s => Server.fileChanged s uri change) (servers.filter fun s => !isOwn s)

/-- The same of the file at a path; a path without a URI is passed over. -/
def pathChanged (path : Path) (change : FileChange) : Prog E K Unit := do
  match Uri.ofPath (← Program.read (·.directory)) path with
  | .ok uri => fileChanged (String.ofList uri) change
  | .error _ => return ()

/-- Starts a search on a server: its id, and the promise of the answer. -/
def search (query : String) (a : Access) : Prog E K (String × PromiseId) := do
  let promise ← Program.act (HasWiring.visit Wiring.newPromise)
  let _ ← Program.start (Job.search a query promise)
  Program.read fun c => ((c.server a.server).id, promise)

/-- What a search found. -/
def found (search : String × PromiseId) : Prog E K (List SymbolMatch) := do
  let answer ← Program.outcome search.2
  return ((answer.toOption.bind Json.arr?).getD []).map (SymbolMatch.ofNormal search.1)

/-- Searches the symbols of all started servers of a root at once; no kinds means all kinds. -/
def symbols (root : Path) (query : String) (kinds : List Int) : Prog E K (List SymbolMatch) := do
  let accesses ← Program.read fun c =>
    ((started c).filter fun s => Path.same (c.server s).root root).filterMap fun s =>
      (c.server s).access
  let searches ← Program.collect (search query) accesses
  let matches_ ← Program.collect found searches
  return matches_.flatten.filter fun m => kinds.isEmpty || kinds.contains m.kind

end Routing

end LanguageClient
