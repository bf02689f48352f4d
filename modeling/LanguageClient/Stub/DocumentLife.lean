import LanguageClient.Client.Calls
import LanguageClient.Report.Values
import LanguageClient.Routing.Documents
import LanguageClient.Stub.Server
namespace LanguageClient

/-!
# The life of a document

A client of one stub server that serves every definition, and a project for its documents. One
document is taken through its whole life: opened, hovered over, carried across a crash and closed.
-/

namespace DocumentLife

/-- The root of the project. -/
def root : Path := "/project".toList

/-- An executable for an extension that is never looked for. -/
def definition (extension : Text) : ServerDefinition :=
  ServerDefinition.new extension (.executable "fake-language-server".toList [])

/-- The number of the stub server. -/
def server : StubId := 0

/-- A client of a stub server that follows a script. -/
def client (script : StubScript) (definitions : List ServerDefinition) (crashThreshold : Nat)
    (timeouts : TimeoutOverrides) : Client Stubs :=
  let c := (Stubs.add "server" script (Stubs.client (.shared [] (some server)))).1
  { c with
    crashThreshold
    timeouts := c.timeouts.apply timeouts
    routes := Routes.ofConfig (definitions.foldl Config.addDefinition Config.standard) }

/-- Opens a file of the project in the editor. -/
def openFile (file : Path) (text : Text) (c : Client Stubs) :
    Client Stubs × Except ClientError OpenDocument :=
  let path := Path.join root file
  match Uri.ofPath root path with
  | .error e => (c, .error e)
  | .ok uri =>
    let (c, d) := Stubs.addDocument (String.ofList uri) path root text c
    (c.updateEditor (·.open_ d), .ok d)

def stub (c : Client Stubs) : StubServer := c.outside.server server

def opened (c : Client Stubs) : Nat := (stub c).calls "textDocument/didOpen"

/-- The server of a document, or a fresh one if it goes to none. -/
def serverFor (uri : String) (definition : ServerDefinition) (c : Client Stubs) :
    Client Stubs × ServerId :=
  match Routing.serverOf? uri c with
  | some s => (c, s)
  | none => c.addServer (Server.new definition root)

/-- How the document stands before it is opened; it is on the disk. -/
def start (definition : ServerDefinition) (file : Path) (d : OpenDocument) (c : Client Stubs) :
    Json :=
  Json.object
    [("definition", .ofText definition.toCsv), ("disk", .bool true),
      ("relative", .ofText (Path.relative (Text.splitOnChar '/' file))),
      ("root", .bool (Path.same d.root root)), ("buffer", .ofText (c.editor.text d.buffer))]

/-- Waits for the start: whether the server started and heard of its document, and how it stands. -/
def await (s : ServerId) : Stubs.Script Json := do
  let started ← Client.reachesStatus s .started
  let heard ← Client.comesToHold fun c => opened c == 1
  Program.read fun c =>
    .arr [.bool started, .bool heard, .str (c.server s).status.name,
      .ofNat (c.server s).connected.length]

/-- Hovers over the document: what there is to see, and what the server received. -/
def hover (d : OpenDocument) (offset : Nat) : Stubs.Script Json := do
  let found ← match ← Program.read fun c => c.index.find? d.uri with
    | none => pure none
    | some entry => Session.hover entry.session offset
  Program.read fun c =>
    .arr [.ofOption (fun h : HoverText => .ofText h.text) found,
      .ofNat (c.editor.shown.filter Display.isHover).length,
      .ofNat ((stub c).calls "textDocument/hover"), .ofStrings ((stub c).received.map (·.1))]

/-- Drops the connection: whether the server is back with its document, and how it stands. -/
def crash (s : ServerId) : Stubs.Script Json := do
  Program.modify (Stubs.drop server)
  let isBack ← Client.comesToHold fun c => (stub c).starts == 2 && opened c == 2
  Program.read fun c =>
    .arr [.bool isBack, .ofNat (stub c).starts, .ofNat (c.server s).crashes,
      .str (c.server s).status.name, .ofNat (c.editor.shown.filter Display.isError).length]

/-- Closes the document and stops all servers: what is left. -/
def finish (d : OpenDocument) : Stubs.Script Json := do
  Routing.closed Stubs.providers d.uri
  Routing.shutDown Stubs.providers
  Program.sleep 1
  Program.read fun c =>
    .arr [.ofNat c.outside.acquired, .ofNat c.outside.released, .ofNat ((stub c).calls "shutdown"),
      .bool (Stubs.isConnected server c), .ofNat c.routes.servers.length]

/-- The whole life of a document. -/
def exercise (d : OpenDocument) (definition : ServerDefinition) (offset : Nat) :
    Stubs.Script (List Json) := do
  Routing.opened Stubs.providers d
  let s ← Program.act (serverFor d.uri definition)
  let started ← await s
  let hovered ← hover d offset
  let crashed ← crash s
  let finished ← finish d
  return [started, hovered, crashed, finished]

end DocumentLife

end LanguageClient
