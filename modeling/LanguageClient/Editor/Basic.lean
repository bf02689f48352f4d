import LanguageClient.Completion
import LanguageClient.Editor.Buffer
import LanguageClient.Settings
import LanguageClient.Task.Store
import LanguageClient.Text.Token
namespace LanguageClient

/-!
# Editors

The buffers and open documents of the editor, what it was asked to show, and the settings it keeps
for servers.
-/

/-! ## What the editor is asked to show -/

/-- A diagnostic ready to draw, in byte offsets. -/
structure Marker where
  start : Nat
  stop : Nat
  severity : Option Int
  message : String
  source : Option String
  code : Option String
deriving DecidableEq, Repr

namespace Marker

/-- The code of a diagnostic as text. -/
def codeText? (code : Json) : Option String :=
  match code with
  | .int n => some (toString n)
  | .str s => some s
  | _ => none

/-- The marker of a diagnostic in normal form; an empty range grows to the token around it. -/
def ofDiagnostic (text : Text) (d : Json) : Marker :=
  let span := Text.visibleSpan text (Text.offsets text (Range.ofNormal (d.get "range")))
  { start := span.1
    stop := span.2
    severity := (d.get "severity").int?
    message := (d.get "message").str?.getD ""
    source := (d.get "source").str?
    code := (d.get? "code").bind codeText? }

end Marker

structure HoverText where
  /-- The offset that was asked about. -/
  offset : Nat
  text : Text
  markdown : Bool
deriving DecidableEq, Repr

inductive Display where
  /-- Replaces all markers of a document. -/
  | diagnostics (uri : String) (markers : List Marker)
  | hover (uri : String) (hover : HoverText)
  /-- Replaces the highlighted ranges of a document. -/
  | highlights (uri : String) (ranges : List (Nat × Nat))
  | signature (uri : String) (label : Text)
  | completions (uri : String) (entries : List CompletionEntry)
  | snippet (uri : String) (offset : Nat) (snippet : Snippet)
  | message (kind : Int) (text : String)
  | error (title text : String)
deriving DecidableEq

/-! ## The editor -/

structure Editor where
  buffers : Store Buffer
  /-- The open documents, the one opened last at the end. -/
  documents : List OpenDocument
  /-- What was shown, in order. -/
  shown : List Display
  /-- The settings of a server in the project at a root, by its id. -/
  settings : Path → String → Option ServerSettings
  /-- The file that the settings of a server in the project at a root are kept in. -/
  settingsPath : Path → String → Option Path

namespace Editor

def new : Editor := ⟨Store.empty, [], [], fun _ _ => none, fun _ _ => none⟩

instance : Inhabited Editor := ⟨new⟩

def show_ (e : Editor) (d : Display) : Editor := { e with shown := e.shown ++ [d] }

def text (e : Editor) (b : BufferId) : Text := (e.buffers.get b).text

def updateBuffer (e : Editor) (b : BufferId) (f : Buffer → Buffer) : Editor :=
  { e with buffers := e.buffers.update b f }

/-- Closes a document. -/
def close (e : Editor) (uri : String) : Editor :=
  { e with documents := e.documents.filter fun d => d.uri != uri }

/-- Opens a document, in place of one with the same URI. -/
def open_ (e : Editor) (d : OpenDocument) : Editor :=
  { e.close d.uri with documents := (e.close d.uri).documents ++ [d] }

/-- The settings of a server in a project, empty when it has none. -/
def settingsOf (e : Editor) (root : Path) (server : String) : ServerSettings :=
  (e.settings root server).getD ServerSettings.none

end Editor

end LanguageClient
