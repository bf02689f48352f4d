import LanguageClient.Rendering
import LanguageClient.Session.WorkspaceEdit
namespace LanguageClient

/-!
# Language features of a document

What the editor can ask a session: each question goes to the server as long as its kind may take,
and the answer comes back in byte offsets of the buffer. Without a server there is no answer.
-/

namespace Session

variable {E K : Type}

/-- Asks the server of a session about its document; `params` are made of the URI and the text. -/
def ask (s : SessionId) (kind : RequestKind) (f : Feature) (params : String → Text → Json) :
    Prog E K (Option Json) := do
  match ← Program.read (·.access? s) with
  | none => return none
  | some a => do
    let params ← Program.read fun c => params (c.session s).uri (c.text s)
    a.ask kind f params

/-- Parameters of an offset. -/
def offsetParams (offset : Nat) (uri : String) (text : Text) : Json :=
  Params.at_ uri (text.position offset) []

def items (answer : Option Json) : List Json := (answer.bind Json.arr?).getD []

/-- The byte offsets of ranges in normal form. -/
def spans (text : Text) (ranges : List Json) : List (Nat × Nat) :=
  ranges.map fun r => text.offsets (Range.ofNormal r)

/-! ## Completion -/

def completion (s : SessionId) (offset : Nat) : Prog E K (List CompletionEntry) := do
  let answer ← ask s .completion .completion (offsetParams offset)
  return (answer.map CompletionEntry.ofResponse).getD []

/-- Lets the server fill in what it left out of an entry. -/
def resolveCompletion (s : SessionId) (entry : CompletionEntry) : Prog E K CompletionEntry := do
  let answer ← ask s .completion .resolveCompletion fun _ _ => entry.item
  return (answer.map CompletionEntry.ofItem).getD entry

/-- The range that the main text of an entry replaces: that of its main edit, or else the token
before the caret. -/
def replacedBy (entry : CompletionEntry) (text : Text) (caret : Nat) : Range :=
  match entry.edit with
  | some edit => edit.range
  | none =>
    let before := text.takeBytes caret
    let caret := before.byteLength
    text.range (before.tokenAround caret).1 caret

/-- The main text of an entry. -/
def mainText (entry : CompletionEntry) : Text :=
  match entry.snippet, entry.edit with
  | some snippet, _ => snippet.text
  | none, some edit => edit.newText
  | none, none => entry.insertText

/-- How far the edits that start before an offset move it. -/
def shift (text : Text) (edits : List TextEdit) (start : Nat) : Int :=
  (edits.filter fun e => text.offset e.range.start < start).foldl
    (fun moved e =>
      let span := text.offsets e.range
      moved + ((e.newText.byteLength : Int) - ((span.2 : Int) - span.1)))
    0

/-- Executes commands on the server; an edit that comes back is made. -/
def execute (s : SessionId) (commands : List Json) : Prog E K Unit := do
  match ← Program.read (·.access? s) with
  | none => return ()
  | some a =>
    Program.each
      (fun command => do
        match ← a.ask .executeCommand .executeCommand (Params.execute command) with
        | none => return ()
        | some answer =>
          if (answer.get? "changes").isSome || (answer.get? "documentChanges").isSome then
            match Shape.workspaceEdit answer with
            | some edit => do
              let _ ← (WorkspaceEdit.ofNormal edit).apply
            | none => return ())
      commands

/-- Applies an entry with the caret at an offset, hands its snippet over, and runs its command. -/
def applyCompletion (s : SessionId) (entry : CompletionEntry) (caret : Nat) : Prog E K Bool := do
  let text ← Program.read (·.text s)
  let range := replacedBy entry text caret
  let start := text.offset range.start
  let applied ← applyEdits s (entry.additionalEdits ++ [⟨range, mainText entry⟩]) none
  match entry.snippet with
  | none => pure ()
  | some snippet =>
    let at_ := ((start : Int) + shift text entry.additionalEdits start).toNat
    Program.modify fun c => c.show_ (.snippet (c.session s).uri at_ snippet)
  match entry.command with
  | none => pure ()
  | some command => execute s [command]
  return applied

/-! ## Documentation -/

/-- The documentation at an offset, which is shown too. -/
def hover (s : SessionId) (offset : Nat) : Prog E K (Option HoverText) := do
  match ← ask s .hover .hover (offsetParams offset) with
  | none => return none
  | some answer =>
    let rendered := hoverText answer
    if rendered.text = [] then return none
    let text : HoverText := ⟨offset, rendered.text, rendered.markdown⟩
    Program.modify fun c => c.show_ (.hover (c.session s).uri text)
    return some text

/-- The active signature at an offset, which is shown too. -/
def signature (s : SessionId) (offset : Nat) : Prog E K (Option Text) := do
  match (← ask s .signatureHelp .signatureHelp (offsetParams offset)).bind signatureLabel? with
  | none => return none
  | some label => do
    Program.modify fun c => c.show_ (.signature (c.session s).uri label)
    return some label

/-! ## Navigation -/

/-- All references to the symbol at an offset, its declaration among them. -/
def references (s : SessionId) (offset : Nat) : Prog E K (List Json) := do
  return items (← ask s .references .references fun uri text =>
    Params.references uri (text.position offset))

/-- The references inside the document. -/
def documentReferences (s : SessionId) (offset : Nat) : Prog E K (List (Nat × Nat)) := do
  let locations ← references s offset
  let (uri, text) ← Program.read fun c => ((c.session s).uri, c.text s)
  let own := locations.filter fun l => (l.get "uri").str? == some uri
  return spans text (own.map (·.get "range"))

def definition (s : SessionId) (offset : Nat) : Prog E K (List Json) := do
  return items (← ask s .definition .definition (offsetParams offset))

/-- The highlighted ranges for the symbol at an offset. -/
def highlights (s : SessionId) (offset : Nat) : Prog E K (List (Nat × Nat)) := do
  let found := items (← ask s .documentHighlight .documentHighlight (offsetParams offset))
  let text ← Program.read (·.text s)
  return spans text (found.map (·.get "range"))

/-- The caret moved: shows the highlights of the symbol under it. -/
def caretMoved (s : SessionId) (offset : Nat) : Prog E K Unit := do
  let ranges ← highlights s offset
  Program.modify fun c => c.show_ (.highlights (c.session s).uri ranges)

def symbols (s : SessionId) : Prog E K (Option Json) :=
  ask s .symbols .documentSymbol fun uri _ => Params.about uri []

/-! ## Renaming -/

/-- Whether the symbol at an offset can be renamed; a check that fails counts as yes. -/
def canRename (s : SessionId) (offset : Nat) : Prog E K Bool := do
  match ← Program.read (·.access? s) with
  | none => return false
  | some a => do
    let gate : Gate (Client E) (Job K) := a.gate
    if ← Program.read fun c =>
        Feature.isSupported a.capabilities (gate.isRegistered c) .null .rename then
      let params ← Program.read fun c => offsetParams offset (c.session s).uri (c.text s)
      match ← Prog.limit .prepareRename (gate.call .prepareRename params) with
      | .ok (.value .null) => return false
      | _ => return true
    else return false

/-- Renames the symbol at an offset in all open documents. -/
def rename (s : SessionId) (offset : Nat) (name : String) : Prog E K Bool := do
  match ← ask s .references .rename fun uri text =>
      Params.at_ uri (text.position offset) [("newName", .str name)] with
  | none => return false
  | some edit => (WorkspaceEdit.ofNormal edit).apply

/-! ## Formatting -/

/-- Makes the edits of an answer. -/
def applyAnswer (s : SessionId) (answer : Option Json) : Prog E K Bool := do
  match answer with
  | none => return false
  | some edits => applyEdits s (TextEdit.listOfNormal edits) none

def format (s : SessionId) (options : Json) : Prog E K Bool := do
  applyAnswer s (← ask s .formatting .formatting fun uri _ =>
    Params.about uri [("options", options)])

def formatRange (s : SessionId) (start stop : Nat) (options : Json) : Prog E K Bool := do
  applyAnswer s (← ask s .formatting .rangeFormatting fun uri text =>
    Params.about uri [("range", (text.range start stop).toJson), ("options", options)])

def formatTyped (s : SessionId) (offset : Nat) (typed : String) : Prog E K Bool := do
  applyAnswer s (← ask s .formatting .onTypeFormatting fun uri text =>
    Params.at_ uri (text.position offset) [("ch", .str typed), ("options", Params.typingOptions)])

/-- A character was typed before an offset: does what the server wants it to trigger. A dot triggers
no completion. -/
def characterTyped (s : SessionId) (offset : Nat) (typed : String) : Prog E K Unit := do
  match ← Program.read (·.access? s) with
  | none => return ()
  | some a => do
    if a.capabilities.completionTriggers.contains typed && typed != "." then
      let entries ← completion s offset
      if entries ≠ [] then
        Program.modify fun c => c.show_ (.completions (c.session s).uri entries)
    if a.capabilities.signatureTriggers.contains typed then
      let _ ← signature s offset
    if a.capabilities.onTypeTriggers.contains typed then
      let _ ← formatTyped s offset typed

/-! ## Actions -/

/-- Whether two ranges have a position in common. -/
def overlap (a b : Range) : Bool := decide (a.start ≤ b.stop) && decide (b.start ≤ a.stop)

/-- The actions for a range, given the diagnostics in it. -/
def codeActions (s : SessionId) (start stop : Nat) : Prog E K (List Json) := do
  let diagnostics ← Program.read fun c => (c.session s).diagnostics
  return items (← ask s .codeAction .codeAction fun uri text =>
    let range := text.range start stop
    Params.codeAction uri range
      (diagnostics.filter fun d => overlap (Range.ofNormal (d.get "range")) range))

/-- Applies an action: a command is executed; otherwise first its edit is made, then its command
executed. -/
def applyAction (s : SessionId) (action : Json) : Prog E K Bool := do
  match action.get? "command" with
  | some (.str _) => do
    execute s [action]
    return true
  | command => do
    let applied ← match action.get? "edit" with
      | some edit => (WorkspaceEdit.ofNormal edit).apply
      | none => pure true
    match command with
    | some command => execute s [command]
    | none => pure ()
    return applied

/-! ## Lenses and links -/

/-- Asks for items of a document and lets the server fill in those that lack a member. -/
def listResolved (s : SessionId) (list resolve : Feature) (member : String) :
    Prog E K (List Json) := do
  match ← Program.read (·.access? s) with
  | none => return []
  | some a => do
    let uri ← Program.read fun c => (c.session s).uri
    let found := items (← a.ask .codeLens list (Params.about uri []))
    Program.collect
      (fun item => do
        if (item.get? member).isSome then return item
        return (← a.ask .codeLens resolve item).getD item)
      found

def lenses (s : SessionId) : Prog E K (List Json) :=
  listResolved s .codeLens .resolveCodeLens "command"

def links (s : SessionId) : Prog E K (List Json) :=
  listResolved s .documentLink .resolveDocumentLink "target"

/-! ## Diagnostics -/

/-- Replaces the diagnostics of the document and shows their markers. -/
def publish (s : SessionId) (diagnostics : List Json) (c : Client E) : Client E :=
  let markers := diagnostics.map (Marker.ofDiagnostic (c.text s))
  (c.updateSession s fun x => { x with diagnostics }).show_
    (.diagnostics (c.session s).uri markers)

end Session

end LanguageClient
