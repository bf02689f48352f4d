import LanguageClient.Schema.Basic
namespace LanguageClient

/-!
# Timeouts

Every kind of blocking request has its own timeout in milliseconds, and a tally of the requests
that met and missed it.
-/

inductive RequestKind where
  | codeAction
  | codeLens
  | completion
  | definition
  | documentHighlight
  | executeCommand
  | formatting
  | hover
  | handshake
  | prepareRename
  | references
  | signatureHelp
  | shutdown
  | symbols
  | willSave
deriving DecidableEq, Repr

namespace RequestKind

def all : List RequestKind :=
  [codeAction, codeLens, completion, definition, documentHighlight, executeCommand, formatting,
    hover, handshake, prepareRename, references, signatureHelp, shutdown, symbols, willSave]

def name : RequestKind → String
  | codeAction => "codeAction"
  | codeLens => "codeLens"
  | completion => "completion"
  | definition => "definition"
  | documentHighlight => "documentHighlight"
  | executeCommand => "executeCommand"
  | formatting => "formatting"
  | hover => "hover"
  | handshake => "init"
  | prepareRename => "prepareRename"
  | references => "references"
  | signatureHelp => "signatureHelp"
  | shutdown => "shutdown"
  | symbols => "symbols"
  | willSave => "willSave"

def ofName? (s : String) : Option RequestKind := all.find? fun k => k.name == s

def defaultMillis : RequestKind → Nat
  | completion | documentHighlight | signatureHelp => 1000
  | handshake => 10000
  | shutdown => 5000
  | _ => 2000

end RequestKind

structure Tally where
  successes : Nat
  failures : Nat
deriving DecidableEq, Repr

/-- Millisecond values by kind. -/
abbrev TimeoutOverrides := List (RequestKind × Nat)

structure TimeoutTable where
  millis : RequestKind → Nat
  tally : RequestKind → Tally

namespace TimeoutTable

def new : TimeoutTable := ⟨RequestKind.defaultMillis, fun _ => ⟨0, 0⟩⟩

def set (t : TimeoutTable) (kind : RequestKind) (ms : Nat) : TimeoutTable :=
  { t with millis := fun k => if k = kind then ms else t.millis k }

def apply (t : TimeoutTable) (overrides : TimeoutOverrides) : TimeoutTable :=
  overrides.foldl (fun t o => t.set o.1 o.2) t

/-- Counts one outcome. -/
def record (t : TimeoutTable) (kind : RequestKind) (success : Bool) : TimeoutTable :=
  let old := t.tally kind
  let new := if success then { old with successes := old.successes + 1 }
    else { old with failures := old.failures + 1 }
  { t with tally := fun k => if k = kind then new else t.tally k }

end TimeoutTable

namespace TimeoutOverrides

def shape : Shape := Shape.mapOf (fun k => (RequestKind.ofName? k).isSome) Shape.u64

/-- Reads overrides from an object of kinds. -/
def ofJson? (j : Json) : Option TimeoutOverrides :=
  (shape j).map fun o =>
    o.members.filterMap fun m => do
      let kind ← RequestKind.ofName? m.1
      let ms ← m.2.nat?
      some (kind, ms)

def toJson (o : TimeoutOverrides) : Json := Json.object (o.map fun e => (e.1.name, .ofNat e.2))

end TimeoutOverrides

end LanguageClient
