import LanguageClient.Registration.Table
import LanguageClient.Schema.Capability
namespace LanguageClient

/-!
# Server capabilities

What a server offered when it was initialized: a wrapper of the normal form with a reader for each
capability the client asks about.
-/

structure Capabilities where
  /-- The normal form. -/
  value : Json
deriving DecidableEq

instance : Inhabited Capabilities := ⟨⟨.null⟩⟩

/-- How changes of a document are told: not at all, by the whole text, or by the changed parts. -/
abbrev SyncKind := Int

namespace SyncKind

def none : SyncKind := 0
def full : SyncKind := 1
def incremental : SyncKind := 2

end SyncKind

namespace Capabilities

def ofJson? (j : Json) : Option Capabilities := (Shape.serverCapabilities j).map Capabilities.mk

/-- Whether a switch is on, or options stand in its place. -/
def isOn (c : Capabilities) (name : String) : Bool :=
  match c.value.get? name with
  | some (.bool b) => b
  | some _ => true
  | none => false

def has (c : Capabilities) (name : String) : Bool := (c.value.get? name).isSome

/-- A switch inside the options of a capability. -/
def option (c : Capabilities) (name field : String) : Bool :=
  ((c.value.get name).get field).bool?.getD false

def strings (c : Capabilities) (name field : String) : List String :=
  ((c.value.get name).get field).strings?.getD []

/-- The options of text synchronisation, if it is given by options. -/
def syncOptions? (c : Capabilities) : Option Json :=
  match c.value.get? "textDocumentSync" with
  | some (.obj ms) => some (.obj ms)
  | _ => none

def syncKind (c : Capabilities) : SyncKind :=
  match c.value.get? "textDocumentSync" with
  | some (.int n) => n
  | some options => (options.get "change").int?.getD SyncKind.none
  | none => SyncKind.none

def syncSwitch (c : Capabilities) (field : String) (standard : Bool) : Bool :=
  ((c.syncOptions?.bind (·.get? field)).bind Json.bool?).getD standard

def openClose (c : Capabilities) : Bool := c.syncSwitch "openClose" true

def willSave (c : Capabilities) : Bool := c.syncSwitch "willSave" false

def willSaveWaitUntil (c : Capabilities) : Bool := c.syncSwitch "willSaveWaitUntil" false

/-- Saving is told when the options ask for it, or when there are none. -/
def save (c : Capabilities) : Bool :=
  match c.syncOptions? with
  | none => true
  | some options =>
    match options.get? "save" with
    | some (.bool b) => b
    | some _ => true
    | none => false

def saveIncludesText (c : Capabilities) : Bool :=
  match (c.syncOptions?.bind (·.get? "save")).bind (·.get? "includeText") with
  | some (.bool b) => b
  | _ => false

def completionTriggers (c : Capabilities) : List String :=
  c.strings "completionProvider" "triggerCharacters"

def signatureTriggers (c : Capabilities) : List String :=
  c.strings "signatureHelpProvider" "triggerCharacters"

def onTypeTriggers (c : Capabilities) : List String :=
  match ((c.value.get "documentOnTypeFormattingProvider").get "firstTriggerCharacter").str? with
  | some first => first :: c.strings "documentOnTypeFormattingProvider" "moreTriggerCharacter"
  | none => []

/-- The commands the server executes, if it lists them. -/
def commands? (c : Capabilities) : Option (List String) :=
  (c.value.get? "executeCommandProvider").map fun o => (o.get "commands").strings?.getD []

end Capabilities

end LanguageClient
