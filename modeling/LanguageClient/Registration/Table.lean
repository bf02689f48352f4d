import LanguageClient.Registration.Watcher
namespace LanguageClient

/-!
# Dynamic registrations

What a server registered while running, by registration id. Registrations of file watchers decide
which file changes are forwarded: with none every change is, otherwise those that a watcher accepts.
-/

/-- A method that a server can register; others are kept by name. -/
inductive DynamicMethod where
  | didChangeConfiguration
  | didChangeWatchedFiles
  | workspaceSymbol
  | executeCommand
  | synchronization
  | completion
  | hover
  | signatureHelp
  | references
  | documentHighlight
  | documentSymbol
  | formatting
  | rangeFormatting
  | onTypeFormatting
  | definition
  | codeAction
  | codeLens
  | documentLink
  | rename
  | unknown (method : String)
deriving DecidableEq, Repr

namespace DynamicMethod

def known : List (DynamicMethod × String) :=
  [(didChangeConfiguration, "workspace/didChangeConfiguration"),
    (didChangeWatchedFiles, "workspace/didChangeWatchedFiles"),
    (workspaceSymbol, "workspace/symbol"),
    (executeCommand, "workspace/executeCommand"),
    (synchronization, "textDocument/synchronization"),
    (completion, "textDocument/completion"),
    (hover, "textDocument/hover"),
    (signatureHelp, "textDocument/signatureHelp"),
    (references, "textDocument/references"),
    (documentHighlight, "textDocument/documentHighlight"),
    (documentSymbol, "textDocument/documentSymbol"),
    (formatting, "textDocument/formatting"),
    (rangeFormatting, "textDocument/rangeFormatting"),
    (onTypeFormatting, "textDocument/onTypeFormatting"),
    (definition, "textDocument/definition"),
    (codeAction, "textDocument/codeAction"),
    (codeLens, "textDocument/codeLens"),
    (documentLink, "textDocument/documentLink"),
    (rename, "textDocument/rename")]

def ofName (method : String) : DynamicMethod :=
  match known.find? fun e => e.2 == method with
  | some e => e.1
  | none => unknown method

def name : DynamicMethod → String
  | unknown method => method
  | m => (known.lookup m).getD ""

def isUnknown : DynamicMethod → Bool
  | unknown _ => true
  | _ => false

end DynamicMethod

structure Registration where
  id : String
  method : String
  options : Option Json
deriving DecidableEq

structure Unregistration where
  id : String
  method : String
deriving DecidableEq, Repr

structure RegistrationTable where
  /-- The method of every registration. -/
  methods : List (String × DynamicMethod)
  /-- The watchers of every registration of watchers. -/
  watchers : List (String × List FileWatcher)
deriving DecidableEq, Repr

namespace RegistrationTable

def empty : RegistrationTable := ⟨[], []⟩

/-- Puts an entry in place of one of the same key, or at the end. -/
def put (key : String) (value : α) : List (String × α) → List (String × α)
  | [] => [(key, value)]
  | (k, v) :: r => if k = key then (k, value) :: r else (k, v) :: put key value r

theorem lookup_put_same (key : String) (value : α) (entries : List (String × α)) :
    (put key value entries).lookup key = some value := by
  induction entries with
  | nil => simp [put]
  | cons e r ih =>
    obtain ⟨k, v⟩ := e
    by_cases h : k = key
    · simp [put, h]
    · have hb : (key == k) = false := by simpa using Ne.symm h
      rw [put, if_neg h, List.lookup_cons, hb]
      exact ih

theorem lookup_put_ne {key other : String} (h : other ≠ key) (value : α)
    (entries : List (String × α)) :
    (put key value entries).lookup other = entries.lookup other := by
  have hb : (other == key) = false := by simpa using h
  induction entries with
  | nil => simp [put, List.lookup_cons, hb]
  | cons e r ih =>
    obtain ⟨k, v⟩ := e
    by_cases hk : k = key
    · simp [put, hk, List.lookup_cons, hb]
    · simp [put, hk, List.lookup_cons, ih]

def register (t : RegistrationTable) (r : Registration) : RegistrationTable :=
  let method := DynamicMethod.ofName r.method
  let watchers :=
    if method = .didChangeWatchedFiles then
      put r.id ((r.options.map FileWatcher.ofOptions).getD []) t.watchers
    else t.watchers
  ⟨put r.id method t.methods, watchers⟩

/-- Removes the registrations with the given ids, watchers included. -/
def remove (t : RegistrationTable) (gone : String → Bool) : RegistrationTable :=
  ⟨t.methods.filter fun e => !gone e.1, t.watchers.filter fun e => !gone e.1⟩

/-- Removes a registration by its id; where there is none, all of the method. -/
def unregister (t : RegistrationTable) (u : Unregistration) : RegistrationTable :=
  if t.methods.any fun e => e.1 == u.id then t.remove (· == u.id)
  else
    let method := DynamicMethod.ofName u.method
    let ids := (t.methods.filter fun e => e.2 == method).map (·.1)
    t.remove ids.elem

def isRegistered (t : RegistrationTable) (method : DynamicMethod) : Bool :=
  t.methods.any fun e => e.2 == method

def size (t : RegistrationTable) : Nat := t.methods.length

def isEmpty (t : RegistrationTable) : Bool := t.methods.isEmpty

/-- Whether a server is told of a change of a file. -/
def shouldForward (t : RegistrationTable) (path : Path) (change : FileChange) : Bool :=
  t.watchers.isEmpty || t.watchers.any fun e => e.2.any fun w => w.accepts path change

end RegistrationTable

end LanguageClient
