import LanguageClient.Proofs.Server.Calling
namespace LanguageClient

/-!
# Demands

All that a client may be called for while its servers run: to start, stop and restart them, to
connect and disconnect documents, and whatever sessions, files and the searches for symbols bring.
-/

open Regime Courteous
open Scene (Leads Lasting)

variable {E K : Type} {given : String → Prop} {t : TaskId}

/-- What is brought to a server without starting or stopping it. -/
inductive Errand where
  | edit (d : OpenDocument) (change : TextChange)
  | changed (s : SessionId) (change : TextChange)
  | saved (s : SessionId)
  | willSave (s : SessionId) (reason : Int)
  | applyEdits (s : SessionId) (edits : List TextEdit) (version : Option Int)
  | applyEdit (e : WorkspaceEdit)
  | completion (s : SessionId) (offset : Nat)
  | resolveCompletion (s : SessionId) (entry : CompletionEntry)
  | applyCompletion (s : SessionId) (entry : CompletionEntry) (caret : Nat)
  | execute (s : SessionId) (commands : List Json)
  | hover (s : SessionId) (offset : Nat)
  | signature (s : SessionId) (offset : Nat)
  | references (s : SessionId) (offset : Nat)
  | definition (s : SessionId) (offset : Nat)
  | caretMoved (s : SessionId) (offset : Nat)
  | symbols (s : SessionId)
  | canRename (s : SessionId) (offset : Nat)
  | rename (s : SessionId) (offset : Nat) (name : String)
  | format (s : SessionId) (options : Json)
  | formatRange (s : SessionId) (start stop : Nat) (options : Json)
  | typed (s : SessionId) (offset : Nat) (text : String)
  | codeActions (s : SessionId) (start stop : Nat)
  | applyAction (s : SessionId) (action : Json)
  | lenses (s : SessionId)
  | links (s : SessionId)
  | fileChanged (uri : String) (change : FileChange)
  | pathChanged (path : Path) (change : FileChange)
  | search (root : Path) (query : String) (kinds : List Int)
  /-- Somebody reaches a server, and tells it something a while later. -/
  | tell (s : ServerId) (millis : Nat) (f : Feature) (params : Json)
  | ask (s : ServerId) (millis : Nat) (kind : RequestKind) (f : Feature) (params : Json)

namespace Errand

/-- Reaches a server, and lets some time pass. -/
def reach (s : ServerId) (millis : Nat) (p : Access → Prog E K Unit) : Prog E K Unit := do
  match ← Program.read fun c => (c.server s).access with
  | none => return ()
  | some a => do
    Program.sleep millis
    p a

def run : Errand → Prog E K Unit
  | edit d change => Session.edit d change
  | changed s change => Session.tellChanged s change
  | saved s => Session.tellSaved s
  | willSave s reason => Session.tellWillSave s reason
  | applyEdits s edits version => discard (Session.applyEdits s edits version)
  | applyEdit e => discard e.apply
  | completion s offset => discard (Session.completion s offset)
  | resolveCompletion s entry => discard (Session.resolveCompletion s entry)
  | applyCompletion s entry caret => discard (Session.applyCompletion s entry caret)
  | execute s commands => Session.execute s commands
  | hover s offset => discard (Session.hover s offset)
  | signature s offset => discard (Session.signature s offset)
  | references s offset => discard (Session.documentReferences s offset)
  | definition s offset => discard (Session.definition s offset)
  | caretMoved s offset => Session.caretMoved s offset
  | symbols s => discard (Session.symbols s)
  | canRename s offset => discard (Session.canRename s offset)
  | rename s offset name => discard (Session.rename s offset name)
  | format s options => discard (Session.format s options)
  | formatRange s start stop options => discard (Session.formatRange s start stop options)
  | typed s offset text => Session.characterTyped s offset text
  | codeActions s start stop => discard (Session.codeActions s start stop)
  | applyAction s action => discard (Session.applyAction s action)
  | lenses s => discard (Session.lenses s)
  | links s => discard (Session.links s)
  | fileChanged uri change => Routing.fileChanged uri change
  | pathChanged path change => Routing.pathChanged path change
  | search root query kinds => discard (Routing.symbols root query kinds)
  | tell s millis f params => reach s millis fun a => a.tell f params
  | ask s millis kind f params => reach s millis fun a => discard (a.ask kind f params)

theorem discard_eq_bind {α : Type} (p : Prog E K α) : discard p = p.bind fun _ => .done () :=
  map_eq_pure_bind _ p

theorem always_discard {α : Type} {p : Prog E K α} (h : Always given t p) :
    Always given t (discard p) := by
  rw [discard_eq_bind]
  exact h.bind fun _ => always_pure ()

theorem always_sleep (millis : Nat) : Always given t (Program.sleep millis : Prog E K Unit) := by
  refine (always_read _).bind fun time _ hP => courteous_await hP (fun c => ?_) fun c => rfl
  split
  · rfl
  · exact c.ledger_modifyAgenda _

theorem always_reach {s : ServerId} {millis : Nat} {p : Access → Prog E K Unit}
    (hp : ∀ a, Using given t (· = a) (p a)) : Always given t (reach s millis p) := by
  refine Courteous.always_reach (fun _ => rfl) (fun c a ha => ⟨s, ha⟩) (always_pure ()) fun a => ?_
  exact (always_sleep millis).using.bind fun _ => hp a

theorem always_run (e : Errand) : Always given t (e.run : Prog E K Unit) := by
  cases e with
  | edit d change => exact Session.always_edit d change
  | changed s change => exact Session.always_tellChanged s change
  | saved s => exact Session.always_tellSaved s
  | willSave s reason => exact Session.always_tellWillSave s reason
  | applyEdits s edits version => exact always_discard (Session.always_applyEdits s edits version)
  | applyEdit e => exact always_discard (WorkspaceEdit.always_apply e)
  | completion s offset => exact always_discard (Session.always_completion s offset)
  | resolveCompletion s entry => exact always_discard (Session.always_resolveCompletion s entry)
  | applyCompletion s entry caret =>
    exact always_discard (Session.always_applyCompletion s entry caret)
  | execute s commands => exact Session.always_execute s commands
  | hover s offset => exact always_discard (Session.always_hover s offset)
  | signature s offset => exact always_discard (Session.always_signature s offset)
  | references s offset => exact always_discard (Session.always_documentReferences s offset)
  | definition s offset => exact always_discard (Session.always_definition s offset)
  | caretMoved s offset => exact Session.always_caretMoved s offset
  | symbols s => exact always_discard (Session.always_symbols s)
  | canRename s offset => exact always_discard (Session.always_canRename s offset)
  | rename s offset name => exact always_discard (Session.always_rename s offset name)
  | format s options => exact always_discard (Session.always_format s options)
  | formatRange s start stop options =>
    exact always_discard (Session.always_formatRange s start stop options)
  | typed s offset text => exact Session.always_characterTyped s offset text
  | codeActions s start stop => exact always_discard (Session.always_codeActions s start stop)
  | applyAction s action => exact always_discard (Session.always_applyAction s action)
  | lenses s => exact always_discard (Session.always_lenses s)
  | links s => exact always_discard (Session.always_links s)
  | fileChanged uri change => exact Routing.always_fileChanged uri change
  | pathChanged path change => exact Routing.always_pathChanged path change
  | search root query kinds => exact always_discard (Routing.always_symbols root query kinds)
  | tell s millis f params => exact always_reach fun a => using_tell f params
  | ask s millis kind f params =>
    refine always_reach fun a => ?_
    rw [discard_eq_bind]
    exact (using_ask kind f params).bind fun _ => (always_pure ()).using

end Errand

/-- What is asked of the servers themselves, of which there are `n`. Only documents that are `given`
are connected anew. -/
inductive Demand (given : String → Prop) (n : Nat) where
  | start (s : Fin n)
  | stop (s : Fin n)
  | restart (s : Fin n)
  | connect (s : Fin n) (d : OpenDocument) (h : given d.uri)
  | disconnect (s : Fin n) (uri : String)
  /-- A document was closed, wherever it is. -/
  | close (uri : String)
  | errand (e : Errand)

namespace Demand

variable {n : Nat}

def run (net : Providers (Client E) (Job K)) : Demand given n → Prog E K Unit
  | start s => Server.start net s
  | stop s => Server.stop net s
  | restart s => Server.restart net s
  | connect s d _ => Server.connect net s d
  | disconnect s uri => Server.disconnect net s uri
  | close uri => Routing.closed net uri
  | errand e => e.run

theorem handles_run {net : Providers (Client E) (Job K)} (hnet : net.Aloof) (d : Demand given n) :
    Handles given t (fun x => x.roles t = .new .called ∧ x.world.ledger.servers.length = n)
      (d.run net) fun _ _ => True := by
  have hdrives (s : Fin n) : (Role.new .called : Role K).origin.Drives s := trivial
  have hhere {x : Scene (Client E) (Job K) (Role K)} (s : Fin n)
      (h : x.roles t = .new .called ∧ x.world.ledger.servers.length = n) :
      x.roles t = .new .called ∧ Server.Here s x := ⟨h.1, h.2 ▸ s.isLt⟩
  cases d with
  | start s =>
    exact (Server.handles_start (ρ := .new .called) hnet rfl rfl rfl (hdrives s) rfl rfl).mono
      (fun _ _ => hhere s) fun _ _ _ => trivial
  | stop s =>
    exact (Server.handles_stop (ρ := .new .called) hnet rfl rfl (hdrives s) rfl rfl).mono
      (fun _ _ => hhere s) fun _ _ _ => trivial
  | restart s =>
    exact (Server.handles_restart (ρ := .new .called) hnet rfl rfl rfl rfl rfl (hdrives s)).mono
      (fun _ _ => hhere s) fun _ _ _ => trivial
  | connect s d hd =>
    exact (Server.handles_connect (ρ := .new .called) hnet rfl rfl rfl rfl rfl (hdrives s) hd).mono
      (fun _ _ => hhere s) fun _ _ _ => trivial
  | disconnect s uri =>
    exact (Server.handles_disconnect (ρ := .new .called) hnet rfl rfl rfl rfl (hdrives s)).mono
      (fun _ _ hx => hx.1) fun _ _ _ => trivial
  | close uri => exact (Routing.handles_disconnect hnet uri).of_imp fun _ hx => hx.1
  | errand e =>
    exact (e.always_run.handles Scene.lasting_true).mono (fun _ _ _ => trivial) fun _ _ h => h

end Demand

/-- Dropped before it has begun, a program leaves no trace. -/
def Program.Soft {α : Type} (p : Prog E K α) : Prop :=
  ∀ t c, (p.cancelled t c).ledger = c.ledger

namespace Program

variable {α β : Type}

theorem Soft.bind {p : Prog E K α} {k : α → Prog E K β} (h : p.Soft) (hk : ∀ a, (k a).Soft) :
    (p.bind k).Soft := by
  cases p with
  | done a => exact hk a
  | await poll cancel next => exact h
  | _ => exact fun _ _ => rfl

theorem soft_locked_session (s : SessionId) (p : Prog E K α) :
    (Program.locked (Client.sessionLock s) p).Soft := fun _ c =>
  (Client.ledger_wakeAll _ _).trans (Courteous.ledger_sessionLock s _ c)

theorem soft_locked_lifecycle (s : ServerId) (p : Prog E K α) :
    (Program.locked (Client.lifecycleLock s) p).Soft := fun t c => c.ledger_giveUpLifecycle s t

end Program

theorem Errand.soft_run (e : Errand) : (e.run : Prog E K Unit).Soft := by
  cases e with
  | changed s change => exact Program.soft_locked_session s _
  | applyEdits s edits version =>
    rw [run, discard_eq_bind]
    exact (Program.soft_locked_session s _).bind fun _ _ _ => rfl
  | applyAction s action =>
    rw [run, discard_eq_bind]
    refine Program.Soft.bind ?_ fun _ _ _ => rfl
    unfold Session.applyAction
    split
    · exact fun _ _ => rfl
    · split <;> split <;> exact fun _ _ => rfl
  | _ => exact fun _ _ => rfl

theorem Demand.soft_run {n : Nat} (net : Providers (Client E) (Job K)) (d : Demand given n) :
    (d.run net).Soft := by
  cases d with
  | errand e => exact e.soft_run
  | start s => exact Program.soft_locked_lifecycle s _
  | stop s => exact Program.soft_locked_lifecycle s _
  | restart s => exact (Program.soft_locked_lifecycle s _).bind fun _ _ _ => rfl
  | _ => exact fun _ _ => rfl

theorem Program.Aloof.soft {α : Type} {p : Prog E K α} (h : p.Aloof) : p.Soft := by
  induction h with
  | bind _ _ ih ihk => exact ih.bind ihk
  | await _ hcancel => exact hcancel
  | _ => exact fun _ _ => rfl

theorem LinkOwner.soft_onRequest (owner : LinkOwner) (method : String) (value : Json) :
    (owner.onRequest method value : Prog E K RpcOutcome).Soft := by
  unfold onRequest
  split
  case h_6 | h_7 => exact fun _ _ => rfl
  all_goals split <;> exact fun _ _ => rfl

theorem Job.soft_perform (net : Providers (Client E) (Job K)) {outside : K → Prog E K Unit}
    (houtside : ∀ k, (outside k).Aloof) (job : Job K) : (job.perform net outside).Soft := by
  cases job with
  | abandon owner => exact Program.soft_locked_lifecycle owner.server _
  | crash owner e => exact Program.soft_locked_lifecycle owner.server _
  | outside k => exact (houtside k).soft
  | answer owner l id method params =>
    exact (owner.soft_onRequest method params).bind fun outcome _ c =>
      (Client.ledger_wakeAll _ _).trans (Link.ledger_writingLock l _ c)
  | _ => exact fun _ _ => rfl

end LanguageClient
