import LanguageClient.Client.Requests
import LanguageClient.Proofs.Task.Custom
import LanguageClient.Routing.Workspace
namespace LanguageClient

/-!
# Lenient customs

A custom of clients is lenient if it has only to do with servers and routes: everything else may
change at any time. Links and sessions follow all of these.
-/

open Program

variable {E K : Type} {α : Type}

/-- The servers that the sessions belong to. -/
def Client.homes (c : Client E) : List ServerId := c.sessions.entries.map Session.server

theorem Client.homes_updateSession_of_eq {c : Client E} {s : SessionId} {f : Session → Session}
    (h : (f (c.session s)).server = (c.session s).server) :
    (c.updateSession s f).homes = c.homes := by
  simp only [homes, updateSession, Store.update]
  refine List.ext_getElem? fun i => ?_
  simp only [List.getElem?_map, List.getElem?_modify]
  cases hi : c.sessions.entries[i]? with
  | none => rfl
  | some x =>
    by_cases hs : s = i
    · subst hs
      simp only [session, Store.get, Store.get?, hi, Option.getD_some] at h
      simp [h]
    · simp [hs]

theorem Client.homes_updateSession (c : Client E) (s : SessionId) {f : Session → Session}
    (h : ∀ x, (f x).server = x.server) : (c.updateSession s f).homes = c.homes :=
  homes_updateSession_of_eq (h _)

/-- All but the servers, the routes and the index may change at any time, as long as the sessions
stay with their servers. -/
def Custom.Lenient (C : Custom (Client E) (Job K)) : Prop :=
  ∀ ⦃c c' : Client E⦄, c'.servers = c.servers → c'.routes = c.routes → c'.index = c.index →
    c'.homes = c.homes → C.Quiet c c'

variable {C : Custom (Client E) (Job K)} (hC : C.Lenient)

include hC

/-! ## Links -/

namespace Program

theorem follows_visit (f : Wiring → Wiring × α) :
    (act (HasWiring.visit f) : Prog E K α).Follows C := follows_act fun _ => hC rfl rfl rfl rfl

theorem follows_wiring (f : Wiring → Wiring) :
    (modify (HasWiring.modify f) : Prog E K Unit).Follows C := follows_modify fun _ => hC rfl rfl rfl rfl

theorem follows_write (p : PipeId) (bytes : Bytes) :
    (write p bytes : Prog E K (Except ClientError Unit)).Follows C :=
  Follows.iterate (fun _ => follows_await (fun _ _ => hC rfl rfl rfl rfl) fun _ => C.refl) _

theorem follows_receive (p : PipeId) : (receive p : Prog E K (Option Bytes)).Follows C :=
  follows_await (fun _ _ => hC rfl rfl rfl rfl) fun _ => C.refl

theorem follows_outcome (promise : PromiseId) :
    (outcome promise : Prog E K (Except ClientError Json)).Follows C :=
  follows_await (fun _ _ => hC rfl rfl rfl rfl) fun _ => C.refl

end Program

namespace Prog

theorem follows_limit {p : Prog E K α} (h : p.Follows C) (kind : RequestKind) :
    (limit kind p).Follows C := by
  refine (follows_read _).bind fun millis => (h.timeout millis).bind fun r => ?_
  cases r with
  | some a => exact (follows_modify fun _ => hC (by rfl) (by rfl) (by rfl) (by rfl)).bind fun _ => follows_done _
  | none => exact (follows_modify fun _ => hC (by rfl) (by rfl) (by rfl) (by rfl)).bind fun _ => follows_done _

theorem follows_limited {p : Prog E K (Option α)} (h : p.Follows C) (kind : RequestKind) :
    (limited kind p).Follows C := by
  refine (follows_limit hC h kind).bind fun r => ?_
  cases r <;> exact follows_done _

end Prog

namespace Link

theorem follows_locked_writing (l : LinkId) {p : Prog E K α} (h : p.Follows C) :
    (Program.locked (writingLock l) p).Follows C := h.locked fun _ _ => hC rfl rfl rfl rfl

theorem follows_send (l : LinkId) (m : OutgoingMessage) :
    (send l m : Prog E K (Except ClientError Unit)).Follows C := by
  refine follows_locked_writing hC l ((follows_read _).bind fun output => ?_)
  cases output with
  | none => exact follows_done _
  | some p => exact follows_write hC p _

theorem follows_request (l : LinkId) (method : String) (params : Json) :
    (request l method params : Prog E K (Except ClientError Json)).Follows C := by
  refine (follows_visit hC _).bind fun r => ?_
  cases r with
  | none => exact follows_done _
  | some r =>
    refine Follows.holding ((follows_send hC l _).bind fun sent => ?_) fun _ => hC rfl rfl rfl rfl
    cases sent with
    | error e => exact follows_done _
    | ok _ => exact follows_outcome hC _

theorem follows_ask (l : LinkId) (method : String) (params : Json) :
    (ask l method params : Prog E K (Except ClientError Json)).Follows C :=
  (follows_wiring hC _).bind fun _ => (follows_request hC l method params).bind fun _ =>
    (follows_wiring hC _).bind fun _ => follows_done _

theorem follows_tell (l : LinkId) (method : String) (params : Json) :
    (tell l method params : Prog E K (Except ClientError Unit)).Follows C := by
  refine (follows_wiring hC _).bind fun _ => (follows_read _).bind fun connected => ?_
  cases connected with
  | true => exact follows_send hC l _
  | false => exact follows_done _

theorem follows_stopReader (l : LinkId) : (stopReader l : Prog E K Unit).Follows C := by
  refine (follows_visit hC _).bind fun reader => ?_
  cases reader with
  | none => exact follows_done _
  | some task => exact follows_stop task

theorem follows_close (l : LinkId) : (close l : Prog E K Unit).Follows C :=
  (follows_wiring hC _).bind fun _ =>
    (follows_locked_writing hC l (follows_wiring hC _)).bind fun _ =>
      (follows_stopReader hC l).bind fun _ => follows_wiring hC _

theorem follows_discard (l : LinkId) : (discard l : Prog E K Unit).Follows C :=
  (follows_wiring hC _).bind fun _ => follows_stopReader hC l

theorem follows_begin (job : LinkId → Job K) (input output : PipeId) :
    (Link.start job input output : Prog E K LinkId).Follows C :=
  (follows_visit hC _).bind fun l => (follows_start (job l)).bind fun _ =>
    (follows_wiring hC _).bind fun _ => follows_done _

end Link

/-! ## Calls -/

namespace Access

omit hC in
theorem follows_report (a : Access) (f : Feature) (e : ClientError) :
    (Gate.report a.gate f e : Prog E K Unit).Follows C := by
  refine Follows.ite ((follows_read _).bind fun there => ?_) (follows_done _)
  exact Follows.ite ((follows_start _).bind fun _ => follows_done _) (follows_done _)

theorem follows_call (a : Access) (f : Feature) (params : Json) :
    (Gate.call a.gate f params : Prog E K Feature.Result).Follows C := by
  refine (follows_read _).bind fun admitted => Follows.ite (Follows.ite ?_ ?_) (follows_done _)
  · refine (Link.follows_tell hC a.link f.method params).bind fun r => ?_
    cases r with
    | ok _ => exact follows_done _
    | error e => exact (follows_report a f e).bind fun _ => follows_done _
  · refine (Link.follows_ask hC a.link f.method params).bind fun r => ?_
    cases r with
    | ok answer => exact follows_done _
    | error e => exact (follows_report a f e).bind fun _ => follows_done _

theorem follows_tell (a : Access) (f : Feature) (params : Json) :
    (a.tell f params : Prog E K Unit).Follows C :=
  (follows_call hC a f params).bind fun _ => follows_done _

theorem follows_ask (a : Access) (kind : RequestKind) (f : Feature) (params : Json) :
    (a.ask kind f params : Prog E K (Option Json)).Follows C := by
  refine Prog.follows_limited hC ?_ kind
  rw [gate, Gate.ask, map_eq_pure_bind]
  exact (follows_call hC a f params).bind fun _ => follows_done _

end Access

/-! ## Sessions -/

namespace Session

theorem follows_locked {p : Prog E K α} (s : SessionId) (h : p.Follows C) :
    (Program.locked (Client.sessionLock s) p).Follows C :=
  h.locked fun _ c => hC rfl rfl rfl (c.homes_updateSession s fun _ => rfl)

theorem follows_updateSession (s : SessionId) {f : Session → Session}
    (h : ∀ x, (f x).server = x.server) :
    (modify (Client.updateSession s f) : Prog E K Unit).Follows C :=
  follows_modify fun c => hC rfl rfl rfl (c.homes_updateSession s h)

omit hC in
/-- With access there is something to do. -/
theorem follows_access {s : SessionId} {p : Option Access → Prog E K α} (hnone : (p none).Follows C)
    (hsome : ∀ a, (p (some a)).Follows C) :
    ((Program.read (·.access? s)).bind p).Follows C := by
  refine (follows_read _).bind fun access => ?_
  cases access with
  | none => exact hnone
  | some a => exact hsome a

theorem follows_tellOpened (s : SessionId) : (tellOpened s : Prog E K Unit).Follows C := by
  refine follows_locked hC s ((follows_read _).bind fun session => ?_)
  refine Follows.ite (follows_done _) ((follows_updateSession hC s fun _ => by rfl).bind fun _ => ?_)
  refine follows_access (follows_done _) fun a => ?_
  exact (follows_read _).bind fun _ => a.follows_tell hC _ _

theorem follows_tellClosed (s : SessionId) : (tellClosed s : Prog E K Unit).Follows C := by
  refine follows_locked hC s ((follows_read _).bind fun session => ?_)
  refine Follows.ite (follows_done _) ((follows_updateSession hC s fun _ => by rfl).bind fun _ => ?_)
  exact Follows.ite (follows_access (follows_done _) fun a => a.follows_tell hC _ _)
    (follows_done _)

omit hC in
theorem server_takePending (x : Session) (text : Text) :
    (x.takePending text).1.server = x.server := by
  unfold takePending
  split <;> rfl

theorem follows_flush (s : SessionId) (a : Access) : (flush s a : Prog E K Unit).Follows C := by
  refine (follows_act fun c => hC rfl rfl rfl ?_).bind fun r => ?_
  · exact Client.homes_updateSession_of_eq (server_takePending _ _)
  obtain ⟨session, _ | ⟨change, changes⟩⟩ := r
  · exact follows_done _
  · exact a.follows_tell hC _ _

theorem follows_tellChanged (s : SessionId) (change : TextChange) :
    (tellChanged s change : Prog E K Unit).Follows C := by
  refine follows_locked hC s ((follows_read _).bind fun access => ?_)
  cases access with
  | none => exact follows_done _
  | some a =>
    refine (follows_modify fun c => ?_).bind fun _ => follows_flush hC s a
    exact hC rfl rfl rfl (c.homes_updateSession s fun _ => rfl)

theorem follows_edit (d : OpenDocument) (change : TextChange) :
    (edit d change : Prog E K Unit).Follows C := by
  refine (follows_modify fun _ => hC (by rfl) (by rfl) (by rfl) (by rfl)).bind fun _ =>
    (follows_read _).bind fun entry => ?_
  cases entry with
  | none => exact follows_done _
  | some entry => exact follows_tellChanged hC _ change

theorem follows_isOpenNow (s : SessionId) : (isOpenNow s : Prog E K Bool).Follows C :=
  follows_locked hC s (follows_read _)

theorem follows_versionNow (s : SessionId) : (versionNow s : Prog E K Nat).Follows C :=
  follows_locked hC s (follows_read _)

theorem follows_tellSaved (s : SessionId) : (tellSaved s : Prog E K Unit).Follows C := by
  refine (follows_updateSession hC s fun _ => by rfl).bind fun _ => (follows_isOpenNow hC s).bind fun isOpen => ?_
  refine Follows.ite (follows_access (follows_done _) fun a => ?_) (follows_done _)
  exact (follows_read _).bind fun _ => a.follows_tell hC _ _

omit hC in
theorem estate_makeEdit (s : SessionId) (access : Option Access) (edit : TextEdit) (c : Client E) :
    (makeEdit s access edit c).servers = c.servers ∧
      (makeEdit s access edit c).routes = c.routes ∧ (makeEdit s access edit c).index = c.index ∧
        (makeEdit s access edit c).homes = c.homes := by
  cases access with
  | none => exact ⟨rfl, rfl, rfl, rfl⟩
  | some a => exact ⟨rfl, rfl, rfl, Client.homes_updateSession _ s fun _ => rfl⟩

omit hC in
theorem estate_makeEdits (s : SessionId) (access : Option Access) (edits : List TextEdit)
    (c : Client E) :
    (edits.foldl (fun c e => makeEdit s access e c) c).servers = c.servers ∧
      (edits.foldl (fun c e => makeEdit s access e c) c).routes = c.routes ∧
        (edits.foldl (fun c e => makeEdit s access e c) c).index = c.index ∧
          (edits.foldl (fun c e => makeEdit s access e c) c).homes = c.homes := by
  induction edits generalizing c with
  | nil => exact ⟨rfl, rfl, rfl, rfl⟩
  | cons e edits ih =>
    obtain ⟨hservers, hroutes, hindex, hhomes⟩ := estate_makeEdit s access e c
    obtain ⟨hservers', hroutes', hindex', hhomes'⟩ := ih (makeEdit s access e c)
    exact ⟨hservers'.trans hservers, hroutes'.trans hroutes, hindex'.trans hindex,
      hhomes'.trans hhomes⟩

theorem follows_applyEdits (s : SessionId) (edits : List TextEdit) (version : Option Int) :
    (applyEdits s edits version : Prog E K Bool).Follows C := by
  refine follows_locked hC s ((follows_read _).bind fun current => ?_)
  refine Follows.ite (follows_done _) ((follows_act fun c => ?_).bind fun access => ?_)
  · obtain ⟨hservers, hroutes, hindex, hhomes⟩ :=
      estate_makeEdits s (syncAccess? s c) (lastFirst (c.text s) edits) c
    exact hC hservers hroutes hindex hhomes
  · cases access with
    | none => exact follows_done _
    | some a => exact (follows_flush hC s a).bind fun _ => follows_done _

theorem follows_tellWillSave (s : SessionId) (reason : Int) :
    (tellWillSave s reason : Prog E K Unit).Follows C := by
  refine follows_access (follows_done _) fun a => (follows_read _).bind fun session => ?_
  refine Follows.ite ((a.follows_ask hC _ _ _).bind fun answer => ?_) (a.follows_tell hC _ _)
  have hneedSave (c : Client E) :
      (c.updateSession s fun x => { x with needSave := true }).homes = c.homes :=
    c.homes_updateSession s fun _ => rfl
  cases answer with
  | none => exact follows_modify fun c => hC rfl rfl rfl (hneedSave c)
  | some edits =>
    refine (follows_applyEdits hC s _ _).bind fun _ => ?_
    exact follows_modify fun c => hC rfl rfl rfl (hneedSave c)

end Session

namespace WorkspaceEdit

theorem follows_areCurrent (targets : List Target) :
    (areCurrent targets : Prog E K Bool).Follows C := by
  induction targets with
  | nil => exact follows_done _
  | cons target targets ih =>
    unfold areCurrent
    cases target.version with
    | none => exact ih
    | some v =>
      exact (Session.follows_versionNow hC _).bind fun current => Follows.ite (follows_done _) ih

theorem follows_applyAll (targets : List Target) :
    (applyAll targets : Prog E K Bool).Follows C := by
  induction targets with
  | nil => exact follows_done _
  | cons target targets ih =>
    exact (Session.follows_applyEdits hC _ _ _).bind fun _ => ih.bind fun _ => follows_done _

theorem follows_apply (e : WorkspaceEdit) : (e.apply : Prog E K Bool).Follows C := by
  refine (follows_read _).bind fun targets => ?_
  cases targets with
  | none => exact follows_done _
  | some targets =>
    exact (follows_areCurrent hC targets).bind fun _ =>
      Follows.ite (follows_applyAll hC targets) (follows_done _)

end WorkspaceEdit

/-! ## Language features -/

namespace Session

theorem follows_show {f : Client E → Display} :
    (modify fun c => c.show_ (f c) : Prog E K Unit).Follows C := follows_modify fun _ => hC rfl rfl rfl rfl

theorem follows_ask (s : SessionId) (kind : RequestKind) (f : Feature)
    (params : String → Text → Json) : (ask s kind f params : Prog E K _).Follows C :=
  follows_access (follows_done _) fun a => (follows_read _).bind fun _ => a.follows_ask hC _ _ _

theorem follows_completion (s : SessionId) (offset : Nat) :
    (completion s offset : Prog E K _).Follows C :=
  (follows_ask hC s _ _ _).bind fun _ => follows_done _

theorem follows_resolveCompletion (s : SessionId) (entry : CompletionEntry) :
    (resolveCompletion s entry : Prog E K _).Follows C :=
  (follows_ask hC s _ _ _).bind fun _ => follows_done _

theorem follows_execute (s : SessionId) (commands : List Json) :
    (execute s commands : Prog E K Unit).Follows C := by
  refine follows_access (follows_done _) fun a => Follows.each (fun command => ?_) commands
  refine (a.follows_ask hC _ _ _).bind fun answer => ?_
  cases answer with
  | none => exact follows_done _
  | some answer =>
    refine Follows.ite ?_ (follows_done _)
    split
    · exact (WorkspaceEdit.follows_apply hC _).bind fun _ => follows_done _
    · exact follows_done _

/-- A command that goes with something is executed. -/
theorem follows_executed (s : SessionId) (command : Option Json) (applied : Bool) :
    (match command with
      | none => pure applied
      | some command => (execute s [command]).bind fun _ => pure applied :
        Prog E K Bool).Follows C := by
  cases command with
  | none => exact follows_done _
  | some command => exact (follows_execute hC s _).bind fun _ => follows_done _

theorem follows_applyCompletion (s : SessionId) (entry : CompletionEntry) (caret : Nat) :
    (applyCompletion s entry caret : Prog E K Bool).Follows C := by
  refine (follows_read _).bind fun text => (follows_applyEdits hC s _ _).bind fun applied => ?_
  cases entry.snippet with
  | none => exact follows_executed hC s _ applied
  | some snippet => exact (follows_show hC).bind fun _ => follows_executed hC s _ applied

theorem follows_hover (s : SessionId) (offset : Nat) :
    (hover s offset : Prog E K _).Follows C := by
  refine (follows_ask hC s _ _ _).bind fun answer => ?_
  cases answer with
  | none => exact follows_done _
  | some answer =>
    exact Follows.ite (follows_done _) ((follows_show hC).bind fun _ => follows_done _)

theorem follows_signature (s : SessionId) (offset : Nat) :
    (signature s offset : Prog E K _).Follows C := by
  refine (follows_ask hC s _ _ _).bind fun answer => ?_
  split
  · exact follows_done _
  · exact (follows_show hC).bind fun _ => follows_done _

theorem follows_documentReferences (s : SessionId) (offset : Nat) :
    (documentReferences s offset : Prog E K _).Follows C := by
  have hreferences : (references s offset : Prog E K _).Follows C :=
    (follows_ask hC s _ _ _).bind fun _ => follows_done _
  exact hreferences.bind fun _ => (follows_read _).bind fun _ => follows_done _

theorem follows_definition (s : SessionId) (offset : Nat) :
    (definition s offset : Prog E K _).Follows C :=
  (follows_ask hC s _ _ _).bind fun _ => follows_done _

theorem follows_caretMoved (s : SessionId) (offset : Nat) :
    (caretMoved s offset : Prog E K Unit).Follows C := by
  have hhighlights : (highlights s offset : Prog E K _).Follows C :=
    (follows_ask hC s _ _ _).bind fun _ => (follows_read _).bind fun _ => follows_done _
  exact hhighlights.bind fun _ => follows_show hC

theorem follows_canRename (s : SessionId) (offset : Nat) :
    (canRename s offset : Prog E K Bool).Follows C := by
  refine follows_access (follows_done _) fun a => (follows_read _).bind fun supported => ?_
  refine Follows.ite ((follows_read _).bind fun params => ?_) (follows_done _)
  refine (Prog.follows_limit hC (a.follows_call hC _ params) _).bind fun answer => ?_
  split <;> exact follows_done _

theorem follows_rename (s : SessionId) (offset : Nat) (name : String) :
    (rename s offset name : Prog E K Bool).Follows C := by
  refine (follows_ask hC s _ _ _).bind fun answer => ?_
  cases answer with
  | none => exact follows_done _
  | some edit => exact WorkspaceEdit.follows_apply hC _

theorem follows_applyAnswer (s : SessionId) (answer : Option Json) :
    (applyAnswer s answer : Prog E K Bool).Follows C := by
  cases answer with
  | none => exact follows_done _
  | some edits => exact follows_applyEdits hC s _ _

theorem follows_format (s : SessionId) (options : Json) :
    (format s options : Prog E K Bool).Follows C :=
  (follows_ask hC s _ _ _).bind fun _ => follows_applyAnswer hC s _

theorem follows_formatRange (s : SessionId) (start stop : Nat) (options : Json) :
    (formatRange s start stop options : Prog E K Bool).Follows C :=
  (follows_ask hC s _ _ _).bind fun _ => follows_applyAnswer hC s _

theorem follows_formatTyped (s : SessionId) (offset : Nat) (typed : String) :
    (formatTyped s offset typed : Prog E K Bool).Follows C :=
  (follows_ask hC s _ _ _).bind fun _ => follows_applyAnswer hC s _

theorem follows_characterTyped (s : SessionId) (offset : Nat) (typed : String) :
    (characterTyped s offset typed : Prog E K Unit).Follows C := by
  refine follows_access (follows_done _) fun a => ?_
  have hformat : (show Prog E K Unit from do
      if a.capabilities.onTypeTriggers.contains typed then
        let _ ← formatTyped s offset typed).Follows C :=
    Follows.ite ((follows_formatTyped hC s offset typed).bind fun _ => follows_done _)
      (follows_done _)
  have hsignature : (show Prog E K Unit from do
      if a.capabilities.signatureTriggers.contains typed then
        let _ ← signature s offset
      if a.capabilities.onTypeTriggers.contains typed then
        let _ ← formatTyped s offset typed).Follows C :=
    Follows.ite ((follows_signature hC s offset).bind fun _ => hformat) hformat
  refine Follows.ite ((follows_completion hC s offset).bind fun entries => ?_) hsignature
  exact Follows.ite ((follows_show hC).bind fun _ => hsignature) hsignature

theorem follows_codeActions (s : SessionId) (start stop : Nat) :
    (codeActions s start stop : Prog E K _).Follows C :=
  (follows_read _).bind fun _ => (follows_ask hC s _ _ _).bind fun _ => follows_done _

theorem follows_acted (s : SessionId) (command : Option Json) (applied : Bool) :
    (show Prog E K Bool from do
      match command with
      | some command => execute s [command]
      | none => pure ()
      return applied).Follows C := by
  cases command with
  | none => exact follows_done _
  | some command => exact (follows_execute hC s _).bind fun _ => follows_done _

theorem follows_applyAction (s : SessionId) (action : Json) :
    (applyAction s action : Prog E K Bool).Follows C := by
  unfold applyAction
  split
  · exact (follows_execute hC s _).bind fun _ => follows_done _
  · cases action.get? "edit" with
    | none => exact follows_acted hC s _ true
    | some edit =>
      exact (WorkspaceEdit.follows_apply hC _).bind fun applied => follows_acted hC s _ applied

theorem follows_listResolved (s : SessionId) (list resolve : Feature) (member : String) :
    (listResolved s list resolve member : Prog E K _).Follows C := by
  refine follows_access (follows_done _) fun a => (follows_read _).bind fun uri => ?_
  refine (a.follows_ask hC _ _ _).bind fun answer => Follows.collect (fun item => ?_) _
  exact Follows.ite (follows_done _) ((a.follows_ask hC _ _ _).bind fun _ => follows_done _)

end Session

/-! ## What a server sends -/

namespace LinkOwner

theorem follows_onNotification (owner : LinkOwner) (method : String) (value : Json) :
    (owner.onNotification method value : Prog E K Unit).Follows C := by
  have hshaped (shape : Shape) {f : Json → Client E → Client E}
      (hf : ∀ j c, C.Quiet c (f j c)) : (match shape value with
        | some j => modify (f j)
        | none => pure () : Prog E K Unit).Follows C := by
    cases shape value with
    | none => exact follows_done _
    | some j => exact follows_modify (hf j)
  unfold onNotification
  split
  · refine hshaped _ fun j c => ?_
    unfold publishDiagnostics
    split
    · exact hC rfl rfl rfl (Client.homes_updateSession _ _ fun _ => rfl)
    · exact C.refl c
  · exact hshaped _ fun _ _ => hC rfl rfl rfl rfl
  · exact hshaped _ fun _ _ => hC rfl rfl rfl rfl
  · exact follows_done _

end LinkOwner

theorem Link.follows_readAll (owner : LinkOwner) (l : LinkId) :
    (readAll owner.handler (.answer owner l) l : Prog E K Unit).Follows C := by
  have haccept (body : Text) :
      (accept owner.handler (.answer owner l) l body : Prog E K Unit).Follows C := by
    unfold accept
    split
    · exact follows_wiring hC _
    · exact follows_done _
    · exact owner.follows_onNotification hC _ _
    · exact (follows_start _).bind fun _ => follows_done _
    · exact follows_done _
  refine (follows_read _).bind fun input => Follows.holding ?_ fun _ => hC rfl rfl rfl rfl
  refine (Follows.iterate (fun inbox => ?_) _).bind fun reason => ?_
  · unfold readStep
    split
    · refine (follows_receive hC input).bind fun bytes => ?_
      cases bytes <;> exact follows_done _
    · exact follows_done _
    · exact follows_done _
    · exact (haccept _).bind fun _ => follows_done _
  · refine (follows_wiring hC _).bind fun _ => (follows_read _).bind fun closing => ?_
    exact Follows.ite (follows_done _) ((follows_start _).bind fun _ => follows_done _)

theorem ErrorLog.follows_run (server : String) (pipe : PipeId) :
    (run server pipe : Prog E K Unit).Follows C := by
  refine Follows.iterate (fun inbox => ?_) _
  unfold step
  split
  · refine Follows.bind ?_ fun more => Follows.ite (follows_done _) (follows_done _)
    unfold logLine
    split
    · exact follows_done _
    · refine Follows.ite (Follows.bind ?_ fun _ => follows_done _) (follows_done _)
      exact follows_modify fun _ => hC rfl rfl rfl rfl
  · refine Follows.ite (follows_done _) ((follows_receive hC pipe).bind fun bytes => ?_)
    cases bytes <;> exact follows_done _

namespace Routing

theorem follows_search (query : String) (a : Access) : (search query a : Prog E K _).Follows C :=
  (follows_visit hC _).bind fun _ => (follows_start _).bind fun _ => follows_read _

theorem follows_symbols (root : Path) (query : String) (kinds : List Int) :
    (symbols root query kinds : Prog E K _).Follows C := by
  refine (follows_read _).bind fun accesses => ?_
  refine (Follows.collect (follows_search hC query) accesses).bind fun searches => ?_
  refine (Follows.collect (fun search => ?_) searches).bind fun _ => follows_done _
  exact (follows_outcome hC _).bind fun _ => follows_done _

end Routing

end LanguageClient
