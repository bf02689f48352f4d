import LanguageClient.Proofs.Server.Talking
import LanguageClient.Routing.Workspace
namespace LanguageClient

/-!
# The manners of sessions

Sessions, answers to a server and the log of its errors are courteous: servers only hear of them.
-/

open Regime
open Scene (Leads Stays Rests Lasting)

variable {E K : Type} {α β : Type} {given : String → Prop} {t : TaskId}
  {P : Scene (Client E) (Job K) (Role K) → Prop}

theorem Courteous.fst {Q R : α → Scene (Client E) (Job K) (Role K) → Prop} {p : Prog E K α}
    (h : Courteous given t P p fun a s => Q a s ∧ R a s) : Courteous given t P p Q :=
  h.mono (fun _ _ => id) fun _ _ hq => hq.1

/-- Programs that are courteous whatever lasts. -/
def Courteous.Always (given : String → Prop) (t : TaskId) (p : Prog E K α) : Prop :=
  ∀ ⦃P : Scene (Client E) (Job K) (Role K) → Prop⦄, Lasting given t P →
    Courteous given t P p fun _ => P

/-- The same of those that use some accesses. -/
def Courteous.Using (given : String → Prop) (t : TaskId) (R : Access → Prop) (p : Prog E K α) :
    Prop :=
  ∀ ⦃P : Scene (Client E) (Job K) (Role K) → Prop⦄, Lasting given t P →
    (∀ s, P s → ∀ a, R a → s.affairs.Genuine a) → Courteous given t P p fun _ => P

namespace Courteous

theorem Always.using {R : Access → Prop} {p : Prog E K α} (h : Always given t p) :
    Using given t R p :=
  fun _ hP _ => h hP

theorem Using.of_imp {R R' : Access → Prop} {p : Prog E K α} (h : Using given t R p)
    (hR : ∀ a, R a → R' a) : Using given t R' p :=
  fun _ hP ha => h hP fun s hs a hr => ha s hs a (hR a hr)

theorem always_pure (a : α) : Always given t (pure a : Prog E K α) := fun _ _ => courteous_pure a

theorem Always.bind {p : Prog E K α} {k : α → Prog E K β} (h : Always given t p)
    (hk : ∀ a, Always given t (k a)) : Always given t (p.bind k) :=
  fun _ hP => (h hP).bind fun a => hk a hP

theorem Using.bind {R : Access → Prop} {p : Prog E K α} {k : α → Prog E K β} (h : Using given t R p)
    (hk : ∀ x, Using given t R (k x)) : Using given t R (p.bind k) :=
  fun _ hP ha => (h hP ha).bind fun x => hk x hP ha

theorem always_read (f : Client E → α) : Always given t (Program.read f : Prog E K α) :=
  fun _ hP => courteous_look hP

theorem always_act {f : Client E → Client E × α} (h : ∀ c, (f c).1.ledger = c.ledger) :
    Always given t (Program.act f : Prog E K α) :=
  fun _ hP => courteous_quiet hP h

theorem always_modify {f : Client E → Client E} (h : ∀ c, (f c).ledger = c.ledger) :
    Always given t (Program.modify f : Prog E K Unit) :=
  fun _ hP => courteous_modify hP h

theorem Always.each {f : α → Prog E K Unit} (cs : List α) (h : ∀ c, Always given t (f c)) :
    Always given t (Program.each f cs) :=
  fun _ hP => courteous_each cs fun c _ => h c hP

theorem Using.each {R : Access → Prop} {f : α → Prog E K Unit} (cs : List α)
    (h : ∀ c, Using given t R (f c)) : Using given t R (Program.each f cs) :=
  fun _ hP ha => courteous_each cs fun c _ => h c hP ha

theorem Using.collect {R : Access → Prop} {f : α → Prog E K β} (cs : List α)
    (h : ∀ c ∈ cs, Using given t R (f c)) : Using given t R (Program.collect f cs) :=
  fun _ hP ha => courteous_collect cs fun c hc => h c hc hP ha

theorem using_tell {a : Access} (f : Feature) (params : Json) :
    Using given t (· = a) (a.tell f params : Prog E K Unit) :=
  fun _ hP ha => Access.courteous_tell hP (fun s hs => ha s hs a rfl) f params

theorem using_ask {a : Access} (kind : RequestKind) (f : Feature) (params : Json) :
    Using given t (· = a) (a.ask kind f params : Prog E K _) :=
  fun _ hP ha => Access.courteous_ask hP (fun s hs => ha s hs a rfl) kind f params

/-- Access that is found with a server is genuine from then on. -/
theorem always_find {find : Client E → Client E × β} {R : β → Access → Prop}
    {p : β → Prog E K α} (hquiet : ∀ c, (find c).1.ledger = c.ledger)
    (hfind : ∀ c a, R (find c).2 a → ∃ s, (c.server s).access = some a)
    (hp : ∀ b, Using given t (R b) (p b)) : Always given t ((Program.act find).bind p) := by
  intro P hP
  have hact : Courteous given t P (Program.act find : Prog E K _)
      fun b s => P s ∧ ∀ a, R b a → s.affairs.Genuine a := by
    refine courteous_act fun s hs hp γ k => ?_
    have hl : Leads given s (s.asked t ((Program.act find).bind k) (find s.world).1) :=
      .asked hs (hquiet s.world)
    refine ⟨hl, hP hs hp hl rfl, fun a ha => hl.genuine hs ?_⟩
    obtain ⟨r, hr⟩ := hfind s.world a ha
    refine hs.toBound.genuine (s := r) ?_
    rwa [Affairs.server, Scene.ledger_affairs, Client.server_ledger, Server.access_plain]
  refine hact.bind fun b => ?_
  have hlasts : Lasting given t fun s : Scene (Client E) (Job K) (Role K) =>
      P s ∧ ∀ a, R b a → s.affairs.Genuine a :=
    hP.and fun s s' hs h hl _ a ha => hl.genuine hs (h a ha)
  exact (hp b hlasts fun s h => h.2).fst

theorem always_reach {find : Client E → Client E × Option Access}
    {p : Option Access → Prog E K α} (hquiet : ∀ c, (find c).1.ledger = c.ledger)
    (hfind : ∀ c a, (find c).2 = some a → ∃ s, (c.server s).access = some a)
    (hnone : Always given t (p none)) (hsome : ∀ a, Using given t (· = a) (p (some a))) :
    Always given t ((Program.act find).bind p) := by
  refine always_find (R := fun b a => b = some a) hquiet hfind fun b => ?_
  cases b with
  | none => exact hnone.using
  | some a => exact (hsome a).of_imp fun b hb => congrArg some hb.symm

theorem always_access {s : SessionId} {p : Option Access → Prog E K α}
    (hnone : Always given t (p none)) (hsome : ∀ a, Using given t (· = a) (p (some a))) :
    Always given t ((Program.read (·.access? s)).bind p) :=
  always_reach (fun _ => rfl) (fun c _ ha => ⟨(c.session s).server, ha⟩) hnone hsome

theorem always_updateSession (s : SessionId) {f : Session → Session}
    (h : ∀ x, (f x).uri = x.uri) :
    Always given t (Program.modify (Client.updateSession s f) : Prog E K Unit) :=
  always_modify fun c => c.ledger_updateSession s h

theorem always_updateEditor {f : Client E → Editor → Editor}
    (h : ∀ c, (f c c.editor).documents = c.editor.documents) :
    Always given t (Program.modify fun c => c.updateEditor (f c) : Prog E K Unit) :=
  always_modify fun c => c.ledger_updateEditor (h c)

theorem ledger_sessionLock (s : SessionId) (lock : Lock) (c : Client E) :
    ((Client.sessionLock s).write lock c).ledger = c.ledger :=
  c.ledger_updateSession s fun _ => rfl

theorem Always.locked {s : SessionId} {p : Prog E K α} (h : Always given t p) :
    Always given t (Program.locked (Client.sessionLock s) p) :=
  fun _ hP => courteous_locked (ledger_sessionLock s) hP (fun _ => hP) (h hP)

end Courteous

open Courteous

namespace Session

theorem always_tellOpened (s : SessionId) : Always given t (tellOpened s : Prog E K Unit) := by
  refine Always.locked ((always_read _).bind fun session => ?_)
  split
  · exact always_pure _
  refine (always_updateSession s (by intro; rfl)).bind fun _ => ?_
  refine always_access (always_pure _) fun a => ?_
  exact (always_read _).using.bind fun text => using_tell _ _

theorem always_tellClosed (s : SessionId) : Always given t (tellClosed s : Prog E K Unit) := by
  refine Always.locked ((always_read _).bind fun session => ?_)
  split
  · exact always_pure _
  refine (always_updateSession s (by intro; rfl)).bind fun _ => ?_
  split
  · exact always_access (always_pure _) fun a => using_tell _ _
  · exact always_pure _

theorem uri_takePending (s : Session) (text : Text) : (s.takePending text).1.uri = s.uri := by
  unfold takePending
  split <;> rfl

theorem always_flush (s : SessionId) (a : Access) : Using given t (· = a) (flush s a : Prog E K Unit) := by
  refine Using.bind (Always.using (always_act fun c => ?_)) fun r => ?_
  · exact c.ledger_updateSession_of_eq (uri_takePending _ _)
  · obtain ⟨session, changes⟩ := r
    cases changes with
    | nil => exact (always_pure _).using
    | cons change changes => exact using_tell _ _

theorem exists_of_syncAccess? {c : Client E} {s : SessionId} {a : Access}
    (h : syncAccess? s c = some a) : ∃ r, (c.server r).access = some a := by
  unfold syncAccess? at h
  split at h
  · exact ⟨_, h⟩
  · exact nomatch h

theorem always_tellChanged (s : SessionId) (change : TextChange) :
    Always given t (tellChanged s change : Prog E K Unit) := by
  refine Always.locked
    (always_reach (fun _ => rfl) (fun _ _ => exists_of_syncAccess?) (always_pure _) fun a => ?_)
  · have hrecord : Always given t (Program.modify (recordChange s a change) : Prog E K Unit) :=
      always_modify fun c => c.ledger_updateSession s fun _ => rfl
    exact hrecord.using.bind fun _ => always_flush s a

theorem always_edit (d : OpenDocument) (change : TextChange) :
    Always given t (edit d change : Prog E K Unit) := by
  refine (always_updateEditor (by intro; rfl)).bind fun _ => (always_read _).bind fun entry => ?_
  cases entry with
  | none => exact always_pure _
  | some entry => exact always_tellChanged entry.session change

theorem always_isOpenNow (s : SessionId) : Always given t (isOpenNow s : Prog E K Bool) :=
  Always.locked (always_read _)

theorem always_versionNow (s : SessionId) : Always given t (versionNow s : Prog E K Nat) :=
  Always.locked (always_read _)

theorem always_tellSaved (s : SessionId) : Always given t (tellSaved s : Prog E K Unit) := by
  refine (always_updateSession s (by intro; rfl)).bind fun _ => ?_
  refine (always_isOpenNow s).bind fun isOpen => ?_
  cases isOpen with
  | false => exact always_pure _
  | true =>
    refine always_access (always_pure _) fun a => ?_
    exact (always_read _).using.bind fun r => using_tell _ _

theorem ledger_makeEdit (s : SessionId) (access : Option Access) (edit : TextEdit) (c : Client E) :
    (makeEdit s access edit c).ledger = c.ledger := by
  cases access with
  | none => exact c.ledger_updateEditor rfl
  | some a =>
    unfold makeEdit recordChange
    refine (Client.ledger_updateSession _ s ?_).trans (c.ledger_updateEditor ?_)
    · intro x
      rfl
    · rfl

theorem ledger_makeEdits (s : SessionId) (access : Option Access) (edits : List TextEdit)
    (c : Client E) : (edits.foldl (fun c e => makeEdit s access e c) c).ledger = c.ledger := by
  induction edits generalizing c with
  | nil => rfl
  | cons e edits ih => exact (ih _).trans (ledger_makeEdit s access e c)

theorem always_applyEdits (s : SessionId) (edits : List TextEdit) (version : Option Int) :
    Always given t (applyEdits s edits version : Prog E K Bool) := by
  refine Always.locked ((always_read _).bind fun current => ?_)
  split
  · exact always_pure _
  refine always_reach (fun c => ledger_makeEdits s _ _ c) (fun _ _ => exists_of_syncAccess?)
    (always_pure _) fun a => ?_
  exact (always_flush s a).bind fun _ => (always_pure _).using

theorem always_tellWillSave (s : SessionId) (reason : Int) :
    Always given t (tellWillSave s reason : Prog E K Unit) := by
  refine always_access (always_pure _) fun a => (always_read _).using.bind fun session => ?_
  have hsave : Always given t (Program.modify fun c =>
      (c.updateSession s fun x => { x with needSave := true }).updateEditor fun e =>
        e.updateBuffer session.buffer Buffer.save : Prog E K Unit) :=
    always_modify fun c =>
      (Client.ledger_updateEditor _ rfl).trans (c.ledger_updateSession s fun _ => rfl)
  dsimp only
  split
  · refine (using_ask _ _ _).bind fun answer => ?_
    cases answer with
    | none => exact hsave.using
    | some edits => exact ((always_applyEdits s _ _).bind fun _ => hsave).using
  · exact using_tell _ _

end Session

namespace WorkspaceEdit

theorem always_areCurrent (targets : List Target) :
    Always given t (areCurrent targets : Prog E K Bool) := by
  induction targets with
  | nil => exact always_pure _
  | cons target targets ih =>
    unfold areCurrent
    cases target.version with
    | none => exact ih
    | some v =>
      refine (Session.always_versionNow _).bind fun current => ?_
      split
      · exact always_pure _
      · exact ih

theorem always_applyAll (targets : List Target) :
    Always given t (applyAll targets : Prog E K Bool) := by
  induction targets with
  | nil => exact always_pure _
  | cons target targets ih =>
    exact (Session.always_applyEdits _ _ _).bind fun _ => ih.bind fun _ => always_pure _

theorem always_apply (e : WorkspaceEdit) : Always given t (e.apply : Prog E K Bool) := by
  refine (always_read _).bind fun targets => ?_
  cases targets with
  | none => exact always_pure _
  | some targets =>
    refine (always_areCurrent targets).bind fun current => ?_
    cases current with
    | false => exact always_pure _
    | true => exact always_applyAll targets

end WorkspaceEdit

namespace Session

/-! ## Language features -/

theorem always_show {f : Client E → Display} :
    Always given t (Program.modify fun c => c.show_ (f c) : Prog E K Unit) :=
  always_modify fun _ => rfl

theorem always_ask (s : SessionId) (kind : RequestKind) (f : Feature)
    (params : String → Text → Json) : Always given t (ask s kind f params : Prog E K _) :=
  always_access (always_pure _) fun _ => (always_read _).using.bind fun _ => using_ask _ _ _

theorem always_completion (s : SessionId) (offset : Nat) :
    Always given t (completion s offset : Prog E K _) :=
  (always_ask s _ _ _).bind fun _ => always_pure _

theorem always_resolveCompletion (s : SessionId) (entry : CompletionEntry) :
    Always given t (resolveCompletion s entry : Prog E K _) :=
  (always_ask s _ _ _).bind fun _ => always_pure _

theorem always_execute (s : SessionId) (commands : List Json) :
    Always given t (execute s commands : Prog E K Unit) := by
  refine always_access (always_pure _) fun a => Using.each commands fun command => ?_
  refine (using_ask _ _ _).bind fun answer => ?_
  cases answer with
  | none => exact (always_pure _).using
  | some answer =>
    dsimp only
    split
    · split
      · exact ((WorkspaceEdit.always_apply _).bind fun _ => always_pure _).using
      · exact (always_pure _).using
    · exact (always_pure _).using

theorem always_completed (s : SessionId) (command : Option Json) (applied : Bool) :
    Always given t (match command with
      | none => pure applied
      | some command => (execute s [command]).bind fun _ => pure applied : Prog E K Bool) := by
  cases command with
  | none => exact always_pure _
  | some command => exact (always_execute s _).bind fun _ => always_pure _

theorem always_applyCompletion (s : SessionId) (entry : CompletionEntry) (caret : Nat) :
    Always given t (applyCompletion s entry caret : Prog E K Bool) := by
  refine (always_read _).bind fun text => (always_applyEdits s _ _).bind fun applied => ?_
  cases entry.snippet with
  | none => exact always_completed s _ applied
  | some snippet => exact always_show.bind fun _ => always_completed s _ applied

theorem always_hover (s : SessionId) (offset : Nat) :
    Always given t (hover s offset : Prog E K _) := by
  refine (always_ask s _ _ _).bind fun answer => ?_
  cases answer with
  | none => exact always_pure _
  | some answer =>
    dsimp only
    split
    · exact always_pure _
    · exact always_show.bind fun _ => always_pure _

theorem always_signature (s : SessionId) (offset : Nat) :
    Always given t (signature s offset : Prog E K _) := by
  refine (always_ask s _ _ _).bind fun answer => ?_
  split
  · exact always_pure _
  · exact always_show.bind fun _ => always_pure _

theorem always_references (s : SessionId) (offset : Nat) :
    Always given t (references s offset : Prog E K _) :=
  (always_ask s _ _ _).bind fun _ => always_pure _

theorem always_documentReferences (s : SessionId) (offset : Nat) :
    Always given t (documentReferences s offset : Prog E K _) :=
  (always_references s offset).bind fun _ => (always_read _).bind fun _ => always_pure _

theorem always_definition (s : SessionId) (offset : Nat) :
    Always given t (definition s offset : Prog E K _) :=
  (always_ask s _ _ _).bind fun _ => always_pure _

theorem always_highlights (s : SessionId) (offset : Nat) :
    Always given t (highlights s offset : Prog E K _) :=
  (always_ask s _ _ _).bind fun _ => (always_read _).bind fun _ => always_pure _

theorem always_caretMoved (s : SessionId) (offset : Nat) :
    Always given t (caretMoved s offset : Prog E K Unit) :=
  (always_highlights s offset).bind fun _ => always_show

theorem always_symbols (s : SessionId) : Always given t (symbols s : Prog E K _) :=
  always_ask s _ _ _

theorem always_canRename (s : SessionId) (offset : Nat) :
    Always given t (canRename s offset : Prog E K Bool) := by
  refine always_access (always_pure _) fun a => ?_
  refine (always_read _).using.bind fun supported => ?_
  cases supported with
  | false => exact (always_pure _).using
  | true =>
    refine (always_read _).using.bind fun params => ?_
    refine Using.bind (fun _ hP ha => ?_) fun answer => ?_
    · exact courteous_limit .prepareRename hP
        (Access.courteous_call hP (fun s hs => ha s hs a rfl) .prepareRename params)
    · split <;> exact (always_pure _).using

theorem always_rename (s : SessionId) (offset : Nat) (name : String) :
    Always given t (rename s offset name : Prog E K Bool) := by
  refine (always_ask s _ _ _).bind fun answer => ?_
  cases answer with
  | none => exact always_pure _
  | some edit => exact WorkspaceEdit.always_apply _

theorem always_applyAnswer (s : SessionId) (answer : Option Json) :
    Always given t (applyAnswer s answer : Prog E K Bool) := by
  cases answer with
  | none => exact always_pure _
  | some edits => exact always_applyEdits s _ _

theorem always_format (s : SessionId) (options : Json) :
    Always given t (format s options : Prog E K Bool) :=
  (always_ask s _ _ _).bind fun _ => always_applyAnswer s _

theorem always_formatRange (s : SessionId) (start stop : Nat) (options : Json) :
    Always given t (formatRange s start stop options : Prog E K Bool) :=
  (always_ask s _ _ _).bind fun _ => always_applyAnswer s _

theorem always_formatTyped (s : SessionId) (offset : Nat) (typed : String) :
    Always given t (formatTyped s offset typed : Prog E K Bool) :=
  (always_ask s _ _ _).bind fun _ => always_applyAnswer s _

theorem always_characterTyped (s : SessionId) (offset : Nat) (typed : String) :
    Always given t (characterTyped s offset typed : Prog E K Unit) := by
  refine always_access (always_pure _) fun a => ?_
  have hformat : Always given t (show Prog E K Unit from do
      if a.capabilities.onTypeTriggers.contains typed then
        let _ ← formatTyped s offset typed) := by
    split
    · exact (always_formatTyped s offset typed).bind fun _ => always_pure _
    · exact always_pure _
  have hsignature : Always given t (show Prog E K Unit from do
      if a.capabilities.signatureTriggers.contains typed then
        let _ ← signature s offset
      if a.capabilities.onTypeTriggers.contains typed then
        let _ ← formatTyped s offset typed) := by
    dsimp only
    split
    · exact (always_signature s offset).bind fun _ => hformat
    · exact hformat
  refine Always.using ?_
  dsimp only
  split
  · refine (always_completion s offset).bind fun entries => ?_
    split
    · exact always_show.bind fun _ => hsignature
    · exact hsignature
  · exact hsignature

theorem always_codeActions (s : SessionId) (start stop : Nat) :
    Always given t (codeActions s start stop : Prog E K _) :=
  (always_read _).bind fun _ => (always_ask s _ _ _).bind fun _ => always_pure _

theorem always_acted (s : SessionId) (command : Option Json) (applied : Bool) :
    Always given t (show Prog E K Bool from do
      match command with
      | some command => execute s [command]
      | none => pure ()
      return applied) := by
  cases command with
  | none => exact always_pure _
  | some command => exact (always_execute s _).bind fun _ => always_pure _

theorem always_applyAction (s : SessionId) (action : Json) :
    Always given t (applyAction s action : Prog E K Bool) := by
  unfold applyAction
  split
  · exact (always_execute s _).bind fun _ => always_pure _
  · cases action.get? "edit" with
    | none => exact always_acted s _ true
    | some edit => exact (WorkspaceEdit.always_apply _).bind fun applied => always_acted s _ applied

theorem always_listResolved (s : SessionId) (list resolve : Feature) (member : String) :
    Always given t (listResolved s list resolve member : Prog E K _) := by
  refine always_access (always_pure _) fun a => (always_read _).using.bind fun uri => ?_
  refine (using_ask _ _ _).bind fun answer => Using.collect _ fun item _ => ?_
  split
  · exact (always_pure _).using
  · exact (using_ask _ _ _).bind fun _ => (always_pure _).using

theorem always_lenses (s : SessionId) : Always given t (lenses s : Prog E K _) :=
  always_listResolved s _ _ _

theorem always_links (s : SessionId) : Always given t (links s : Prog E K _) :=
  always_listResolved s _ _ _

end Session
/-! ## Answering a server -/

namespace Courteous

theorem always_updateServer (s : ServerId) {f : Server → Server} (h : ∀ x, (f x).plain = x.plain) :
    Always given t (Program.modify (Client.updateServer s f) : Prog E K Unit) :=
  always_modify fun c => c.ledger_updateServer_of_plain s (h _)

theorem Always.ite {c : Prop} [Decidable c] {p q : Prog E K α} (hp : Always given t p)
    (hq : Always given t q) : Always given t (if c then p else q) := by
  split
  · exact hp
  · exact hq

theorem always_log {f : Client E → JournalEntry} :
    Always given t (Program.modify fun c => c.log (f c) : Prog E K Unit) :=
  always_modify fun _ => rfl

theorem always_receive (p : PipeId) : Always given t (Program.receive p : Prog E K _) :=
  fun _ hP => courteous_receive hP p

theorem Always.iterate {σ : Type} {body : σ → Prog E K (σ ⊕ α)}
    (h : ∀ x, Always given t (body x)) (x : σ) : Always given t (Program.iterate x body) :=
  fun _ hP => courteous_iterate (fun x => h x hP) x

end Courteous

namespace LinkOwner

theorem ledger_publishDiagnostics (s : ServerId) (j : Json) (c : Client E) :
    (publishDiagnostics s j c).ledger = c.ledger := by
  unfold publishDiagnostics
  split
  · exact c.ledger_updateSession _ fun _ => rfl
  · rfl

theorem always_onRequest (owner : LinkOwner) (method : String) (value : Json) :
    Always given t (owner.onRequest method value : Prog E K RpcOutcome) := by
  unfold onRequest
  split
  · split
    · exact always_pure _
    · exact (always_read _).bind fun _ => always_pure _
  · split
    · exact always_pure _
    · exact (WorkspaceEdit.always_apply _).bind fun _ => always_pure _
  · split
    · exact always_pure _
    · exact (always_updateServer _ (by intro; rfl)).bind fun _ => always_pure _
  · split
    · exact always_pure _
    · exact (always_updateServer _ (by intro; rfl)).bind fun _ => always_pure _
  · split
    · exact always_pure _
    · exact (always_modify (by intro; rfl)).bind fun _ => always_pure _
  · exact always_pure _
  · exact always_pure _

theorem always_shaped (value : Option Json) {f : Json → Client E → Client E}
    (hf : ∀ j c, (f j c).ledger = c.ledger) : Always given t
      (match value with
        | some j => Program.modify (f j)
        | none => pure () : Prog E K Unit) := by
  cases value with
  | none => exact always_pure _
  | some j => exact always_modify (hf j)

theorem always_onNotification (owner : LinkOwner) (method : String) (value : Json) :
    Always given t (owner.onNotification method value : Prog E K Unit) := by
  unfold onNotification
  split
  · exact always_shaped _ (ledger_publishDiagnostics _)
  · exact always_shaped _ fun _ _ => rfl
  · exact always_shaped _ fun _ _ => rfl
  · exact always_pure _

end LinkOwner

theorem Link.always_answer (owner : LinkOwner) (l : LinkId) (id : RequestId) (method : String)
    (params : Json) : Always given t (answer owner.handler l id method params : Prog E K Unit) :=
  (owner.always_onRequest method params).bind fun _ _ hP =>
    (courteous_send hP l _).bind fun _ => courteous_pure _

theorem ErrorLog.always_run (server : String) (pipe : PipeId) :
    Always given t (run server pipe : Prog E K Unit) := by
  refine Always.iterate (fun inbox => ?_) _
  unfold step
  split
  · refine Always.bind ?_ fun more => ?_
    · unfold logLine
      split
      · exact always_pure _
      · exact .ite (always_log.bind fun _ => always_pure _) (always_pure _)
    · cases more <;> exact always_pure _
  · split
    · exact always_pure _
    · refine (always_receive pipe).bind fun bytes => ?_
      cases bytes <;> exact always_pure _

/-! ## Files and symbols -/

theorem Server.using_pushSettings (s : ServerId) (a : Access) :
    Using given t (· = a) (pushSettings s a : Prog E K Unit) := by
  refine (always_read _).using.bind fun settings => ?_
  split
  · exact (always_pure _).using
  · exact using_tell _ _

theorem Server.using_forward (s : ServerId) (uri : String) (change : FileChange)
    (access : Option Access) :
    Using given t (fun a => access = some a) (show Prog E K Unit from do
      let forward ← Program.read fun c =>
        match Uri.toPath? uri.toList with
        | some p => (c.server s).registrations.shouldForward p change
        | none => !(c.server s).registrations.isRegistered .didChangeWatchedFiles
      if forward then
        match access with
        | none => return ()
        | some a => a.tell .didChangeWatchedFiles (Params.watchedFile uri change)) := by
  refine (always_read _).using.bind fun forward => ?_
  cases forward with
  | false => exact (always_pure _).using
  | true =>
    cases access with
    | none => exact (always_pure _).using
    | some a => exact (using_tell _ _).of_imp fun _ h => congrArg some h.symm

theorem Server.always_fileChanged (s : ServerId) (uri : String) (change : FileChange) :
    Always given t (fileChanged s uri change : Prog E K Unit) := by
  refine always_find (R := fun server a => server.access = some a) (fun _ => rfl)
    (fun c a ha => ⟨s, ha⟩) fun server => (always_read _).using.bind fun settingsPath => ?_
  generalize server.access = access
  have heq {a b : Access} (h : b = a) : some a = some b := congrArg some h.symm
  dsimp only
  split
  · have hload : Always given t (Program.modify (loadSettings s) : Prog E K Unit) :=
      always_modify fun c => c.ledger_updateServer_of_plain s rfl
    refine hload.using.bind fun _ => ?_
    cases access with
    | none => exact using_forward s uri change _
    | some a =>
      exact ((using_pushSettings s a).of_imp fun _ => heq).bind fun _ =>
        using_forward s uri change _
  · exact using_forward s uri change _

theorem Routing.always_fileChanged (uri : String) (change : FileChange) :
    Always given t (fileChanged uri change : Prog E K Unit) := by
  refine (always_read _).bind fun entry => ?_
  have htell : Always given t (show Prog E K Unit from do
      let servers ← Program.read started
      let isOwn (s : ServerId) : Bool :=
        change = FileChange.changed ∧ entry.map (·.server) = some s
      Program.each (fun s => Server.fileChanged s uri change) (servers.filter fun s => !isOwn s)) :=
    (always_read _).bind fun _ => Always.each _ fun s => Server.always_fileChanged s uri change
  dsimp only
  split
  · cases entry with
    | none => exact htell
    | some entry => exact (Session.always_tellSaved _).bind fun _ => htell
  · exact htell

theorem Routing.always_pathChanged (path : Path) (change : FileChange) :
    Always given t (pathChanged path change : Prog E K Unit) := by
  refine (always_read _).bind fun directory => ?_
  split
  · exact always_fileChanged _ change
  · exact always_pure _

/-- Searches are tasks of their own. -/
theorem Routing.using_search (query : String) (a : Access) :
    Using given t (· = a) (search query a : Prog E K _) := by
  have hpromise : Always given t
      (Program.act (HasWiring.visit Wiring.newPromise) : Prog E K PromiseId) :=
    always_act fun c => c.ledger_visitWiring (.of_eq rfl rfl)
  refine hpromise.using.bind fun promise => ?_
  refine Using.bind (fun P hP ha => ?_) fun task => (always_read _).using
  exact courteous_start _ hP (fun s _ hs => ha s hs a rfl) rfl

theorem Routing.always_symbols (root : Path) (query : String) (kinds : List Int) :
    Always given t (symbols root query kinds : Prog E K _) := by
  refine always_find (R := fun accesses a => a ∈ accesses) (fun _ => rfl) (fun c a ha => ?_)
    fun accesses => ?_
  · obtain ⟨s, -, hs⟩ := List.mem_filterMap.1 ha
    exact ⟨s, hs⟩
  · refine Using.bind (Using.collect accesses fun a ha => ?_) fun searches => ?_
    · exact (using_search query a).of_imp fun b hb => hb ▸ ha
    · refine Always.using ?_
      refine Always.bind (fun P hP => courteous_collect searches fun search _ => ?_) fun _ =>
        always_pure _
      exact (courteous_outcome hP _).bind fun _ => courteous_pure _

/-! ## Programs from outside -/

/-- The program has nothing to do with servers, sessions and links: what it does shows in no ledger,
and the tasks it starts are from outside. -/
inductive Program.Aloof : {α : Type} → Prog E K α → Prop where
  | done {α : Type} (a : α) : Aloof (.done a)
  | bind {α β : Type} {p : Prog E K α} {k : α → Prog E K β} (h : Aloof p)
      (hk : ∀ a, Aloof (k a)) : Aloof (p.bind k)
  | await {α : Type} {poll : TaskId → Client E → Client E × Option α}
      {cancel : TaskId → Client E → Client E} (hpoll : ∀ t c, (poll t c).1.ledger = c.ledger)
      (hcancel : ∀ t c, (cancel t c).ledger = c.ledger) : Aloof (.await poll cancel .done)
  | holding {α : Type} {release : Client E → Client E} {p : Prog E K α}
      (hrelease : ∀ c, (release c).ledger = c.ledger) (h : Aloof p) : Aloof (.holding release p)
  | timeout {α : Type} {p : Prog E K α} (millis : Nat) (h : Aloof p) : Aloof (.timeout millis p)
  | iterate {α σ : Type} {body : σ → Prog E K (σ ⊕ α)} (h : ∀ x, Aloof (body x)) (x : σ) :
      Aloof (.iterate x body)
  | start (job : K) : Aloof (.start (.outside job))

theorem Program.Aloof.always {p : Prog E K α} (h : p.Aloof) : Always given t p := by
  induction h with
  | done a => exact always_pure a
  | bind _ _ ih ihk => exact ih.bind ihk
  | await hpoll hcancel => exact fun _ hP => courteous_await hP (hpoll t) (hcancel t)
  | holding hrelease _ ih => exact fun _ hP => (ih hP).holding hrelease fun _ => hP
  | timeout millis _ ih => exact fun _ hP => (ih hP).timeout millis hP
  | iterate _ x ih => exact .iterate ih x
  | start job => exact fun _ hP => courteous_start _ hP (fun _ _ _ => trivial) rfl

/-- Providers that have nothing to do with servers themselves. -/
structure Providers.Aloof (net : Providers (Client E) (Job K)) : Prop where
  acquire (definition : ServerDefinition) (root : Path) : (net.acquire definition root).Aloof
  start (provider : ProviderId) : (net.start provider).Aloof
  stop (provider : ProviderId) : (net.stop provider).Aloof
  release (definition : ServerDefinition) (root : Path) : (net.release definition root).Aloof

/-! ## Reading from a server -/

theorem Link.courteous_readAll (owner : LinkOwner) (l : LinkId) :
    Courteous given t (fun s => s.affairs.Begun owner)
      (readAll owner.handler (.answer owner l) l : Prog E K Unit)
      fun _ s => s.affairs.Begun owner := by
  have hP : Lasting given t fun s : Scene (Client E) (Job K) (Role K) => s.affairs.Begun owner :=
    Scene.lasting_founded (.readAll owner l)
  have hanswer (id : RequestId) (method : String) (params : Json) :=
    courteous_start (.answer owner l id method params) hP (fun _ _ h => h) rfl
  have hcrash (e : ClientError) :=
    courteous_start (.crash owner e) hP (fun _ _ h => h) rfl
  have haccept (body : Text) : Courteous given t (fun s => s.affairs.Begun owner)
      (accept owner.handler (.answer owner l) l body : Prog E K Unit)
      fun _ s => s.affairs.Begun owner := by
    unfold accept
    split
    · exact courteous_wiring hP fun w => w.quiet_complete l _ _
    · exact courteous_pure _
    · exact owner.always_onNotification _ _ hP
    · exact (hanswer _ _ _).bind fun _ => courteous_pure _
    · exact courteous_pure _
  refine (courteous_look hP).bind fun input => ?_
  refine Courteous.holding (fun c => c.ledger_modifyWiring (.of_eq rfl rfl)) ?_ fun _ => hP
  refine (courteous_iterate (fun inbox => ?_) _).bind fun reason => ?_
  · unfold readStep
    split
    · refine (courteous_receive hP input).bind fun bytes => ?_
      cases bytes <;> exact courteous_pure _
    · exact courteous_pure _
    · exact courteous_pure _
    · exact (haccept _).bind fun _ => courteous_pure _
  · refine (courteous_wiring hP fun w => ?_).bind fun _ => (courteous_look hP).bind fun closing => ?_
    · refine Wiring.Quiet.trans (w.quiet_updateLink l ?_) (Wiring.quiet_failPending _ l _)
      intro link
      rfl
    · cases closing with
      | true => exact courteous_pure _
      | false => exact (hcrash _).bind fun _ => courteous_pure _

/-! ## Jobs without a lifecycle -/

theorem Job.courteous_search (a : Access) (query : String) (promise : PromiseId)
    (net : Providers (Client E) (Job K)) (outside : K → Prog E K Unit) :
    Courteous given t (fun s => s.affairs.Genuine a)
      (perform net outside (.search a query promise)) fun _ s => s.affairs.Genuine a := by
  have hP : Lasting given t fun s : Scene (Client E) (Job K) (Role K) => s.affairs.Genuine a :=
    Scene.lasting_genuine a
  refine (Access.courteous_ask hP (fun _ h => h) _ _ _).bind fun answer => ?_
  exact courteous_wiring hP fun w => w.quiet_keep _ _

end LanguageClient
