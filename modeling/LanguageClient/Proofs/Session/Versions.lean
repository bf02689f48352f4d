import LanguageClient.Proofs.Server.Ledger
import LanguageClient.Proofs.Session.Chronicle
import LanguageClient.Proofs.Session.WorkspaceEdit
import LanguageClient.Proofs.Task.AtOnce
namespace LanguageClient

/-!
# Versions of a session

A session opens its document, tells of changes and saves, and closes it, in calls that come in
between one another wherever they wait. What the server is told in all of them agrees with the flags
and the version of the session. The lock alone would not do for saves, which are told after it is
given back; but they are told in the same turn.
-/

open Link.Event (changes notice)

namespace Session

/-! ## What is seen of a session -/

/-- A session but for what changes while nobody is told anything. -/
def bare (x : Session) : Session :=
  { x with lock := Lock.free, needSave := false, diagnostics := [] }

structure Sight where
  session : Option Session
  access : Option Access
  status : ServerStatus
  log : List Link.Event

/-- What the server of a link was told of a document, oldest first. -/
def told (l : LinkId) (uri : String) (w : Wiring) : List Link.Event :=
  (w.said l).filter (Link.Event.isSync uri)

/-- A session, its access and the status of that, and what was told over it. -/
def sightView {E : Type} (s : SessionId) (a : Access) (uri : String) : View (Client E) Sight where
  see c := ⟨(c.sessions.get? s).map bare, c.access? s, a.status c, told a.link uri c.wiring⟩
  see_modify _ _ := rfl

/-- The session is connected by the access to a started server, which has since been told of the
document what the session says, and no change waits to be told. -/
def Sight.InStep (a : Access) (uri : String) (base : List Link.Event) (g : Sight) : Prop :=
  ∃ x, g.session = some x ∧ x.uri = uri ∧ x.pending = .none ∧ g.access = some a ∧
    g.status = .started ∧ Since base x g.log

def Sight.changes (g : Sight) : Nat := Link.Event.changes g.log

section Linked

variable {E : Type} {s : SessionId} {a : Access} {uri : String} {c c' : Client E}

/-- There is the session of a document, connected by the access to a started server. -/
structure Linked (s : SessionId) (a : Access) (uri : String) (c : Client E) : Prop where
  present : c.sessions.get? s = some (c.session s)
  uri_eq : (c.session s).uri = uri
  access : c.access? s = some a
  status : a.status c = .started

theorem session_eq_of_get? {x : Session} (h : c.sessions.get? s = some x) : c.session s = x :=
  congrArg (Option.getD · default) h

theorem inStep_see_iff {base : List Link.Event} : ((sightView s a uri).see c).InStep a uri base ↔
    Linked s a uri c ∧ (c.session s).pending = .none ∧
      Since base (c.session s) (told a.link uri c.wiring) := by
  constructor
  · rintro ⟨x, hsession, huri, hpending, haccess, hstatus, hchronicle⟩
    obtain ⟨y, hget, rfl⟩ := Option.map_eq_some_iff.1 hsession
    obtain rfl := session_eq_of_get? hget
    exact ⟨⟨hget, huri, haccess, hstatus⟩, hpending, hchronicle.congr (·.congr rfl rfl rfl rfl rfl)⟩
  · rintro ⟨⟨hpresent, huri, haccess, hstatus⟩, hpending, hchronicle⟩
    exact ⟨bare (c.session s), congrArg (Option.map bare) hpresent, huri, hpending, haccess,
      hstatus, hchronicle.congr (·.congr rfl rfl rfl rfl rfl)⟩

/-- The session may change, but neither its document nor its server. -/
theorem Linked.move {x : Session} (h : Linked s a uri c) (hget : c'.sessions.get? s = some x)
    (huri : x.uri = (c.session s).uri) (hserver : x.server = (c.session s).server)
    (hservers : c'.servers = c.servers) : Linked s a uri c' := by
  obtain rfl := session_eq_of_get? hget
  have hsame (r : ServerId) : c'.server r = c.server r := congrArg (Store.get · r) hservers
  refine ⟨hget, huri.trans h.uri_eq, ?_, ?_⟩
  · rw [← h.access, Client.access?, Client.access?, hsame, hserver]
  · rw [← h.status, Access.status, Access.status, hsame]

theorem Linked.update (h : Linked s a uri c) (f : Session → Session)
    (huri : (f (c.session s)).uri = (c.session s).uri)
    (hserver : (f (c.session s)).server = (c.session s).server) :
    Linked s a uri (c.updateSession s f) ∧
      (c.updateSession s f).session s = f (c.session s) := by
  have hget : (c.updateSession s f).sessions.get? s = some (f (c.session s)) := by
    rw [Client.updateSession, Store.get?_update_same, h.present]
    rfl
  exact ⟨h.move hget huri hserver rfl, session_eq_of_get? hget⟩

/-- A client that is seen alike has the session as open. -/
theorem Linked.isOpen_eq (h : Linked s a uri c') (hsame : (sightView s a uri).Same c c') :
    (c'.session s).isOpen = (c.session s).isOpen := by
  have hsession : (c'.sessions.get? s).map bare = (c.sessions.get? s).map bare :=
    congrArg Sight.session hsame
  rw [h.present] at hsession
  obtain ⟨x, hget, hx⟩ := Option.map_eq_some_iff.1 hsession.symm
  rw [session_eq_of_get? hget]
  exact (congrArg isOpen hx).symm

theorem same_updateSession {f : Session → Session} (h : ∀ x, bare (f x) = bare x) :
    (sightView s a uri).Same c (c.updateSession s f) := by
  have hsession : ((c.updateSession s f).sessions.get? s).map bare =
      (c.sessions.get? s).map bare := by
    rw [Client.updateSession, Store.get?_update_same, Option.map_map]
    exact congrArg (Option.map · _) (funext h)
  have haccess : (c.updateSession s f).access? s = c.access? s := by
    unfold Client.access?
    rcases c.session_updateSession s s f with hr | ⟨_, hr⟩
    · rw [hr]
      rfl
    · have hserver : (bare (f (c.session s))).server = (bare (c.session s)).server := by rw [h]
      rw [hr]
      exact congrArg (fun r => (c.server r).access) hserver
  change Sight.mk _ _ _ _ = Sight.mk _ _ _ _
  rw [hsession, haccess]
  rfl

end Linked

/-! ## Telling -/

section Telling

variable {E K : Type} {α : Type} {s : SessionId} {a : Access} {uri : String}
  {base : List Link.Event} {n : Nat}

/-- The program brings the session in step before it pauses, with so many changes at most. -/
abbrev Settles (s : SessionId) (a : Access) (uri : String) (base : List Link.Event) (n : Nat)
    (p : Prog E K α) (c : Client E) : Prop :=
  Program.Settles (sightView s a uri) Sight.changes (Sight.InStep a uri base) n p c

open Program

theorem same_setWiring {w : Wiring} {c : Client E} (h : w.transcript = c.wiring.transcript) :
    (sightView s a uri).Same c { c with wiring := w } := by
  have htold : told a.link uri w = told a.link uri c.wiring := by
    rw [told, told, Wiring.said, Wiring.said, h]
  exact congrArg (Sight.mk _ _ _) htold

theorem spares_write (p : PipeId) (bytes : Bytes) :
    (write p bytes : Prog E K (Except ClientError Unit)).Spares (sightView s a uri) := by
  refine Spares.iterate (fun rest => spares_await (fun t c => ?_) fun _ _ => rfl) bytes
  exact same_setWiring (c.wiring.quiet_offer p rest t).2

theorem spares_send (l : LinkId) (m : OutgoingMessage) :
    (Link.send l m : Prog E K (Except ClientError Unit)).Spares (sightView s a uri) := by
  refine Spares.locked (Spares.bind (spares_act fun _ => rfl) fun output => ?_) fun lock c => rfl
  cases output with
  | none => exact spares_done _
  | some p => exact spares_write p _

theorem spares_notify (l : LinkId) (method : String) (params : Json) :
    (Link.notify l method params : Prog E K (Except ClientError Unit)).Spares
      (sightView s a uri) := by
  refine Spares.bind (spares_act fun _ => rfl) fun connected => ?_
  cases connected with
  | true => exact spares_send l _
  | false => exact spares_done _

theorem spares_report (b : Access) (f : Feature) (e : ClientError) :
    (Gate.report b.gate f e : Prog E K Unit).Spares (sightView s a uri) := by
  unfold Gate.report
  split
  · refine Spares.bind (spares_act fun _ => rfl) fun there => ?_
    cases there with
    | true => exact fun _ => spares_done _
    | false => exact spares_done _
  · exact spares_done _

theorem told_note {w : Wiring} {e : Link.Event} (h : e.isSync uri = true) :
    told a.link uri (w.note a.link e) = told a.link uri w ++ [e] := by
  simp [told, Wiring.said, Wiring.note, h]

/-- Once it is noted what the server is told, the rest is not seen. -/
theorem settles_tell {f : Feature} {params : Json} {c : Client E} (h : Linked s a uri c)
    (hpending : (c.session s).pending = .none)
    (hchronicle : Since base (c.session s) (told a.link uri c.wiring ++ [notice f params]))
    (hf : f.isNotification = true)
    (hsupported : ∀ registered, f.isSupported a.capabilities registered params = true)
    (hsync : (notice f params).isSync uri = true) :
    Settles s a uri base (changes [notice f params]) (a.tell f params : Prog E K Unit) c := by
  have hadmits : a.gate.admits (J := Job K) f params c = true :=
    Bool.and_eq_true_iff.2 ⟨beq_iff_eq.2 h.status, hsupported _⟩
  have hnoted : ((sightView s a uri).see
      (HasWiring.modify (·.note a.link (notice f params)) c)).InStep a uri base := by
    refine inStep_see_iff.2 ⟨h.move h.present rfl rfl rfl, hpending, ?_⟩
    exact (told_note (w := c.wiring) hsync).symm ▸ hchronicle
  -- Nothing is seen of the writing that follows the note, or of a failure of it.
  have htells : Settles s a uri base (changes [notice f params])
      (Link.tell a.link f.method params : Prog E K (Except ClientError Unit)) c := by
    change Settles s a uri base _ ((Program.modify (HasWiring.modify
      (·.note a.link (notice f params)))).bind fun _ => Link.notify a.link f.method params) c
    rw [← Nat.add_zero (changes _)]
    refine .acts (Nat.le_of_eq ?_) (.spares (spares_notify _ _ _) hnoted)
    exact (congrArg changes (told_note hsync)).trans (Link.Event.changes_append _ _)
  refine .bind (.read ?_) fun _ => spares_done _
  rw [if_pos hadmits, if_pos hf]
  refine htells.bind fun r => ?_
  cases r with
  | ok _ => exact spares_done _
  | error e => exact Spares.bind (spares_report a f e) fun _ => spares_done _

/-- What is not admitted is not told. -/
theorem settles_tell_refused {f : Feature} {params : Json} {c : Client E}
    (h : ((sightView s a uri).see c).InStep a uri base)
    (hadmits : a.gate.admits (J := Job K) f params c = false) :
    Settles s a uri base n (a.tell f params : Prog E K Unit) c := by
  refine .bind (.read ?_) fun _ => spares_done _
  rw [hadmits]
  exact .spares (spares_done _) h

theorem settles_done {c : Client E} {r : α} (h : Linked s a uri c)
    (hpending : (c.session s).pending = .none)
    (hchronicle : Since base (c.session s) (told a.link uri c.wiring)) :
    Settles s a uri base n (.done r : Prog E K α) c :=
  .spares (spares_done r) (inStep_see_iff.2 ⟨h, hpending, hchronicle⟩)

/-! ## Deeds -/

/-- The program waits, and then brings the session in step before it pauses again. -/
abbrev Poised (s : SessionId) (a : Access) (uri : String) (base : List Link.Event) (n : Nat)
    (p : Prog E K α) : Prop :=
  Program.Poised (sightView s a uri) Sight.changes (Sight.InStep a uri base) n p

/-- Whoever gets the lock of the session finds it in step. -/
theorem poised_locked {p : Prog E K α}
    (h : ∀ c, Linked s a uri c → (c.session s).pending = .none →
      Since base (c.session s) (told a.link uri c.wiring) → Settles s a uri base n p c) :
    Poised s a uri base n (.locked (Client.sessionLock s) p) := by
  refine .locked (fun _ _ => same_updateSession fun _ => rfl) fun c hc => ?_
  obtain ⟨hlinked, hpending, hchronicle⟩ := inStep_see_iff.1 hc
  exact h c hlinked hpending hchronicle

theorem poised_tellOpened (hopenClose : a.capabilities.openClose = true) :
    Poised s a uri base 0 (tellOpened s : Prog E K Unit) := by
  refine poised_locked fun c hlinked hpending hchronicle => .read ?_
  split
  · exact settles_done hlinked hpending hchronicle
  · rename_i hnew
    obtain ⟨hopened, hclosed⟩ := Bool.or_eq_false_iff.1 (Bool.eq_false_iff.2 hnew)
    obtain ⟨hlinked', hsession⟩ := hlinked.update (fun x => { x with opened := true }) rfl rfl
    refine .modify (Nat.le_refl _) (.read ?_)
    rw [hlinked'.access]
    refine .read (settles_tell (f := .didOpen) hlinked' ?_ ?_ rfl (fun _ => hopenClose) ?_)
    · rw [hsession]
      exact hpending
    · rw [hsession]
      exact hchronicle.tell (·.opens hopened hclosed _)
    · exact Link.Event.isSync_notice (by decide) (by rw [Params.uri?_didOpen, hlinked.uri_eq])

theorem poised_tellClosed (hopenClose : a.capabilities.openClose = true) :
    Poised s a uri base 0 (tellClosed s : Prog E K Unit) := by
  refine poised_locked fun c hlinked hpending hchronicle => .read ?_
  split
  · exact settles_done hlinked hpending hchronicle
  · rename_i hnotClosed
    obtain ⟨hlinked', hsession⟩ := hlinked.update (fun x => { x with closed := true }) rfl rfl
    refine .modify (Nat.le_refl _) ?_
    split
    · rename_i hopened
      have hopen : (c.session s).isOpen = true :=
        isOpen_iff.2 ⟨hopened, Bool.eq_false_iff.2 hnotClosed⟩
      refine .read ?_
      rw [hlinked'.access]
      refine settles_tell (f := .didClose) hlinked' ?_ ?_ rfl (fun _ => hopenClose) ?_
      · rw [hsession]
        exact hpending
      · rw [hsession]
        exact hchronicle.tell (·.closes hopen)
      · exact Link.Event.isSync_notice (by decide) (by rw [Params.uri?_about, hlinked.uri_eq])
    · rename_i hopened
      refine settles_done hlinked' ?_ ?_
      · rw [hsession]
        exact hpending
      · rw [hsession]
        exact hchronicle.congr (·.closes_unopened (Bool.eq_false_iff.2 hopened))

theorem poised_tellSaved : Poised s a uri base 0 (tellSaved s : Prog E K Unit) := by
  have hneedSave (c : Client E) :
      (sightView s a uri).Same c (c.updateSession s fun x => { x with needSave := false }) :=
    same_updateSession fun _ => rfl
  refine .waits (fun _ c => hneedSave c) (fun _ _ => rfl) fun _ => ?_
  refine .locked_bind (fun _ _ => same_updateSession fun _ => rfl) fun c c' hc hsame => ?_
  obtain ⟨hlinked, hpending, hchronicle⟩ := inStep_see_iff.1 hc
  -- The lock was given back in between, but the session is still as open as it was.
  rw [← hlinked.isOpen_eq hsame]
  cases hopen : (c'.session s).isOpen with
  | false => exact .spares (spares_done _) hc
  | true =>
      refine .read ?_
      rw [hlinked.access]
      refine .read ?_
      cases hadmits : a.gate.admits (J := Job K) .didSave (Params.didSave (c'.session s).uri
        (if a.capabilities.saveIncludesText then some (c'.text s) else none)) c' with
      | false => exact settles_tell_refused hc hadmits
      | true =>
          refine settles_tell (f := .didSave) hlinked hpending (hchronicle.tell (·.saves hopen _))
            rfl (fun _ => (Bool.and_eq_true_iff.1 hadmits).2) ?_
          exact Link.Event.isSync_notice (by decide) (by rw [Params.uri?_didSave, hlinked.uri_eq])

theorem takePending_cases (x : Session) (text : Text) :
    x.takePending text = ({ x with pending := .none }, []) ∨ ∃ change changes,
      x.takePending text =
        ({ x with pending := .none, version := x.version + 1 }, change :: changes) := by
  unfold takePending
  cases x.pending.contents text with
  | nil => exact .inl rfl
  | cons change changes => exact .inr ⟨change, changes, rfl⟩

/-- What was kept is told as one change, if there is anything. -/
theorem settles_flush {c : Client E} (hkind : a.capabilities.syncKind ≠ SyncKind.none)
    (h : Linked s a uri c) (hopen : (c.session s).isOpen = true)
    (hchronicle : Since base (c.session s) (told a.link uri c.wiring)) :
    Settles s a uri base 1 (flush s a : Prog E K Unit) c := by
  unfold flush
  refine .act (Nat.le_refl _) ?_
  rcases takePending_cases (c.session s) (c.text s) with htaken | ⟨change, changes, htaken⟩
  · obtain ⟨hlinked, hsession⟩ :=
      h.update (fun _ => { c.session s with pending := .none }) rfl rfl
    rw [htaken]
    refine settles_done hlinked ?_ ?_ <;> rw [hsession]
    exact hchronicle.congr (·.congr rfl rfl rfl rfl rfl)
  · obtain ⟨hlinked, hsession⟩ := h.update (fun _ =>
      { c.session s with pending := .none, version := (c.session s).version + 1 }) rfl rfl
    rw [htaken]
    refine settles_tell (f := .didChange) hlinked ?_ ?_ rfl (fun _ => bne_iff_ne.2 hkind) ?_
    · rw [hsession]
    · rw [hsession]
      exact hchronicle.tell (·.changes hopen _)
    · exact Link.Event.isSync_notice (by decide) (by rw [Params.uri?_didChange, h.uri_eq])

/-- A change only adds to what is kept. -/
theorem linked_recordChange {c : Client E} (b : Access) (change : TextChange)
    (h : Linked s a uri c) : Linked s a uri (recordChange s b change c) ∧
      ∃ pending, (recordChange s b change c).session s = { c.session s with pending } := by
  obtain ⟨hlinked, hsession⟩ := h.update (fun x => { x with
    pending := x.pending.record b.capabilities.syncKind change (c.text s) }) rfl rfl
  exact ⟨hlinked, _, hsession⟩

theorem poised_tellChanged (hkind : a.capabilities.syncKind ≠ SyncKind.none)
    (change : TextChange) : Poised s a uri base 1 (tellChanged s change : Prog E K Unit) := by
  refine poised_locked fun c hlinked hpending hchronicle => .read ?_
  cases hopen : (c.session s).isOpen with
  | false =>
      rw [syncAccess?, hopen]
      exact settles_done hlinked hpending hchronicle
  | true =>
      rw [syncAccess?, hopen, if_pos rfl, hlinked.access]
      obtain ⟨hlinked', pending, hsession⟩ := linked_recordChange a change hlinked
      refine .modify (Nat.le_refl _) (settles_flush hkind hlinked' ?_ ?_) <;> rw [hsession]
      · exact hopen
      · exact hchronicle.congr (·.congr rfl rfl rfl rfl rfl)

/-- Edits only add to what is kept, and to nothing if the document is not open. -/
theorem linked_makeEdits {c : Client E} (access : Option Access) (edits : List TextEdit)
    (h : Linked s a uri c) :
    Linked s a uri (edits.foldl (fun d e => makeEdit s access e d) c) ∧
      ∃ pending, (access = none → pending = (c.session s).pending) ∧
        (edits.foldl (fun d e => makeEdit s access e d) c).session s =
          { c.session s with pending } := by
  induction edits generalizing c with
  | nil => exact ⟨h, (c.session s).pending, fun _ => rfl, rfl⟩
  | cons e edits ih =>
      let edited : Client E := c.updateEditor fun editor => editor.updateBuffer (c.session s).buffer
        (·.replace ((c.text s).offsets e.range).1 ((c.text s).offsets e.range).2 e.newText)
      have hedited : Linked s a uri edited := h.move h.present rfl rfl rfl
      obtain ⟨hlinked, pending, hnone, hsession⟩ : Linked s a uri (makeEdit s access e c) ∧
          ∃ pending, (access = none → pending = (c.session s).pending) ∧
            (makeEdit s access e c).session s = { c.session s with pending } := by
        cases access with
        | none => exact ⟨hedited, (c.session s).pending, fun _ => rfl, rfl⟩
        | some b =>
            obtain ⟨hlinked, pending, hsession⟩ := linked_recordChange b _ hedited
            exact ⟨hlinked, pending, nofun, hsession⟩
      obtain ⟨hlinked', pending', hnone', hsession'⟩ := ih hlinked
      refine ⟨hlinked', pending', fun haccess => ?_, ?_⟩
      · rw [hnone' haccess, hsession]
        exact hnone haccess
      · rw [List.foldl_cons, hsession', hsession]

theorem poised_applyEdits (hkind : a.capabilities.syncKind ≠ SyncKind.none)
    (edits : List TextEdit) (version : Option Int) :
    Poised s a uri base 1 (applyEdits s edits version : Prog E K Bool) := by
  refine poised_locked fun c hlinked hpending hchronicle => .read ?_
  split
  · exact settles_done hlinked hpending hchronicle
  obtain ⟨hlinked', pending, hnone, hsession⟩ :=
    linked_makeEdits (syncAccess? s c) (lastFirst (c.text s) edits) hlinked
  have hwiring := wiring_foldl_makeEdit s (syncAccess? s c) (lastFirst (c.text s) edits) c
  have hchronicle' : Since base _ (told a.link uri _) := hwiring.symm ▸ hchronicle
  refine .act (Nat.le_of_eq (congrArg (fun w => changes (told a.link uri w)) hwiring)) ?_
  dsimp only
  -- Without access nothing is kept, and what was pending is as it was: nothing.
  cases hopen : (c.session s).isOpen with
  | false =>
      have haccess : syncAccess? s c = none := by rw [syncAccess?, hopen, if_neg Bool.false_ne_true]
      rw [haccess] at hlinked' hsession hchronicle' ⊢
      refine settles_done hlinked' ?_ ?_ <;> rw [hsession]
      · exact (hnone haccess).trans hpending
      · exact hchronicle'.congr (·.congr rfl rfl rfl rfl rfl)
  | true =>
      have haccess : syncAccess? s c = some a := by
        rw [syncAccess?, hopen, if_pos rfl, hlinked.access]
      rw [haccess] at hlinked' hsession hchronicle' ⊢
      refine (settles_flush hkind hlinked' ?_ ?_).bind fun _ => spares_done _ <;> rw [hsession]
      · exact hopen
      · exact hchronicle'.congr (·.congr rfl rfl rfl rfl rfl)

theorem spares_versionNow :
    Program.Spares (sightView s a uri) (versionNow s : Prog E K Nat) :=
  Spares.locked (spares_act fun _ => rfl) fun _ _ => same_updateSession fun _ => rfl

end Telling

/-! ## Calls -/

/-- What can be called on a session, by anybody and at any time. -/
inductive Deed where
  | opened
  | changed (change : TextChange)
  | edited (edits : List TextEdit) (version : Option Int)
  | saved
  | closed
  | asked

namespace Deed

abbrev Result : Deed → Type
  | edited _ _ => Bool
  | asked => Nat
  | _ => Unit

def perform {E K : Type} (s : SessionId) : (d : Deed) → Prog E K d.Result
  | opened => tellOpened s
  | changed change => tellChanged s change
  | edited edits version => applyEdits s edits version
  | saved => tellSaved s
  | closed => tellClosed s
  | asked => versionNow s

/-- How many changes one call may tell the server of. -/
def limit : Deed → Nat
  | changed _ | edited _ _ => 1
  | _ => 0

/-- Calls begin at any time. What else goes on is up to the walk. -/
def rules (E K : Type) (s : SessionId) : Hall.Rules (Client E) (Job K) Result where
  call := perform s
  mayStart _ := True
  outside _ _ := True

theorem poised_perform {E K : Type} {s : SessionId} {a : Access} {uri : String}
    {base : List Link.Event}
    (hopenClose : a.capabilities.openClose = true)
    (hkind : a.capabilities.syncKind ≠ SyncKind.none) (d : Deed) :
    Poised s a uri base d.limit (d.perform s : Prog E K d.Result) ∨
      Program.Spares (sightView s a uri) (d.perform s : Prog E K d.Result) := by
  cases d with
  | opened => exact .inl (poised_tellOpened hopenClose)
  | changed change => exact .inl (poised_tellChanged hkind change)
  | edited edits version => exact .inl (poised_applyEdits hkind edits version)
  | saved => exact .inl poised_tellSaved
  | closed => exact .inl (poised_tellClosed hopenClose)
  | asked => exact .inr spares_versionNow

end Deed

section Granted

variable {E K : Type} {s : SessionId} {t : TaskId} {rt rt' : Runtime (Client E) (Job K)} {n : Nat}
  {aborted : Bool} {outside : Client E → Client E → Prop} {α β : Type}

/-- The task has the lock of the session when it asks for it. -/
def Granted (s : SessionId) (t : TaskId) (c : Client E) : Prop :=
  ((Client.sessionLock s).acquire t c).2 = some ()

instance (s : SessionId) (t : TaskId) (c : Client E) : Decidable (Granted s t c) :=
  inferInstanceAs (Decidable (_ = _))

/-- The client after the lock was taken and given back. -/
def passed (s : SessionId) (t : TaskId) (c : Client E) : Client E :=
  (Client.sessionLock s).release ((Client.sessionLock s).acquire t c).1

theorem idle_passed (s : SessionId) (t : TaskId) (c : Client E) : Client.Idle c (passed s t c) :=
  (Client.idle_acquire s t c).trans (Client.idle_release s _)

theorem version_acquire (s : SessionId) (t : TaskId) (c : Client E) :
    (((Client.sessionLock s).acquire t c).1.session s).version = (c.session s).version :=
  version_updateSession c s s fun _ => rfl

theorem stride_granted {body : Prog E K α} (h : Granted s t rt.world) :
    rt.stride ⟨t, .locked (Client.sessionLock s) body, [], aborted⟩ =
      ({ rt with world := ((Client.sessionLock s).acquire t rt.world).1 },
        .going ⟨t, .holding (Client.sessionLock s).release body, [], aborted⟩) := by
  simp only [Runtime.stride, Program.locked]
  rw [← Prod.eta ((Client.sessionLock s).acquire t rt.world), show _ = some () from h]

/-- With the lock there, what is only looked at is answered at once. -/
theorem exists_ran_granted_iff {f : Client E → β} {k : β → Prog E K α} {a b : α}
    (h : Granted s t rt.world)
    (hk : k (f ((Client.sessionLock s).acquire t rt.world).1) = .done a) :
    (∃ n, Runtime.Ran outside n rt
      ⟨t, .locked (Client.sessionLock s) ((Program.read f).bind k), [], aborted⟩ rt' b) ↔
      b = a ∧ rt' = { rt with world := passed s t rt.world } := by
  let w := ((Client.sessionLock s).acquire t rt.world).1
  let release := (Client.sessionLock s).release (W := Client E)
  have hreads : Runtime.stride { rt with world := w }
      ⟨t, ((Program.read f).bind k).bind fun a => .letGo (.done a), [.held release], aborted⟩ =
      ({ rt with world := w }, .going ⟨t, .letGo (.done a), [.held release], aborted⟩) := by
    rw [Program.bind_assoc]
    change (_, Runtime.Stride.going ⟨t, (k (f w)).bind _, _, _⟩) = _
    rw [hk]
    rfl
  constructor
  · rintro ⟨n, hran⟩
    obtain ⟨_, -, htaken⟩ := hran.of_going (stride_granted h)
    obtain ⟨_, -, hheld⟩ := htaken.of_going rfl
    obtain ⟨_, -, hread⟩ := hheld.of_going hreads
    obtain ⟨_, -, hreleased⟩ := hread.of_going rfl
    obtain ⟨rfl, rfl⟩ := hreleased.of_done
    exact ⟨rfl, rfl⟩
  · rintro ⟨rfl, rfl⟩
    exact ⟨4, .went (stride_granted h) (.went rfl (.went hreads (.went rfl (.ended rfl))))⟩

/-- What a session answers to its version. -/
theorem exists_ran_versionNow_iff {b : Nat} (h : Granted s t rt.world) :
    (∃ n, Runtime.Ran outside n rt ⟨t, versionNow s, [], aborted⟩ rt' b) ↔
      b = (rt.world.session s).version ∧ rt' = { rt with world := passed s t rt.world } := by
  rw [versionNow, ← Program.bind_done (Program.read _)]
  exact exists_ran_granted_iff h (congrArg _ (version_acquire s t rt.world))

/-- Edits for a version that has passed are refused, and nothing comes of them. -/
theorem exists_ran_applyEdits_iff {edits : List TextEdit} {v : Int} {b : Bool}
    (h : Granted s t rt.world) (hv : v < (rt.world.session s).version) :
    (∃ n, Runtime.Ran outside n rt ⟨t, applyEdits s edits (some v), [], aborted⟩ rt' b) ↔
      b = false ∧ rt' = { rt with world := passed s t rt.world } := by
  refine exists_ran_granted_iff h (if_pos ?_)
  rw [version_acquire]
  exact decide_eq_true hv

/-- All other edits are accepted. -/
theorem eq_true_of_ran_applyEdits {edits : List TextEdit} {v : Int} {b : Bool}
    (h : Granted s t rt.world) (hv : ¬ v < (rt.world.session s).version)
    (hran : Runtime.Ran outside n rt ⟨t, applyEdits s edits (some v), [], aborted⟩ rt' b) :
    b = true := by
  obtain ⟨_, -, htaken⟩ := hran.of_going (stride_granted h)
  obtain ⟨_, -, hheld⟩ := htaken.of_going rfl
  obtain ⟨_, -, hread⟩ := hheld.of_going rfl
  -- From here on it may wait to tell the server, but there is only one answer left.
  refine hread.gives (Q := (· = true)) ⟨?_, List.forall_mem_singleton.2 trivial⟩
  have hnot : ¬ (some v).any (fun v => decide (v < ((((Client.sessionLock s).acquire t
      rt.world).1.session s).version : Int))) = true := by
    rw [version_acquire]
    exact fun hpast => hv (of_decide_eq_true hpast)
  change Program.Gives _ (Program.bind (if _ then _ else _) _)
  rw [if_neg hnot]
  refine Program.Gives.bind (R := (· = true)) ?_ fun b hb => hb
  refine Program.Gives.bind (Program.gives_any _) fun access _ => ?_
  cases access with
  | none => exact rfl
  | some a => exact Program.Gives.bind (Program.gives_any (flush s a)) fun _ _ => rfl

end Granted

/-! ## Walks of calls -/

section Walks

variable {E K : Type} {s : SessionId} {a : Access} {uri : String}
  {c d : Hall (Client E) (Job K) Deed.Result} {past : List (Moment (Client E) (Job K))}

/-- A new session of a document, connected by the access to a started server that wants to know when
documents are opened, changed and closed. -/
structure Fresh (s : SessionId) (a : Access) (uri : String)
    (c : Hall (Client E) (Job K) Deed.Result) : Prop where
  calls : c.calls = []
  session : ∃ (doc : OpenDocument) (languageId : Text) (server : ServerId), doc.uri = uri ∧
    c.world.sessions.get? s = some (Session.new doc languageId server)
  access : c.world.access? s = some a
  status : a.status c.world = .started
  openClose : a.capabilities.openClose = true
  kind : a.capabilities.syncKind ≠ SyncKind.none

theorem Fresh.inStep (h : Fresh s a uri c) :
    ((sightView s a uri).see c.world).InStep a uri (told a.link uri c.world.wiring) := by
  obtain ⟨doc, languageId, server, rfl, hget⟩ := h.session
  have hsession := session_eq_of_get? hget
  refine inStep_see_iff.2 ⟨⟨?_, ?_, h.access, h.status⟩, ?_, [], ?_⟩ <;> rw [hsession]
  · exact hget
  · rfl
  · rfl
  · exact ⟨(List.append_nil _).symm, .unopened rfl rfl⟩

/-- How many changes a task told the server of. -/
def toldBy (s : SessionId) (a : Access) (uri : String) (t : TaskId)
    (past : List (Moment (Client E) (Job K))) : Nat :=
  (sightView s a uri).gained Sight.changes t past

/-- What is promised of a session at any time: of the log of what was told, of what a call tells
until the end of its next turn, and of calls that get the lock. These are told by all solo runs, in
which the world may change in any way while the call waits. -/
structure Disciplined (s : SessionId) (a : Access) (uri : String) (log : List Link.Event)
    (past : List (Moment (Client E) (Job K))) (d : Hall (Client E) (Job K) Deed.Result) :
    Prop where
  ordered : Ordered uri (d.world.session s).languageId log
  numbered : log.filterMap Link.Event.changeVersion? = List.range' 1 (changes log)
  version : (d.world.session s).version = changes log
  once {call : Hall.Call (Client E) (Job K) Deed.Result} (hcall : call ∈ d.calls)
    {moments : List (Moment (Client E) (Job K))} {rt : Runtime (Client E) (Job K)}
    {left : List (Task (Client E) (Job K) call.name.Result)}
    (hturn : d.runtime.Turn call.task moments rt left) :
    toldBy s a uri call.task.id (past ++ moments) ≤ call.name.limit
  answered {t : TaskId} (ht : Granted s t d.world) {rt : Runtime (Client E) (Job K)} {n : Nat} :
    (∃ m, Runtime.Ran (fun _ _ => True) m d.runtime ⟨t, versionNow s, [], false⟩ rt n) ↔
      n = changes log ∧ rt = { d.runtime with world := passed s t d.world }
  refused {t : TaskId} (ht : Granted s t d.world) (edits : List TextEdit) {v : Int}
    (hv : v < changes log) : ∃ rt m,
      Runtime.Ran (fun _ _ => True) m d.runtime ⟨t, applyEdits s edits (some v), [], false⟩ rt false
  judged {t : TaskId} (ht : Granted s t d.world) {edits : List TextEdit} {v : Int} {m : Nat}
    {rt : Runtime (Client E) (Job K)} {b : Bool}
    (h : Runtime.Ran (fun _ _ => True) m d.runtime ⟨t, applyEdits s edits (some v), [], false⟩
      rt b) :
    (b = false ↔ v < changes log) ∧ (b = false → Client.Idle d.world rt.world ∧
      rt.world.wiring.transcript = d.world.wiring.transcript)

/-- However calls on a new session come in between one another, as long as nobody else changes the
session, its connection or what is told of the document: the session keeps what is promised. -/
theorem versions_disciplined (hc : Fresh s a uri c)
    (w : Hall.Reserved (sightView s a uri) (Deed.rules E K s) c past d) :
    ∃ log, told a.link uri d.world.wiring = told a.link uri c.world.wiring ++ log ∧
      Disciplined s a uri log past d := by
  have hkept : d.Kept (sightView s a uri) Sight.changes
      (Sight.InStep a uri (told a.link uri c.world.wiring)) Deed.limit past :=
    w.kept (Deed.poised_perform hc.openClose hc.kind) hc.calls hc.inStep
  obtain ⟨hlinked, -, log, htold, hchronicle⟩ := inStep_see_iff.1 hkept.seen
  have hversion := hchronicle.changes_eq
  -- By then the session counts the changes that were told, so its version is as good as the log.
  refine ⟨log, htold, ?_, ?_, hversion.symm, fun hcall _ _ _ hturn => hkept.gained_le hcall hturn,
    ?_, ?_, ?_⟩
  · rw [← hlinked.uri_eq]
    exact hchronicle.ordered
  · rw [hversion]
    exact hchronicle.versions_eq
  · intro t ht rt n
    rw [hversion]
    exact exists_ran_versionNow_iff ht
  · intro t ht edits v hv
    rw [hversion] at hv
    exact ⟨_, (exists_ran_applyEdits_iff ht hv).2 ⟨rfl, rfl⟩⟩
  · intro t ht edits v m rt b hran
    rw [hversion]
    by_cases hv : v < (d.world.session s).version
    · obtain ⟨rfl, rfl⟩ := (exists_ran_applyEdits_iff ht hv).1 ⟨m, hran⟩
      exact ⟨iff_of_true rfl hv, fun _ => ⟨idle_passed s t d.world, rfl⟩⟩
    · obtain rfl := eq_true_of_ran_applyEdits ht hv hran
      exact ⟨iff_of_false (by simp) hv, fun h => nomatch h⟩

end Walks

/-! Two edits of the small client for the version that only the first of them finds. -/

/-- The small client before any call. -/
def smallHall : Hall (Client Unit) (Job Unit) Deed.Result :=
  ⟨Client.smallRuntime ['a', 'c'] SyncKind.full, []⟩

/-- The server takes this much before it reads on. -/
def slowed (capacity : Nat) (c : Client Unit) : Client Unit :=
  HasWiring.modify (fun w => (w.visitPipe 1 fun p => ({ p with capacity }, none, ())).1) c

/-- An insertion at the beginning of a new document. -/
def insertion : Deed := .edited [⟨⟨Position.origin, Position.origin⟩, ['b']⟩] (some 0)

/-- While a server that is slow to read is told that the document is open, edits and a save line up
behind. The second edit is still to have its turn. -/
def rivals : List (Hall.Cue (Client Unit) Deed) :=
  [.begins .opened, .changes (slowed 0), .call 0, .begins insertion, .call 1, .begins .saved,
    .call 2, .begins insertion, .call 3, .changes (slowed Pipe.standardCapacity), .call 0, .call 0,
    .call 0]

theorem fresh_smallHall : Fresh 0 (Client.smallAccess SyncKind.full) "" smallHall where
  calls := rfl
  session := ⟨Client.smallDocument, [], 0, rfl, rfl⟩
  access := rfl
  status := rfl
  openClose := by decide +kernel
  kind := by decide +kernel

theorem versions_disciplined_rivals : ∃ past d t log,
    Hall.Reserved (sightView 0 (Client.smallAccess SyncKind.full) "") (Deed.rules Unit Unit 0)
      smallHall past d ∧
    changes log = 1 ∧ log.length = 3 ∧ Granted 0 t d.world ∧
    Disciplined 0 (Client.smallAccess SyncKind.full) "" log past d := by
  have hallowed : ∀ cue ∈ rivals, cue.Allowed (Deed.rules Unit Unit 0) := by
    simp [rivals, Hall.Cue.Allowed, Deed.rules]
  have hdiscreet : ∀ cue ∈ rivals,
      cue.Discreet (sightView 0 (Client.smallAccess SyncKind.full) "") := by
    have hslowed (capacity : Nat) (c : Client Unit) :
        (sightView 0 (Client.smallAccess SyncKind.full) "").Same c (slowed capacity c) := rfl
    simp [rivals, insertion, Hall.Cue.Discreet, hslowed]
  obtain ⟨⟨past, d⟩, hplay, hend⟩ := (Option.any_eq_true _ _).1
    (show (smallHall.play (Deed.rules Unit Unit 0) rivals).any (fun r => decide
      (changes (told 0 "" r.2.world.wiring) = 1 ∧ (told 0 "" r.2.world.wiring).length = 3 ∧
        Granted 0 4 r.2.world)) = true by decide +kernel)
  obtain ⟨hchanges, hlength, hgranted⟩ := of_decide_eq_true hend
  have hwalk := Hall.Reserved.start.play hallowed hdiscreet hplay
  obtain ⟨log, htold, hdisciplined⟩ := versions_disciplined fresh_smallHall hwalk
  have hlog : told 0 "" d.world.wiring = log := htold
  rw [hlog] at hchanges hlength
  exact ⟨past, d, 4, log, hwalk, hchanges, hlength, hgranted, hdisciplined⟩

end Session

end LanguageClient
