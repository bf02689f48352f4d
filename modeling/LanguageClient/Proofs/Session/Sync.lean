import LanguageClient.Proofs.Client.Delivery
import LanguageClient.Session.Sync
namespace LanguageClient

/-!
# What sessions make of a client

Solo runs of what a session does, told by functions on the core of the client and by what is written
to the server.
-/

namespace Session

variable {E K : Type} {t : TaskId}

theorem unlocked_takePending (x : Session) (text : Text) :
    (x.unlocked.takePending text).1 = (x.takePending text).1.unlocked ∧
      (x.unlocked.takePending text).2 = (x.takePending text).2 := by
  simp only [takePending, unlocked]
  split <;> exact ⟨rfl, rfl⟩

/-- The client once the changes that were kept are taken out. -/
def flushed (s : SessionId) (c : Client E) : Client E :=
  c.updateSession s fun x => (x.takePending (c.text s)).1

theorem flushed_eq (s : SessionId) (c : Client E) :
    (c.updateSession s fun _ => ((c.session s).takePending (c.text s)).1) = flushed s c := by
  unfold flushed Client.updateSession
  rw [← Store.update_const c.sessions s fun x => (x.takePending (c.text s)).1]
  rfl

/-- The frame that reports changes of a document. -/
def changeFrame (uri : String) (told : Nat × List ContentChange) : Bytes :=
  (OutgoingMessage.notification Feature.didChange.method
    (some (Params.didChange uri told.1 told.2))).frame

/-- The version and the changes that the server is told of next, if there are any. -/
def news (s : SessionId) (c : Client E) : List (Nat × List ContentChange) :=
  match (c.session s).takePending (c.text s) with
  | (_, []) => []
  | (x, changes) => [(x.version, changes)]

theorem core_flushed (s : SessionId) (c : Client E) :
    (flushed s c).core = flushed s c.core := by
  refine Client.core_updateSession c s fun x => ?_
  rw [Client.text_core]
  exact (unlocked_takePending x _).1.symm

theorem news_core (s : SessionId) (c : Client E) : news s c.core = news s c := by
  obtain ⟨h₁, h₂⟩ := unlocked_takePending (c.session s) (c.text s)
  simp only [news, Client.session_core, Client.text_core]
  rcases h : (c.session s).takePending (c.text s) with ⟨x, changes⟩
  rcases h' : (c.session s).unlocked.takePending (c.text s) with ⟨y, others⟩
  rw [h, h'] at h₁ h₂
  dsimp only at h₁ h₂
  subst h₁ h₂
  cases others <;> rfl

/-- The server of an access takes changes of documents. -/
def Follows (a : Access) (c : Client E) : Prop :=
  a.status c = .started ∧ a.capabilities.syncKind ≠ SyncKind.none

theorem admits_didChange {a : Access} {c : Client E} (h : Follows a c) (params : Json) :
    a.gate.admits (J := Job K) .didChange params c = true := by
  have hstanding : a.gate.admits (J := Job K) .didChange params c =
      (a.status c == .started && a.capabilities.syncKind != SyncKind.none) := rfl
  rw [hstanding, h.1]
  simpa using h.2

/-- The bytes that tell a server what was taken out. -/
def takenFrames (taken : Session × List ContentChange) : Bytes :=
  match taken.2 with
  | [] => []
  | changes => changeFrame taken.1.uri (taken.1.version, changes)

theorem takenFrames_takePending (s : SessionId) (c : Client E) :
    takenFrames ((c.session s).takePending (c.text s)) =
      (news s c).flatMap (changeFrame (c.session s).uri) := by
  have huri : ((c.session s).takePending (c.text s)).1.uri = (c.session s).uri := by
    unfold takePending
    split <;> rfl
  unfold news takenFrames
  rcases h : (c.session s).takePending (c.text s) with ⟨x, _ | ⟨change, changes⟩⟩
  · rfl
  · rw [h] at huri
    dsimp only at huri
    simp [huri]

/-- A client `d` in which changes were kept is flushed: what that makes of the client, and what is
written from `c` to `c'`. -/
structure Flushes (s : SessionId) (a : Access) (d c c' : Client E) : Prop where
  core_eq : c'.core = flushed s d
  wrote : Follows a d → ∀ p, Wiring.Wrote a.link p
    ((news s d).flatMap (changeFrame (d.session s).uri)) c.wiring c'.wiring

theorem does_flush (s : SessionId) (a : Access) :
    Program.Does Client.Outside t (flush s a : Prog E K Unit) fun c _ c' =>
      Flushes s a c.core c c' := by
  refine ((Program.does_act _).bind (S := fun taken u _ c' => c'.core = u.core ∧
    (Follows a u → ∀ p, Wiring.Wrote a.link p (takenFrames taken) u.wiring c'.wiring))
    fun taken => ?_).mono ?_
  · rcases taken with ⟨x, _ | ⟨change, changes⟩⟩
    · refine (Program.does_done _).mono ?_
      rintro u _ c' ⟨_, rfl⟩
      exact ⟨rfl, fun _ p => (Wiring.Unwritten.refl _).wrote a.link p⟩
    · refine (Client.does_tell a (f := .didChange) rfl _).mono ?_
      rintro u _ c' h
      exact ⟨h.core_eq, fun hf p => h.wrote (admits_didChange hf _) p⟩
  · rintro c _ c' ⟨taken, u, ⟨rfl, rfl⟩, hcore, hwrote⟩
    rw [takenFrames_takePending, ← news_core] at hwrote
    dsimp only at hcore hwrote
    rw [flushed_eq] at hcore hwrote
    refine ⟨hcore.trans (core_flushed s c), fun hf p => ?_⟩
    rw [Client.session_core]
    exact hwrote hf p

theorem Flushes.of_idle {s : SessionId} {a : Access} {d c u v c' : Client E}
    (hbefore : Client.Idle c u) (h : Flushes s a d u v) (hafter : Client.Idle v c') :
    Flushes s a d c c' where
  core_eq := hafter.core_eq.trans h.core_eq
  wrote hf p := hbefore.wrote (h.wrote hf p) hafter

/-! ## Changes -/

theorem core_recordChange (s : SessionId) (a : Access) (change : TextChange) (c : Client E) :
    (recordChange s a change c).core = recordChange s a change c.core := by
  refine Client.core_updateSession c s fun x => ?_
  rw [Client.text_core]
  rfl

theorem syncAccess?_core (s : SessionId) (c : Client E) :
    syncAccess? s c.core = syncAccess? s c := by
  unfold syncAccess?
  rw [Client.session_core, Client.access?_core]
  rfl

/-- What reporting a change makes of the client. -/
def Reports (s : SessionId) (change : TextChange) (c c' : Client E) : Prop :=
  match syncAccess? s c.core with
  | none => Client.Idle c c'
  | some a => Flushes s a (recordChange s a change c.core) c c'

theorem does_tellChanged (s : SessionId) (change : TextChange) :
    Program.Does Client.Outside t (tellChanged s change : Prog E K Unit) fun c _ c' =>
      Reports s change c c' := by
  have hbody : Program.Does Client.Outside t
      ((Program.read (syncAccess? s)).bind fun access => match access with
        | none => .done ()
        | some a => (Program.modify (recordChange s a change)).bind fun _ => flush s a :
        Prog E K Unit) fun c _ c' => Reports s change c c' := by
    refine ((Program.does_read _).bind (S := fun access c _ c' => match access with
      | none => c' = c
      | some a => Flushes s a (recordChange s a change c.core) c c') fun access => ?_).mono ?_
    · cases access with
      | none =>
          refine (Program.does_done _).mono ?_
          rintro c _ c' ⟨_, rfl⟩
          rfl
      | some a =>
          refine ((Program.does_modify _).bind fun _ => does_flush s a).mono ?_
          rintro c _ c' ⟨_, u, rfl, h⟩
          rw [core_recordChange] at h
          exact ⟨h.core_eq, h.wrote⟩
    · rintro c _ c' ⟨access, u, ⟨rfl, rfl⟩, h⟩
      unfold Reports
      rw [syncAccess?_core]
      cases haccess : syncAccess? s u with
      | none =>
          rw [haccess] at h
          dsimp only at h
          subst h
          exact .refl _
      | some a =>
          rw [haccess] at h
          exact h
  refine Client.does_locked s hbody ?_
  intro c u _ v c' hbefore h hafter
  unfold Reports at h ⊢
  rw [hbefore.core_eq] at h
  cases haccess : syncAccess? s c.core with
  | none =>
      rw [haccess] at h
      exact (hbefore.trans h).trans hafter
  | some a =>
      rw [haccess] at h
      exact h.of_idle hbefore hafter

/-! ## Edits -/

/-- Whether edits for a version come too late. -/
def isPast (s : SessionId) (version : Option Int) (c : Client E) : Bool :=
  version.any fun v => decide (v < ((c.session s).version : Int))

/-- The client once edits are made in the buffer and kept for the server. -/
def edited (s : SessionId) (edits : List TextEdit) (c : Client E) : Client E :=
  (lastFirst (c.text s) edits).foldl (fun d e => makeEdit s (syncAccess? s c) e d) c

theorem isPast_core (s : SessionId) (version : Option Int) (c : Client E) :
    isPast s version c.core = isPast s version c := by
  unfold isPast
  rw [Client.session_core]
  rfl

theorem core_makeEdit (s : SessionId) (access : Option Access) (e : TextEdit) (c : Client E) :
    (makeEdit s access e c).core = makeEdit s access e c.core := by
  unfold makeEdit
  rw [Client.text_core, Client.session_core]
  cases access with
  | none => rfl
  | some a => exact core_recordChange s a _ _

theorem core_foldl_makeEdit (s : SessionId) (access : Option Access) (edits : List TextEdit)
    (c : Client E) :
    (edits.foldl (fun d e => makeEdit s access e d) c).core =
      edits.foldl (fun d e => makeEdit s access e d) c.core := by
  induction edits generalizing c with
  | nil => rfl
  | cons e edits ih => rw [List.foldl_cons, List.foldl_cons, ih, core_makeEdit]

theorem core_edited (s : SessionId) (edits : List TextEdit) (c : Client E) :
    (edited s edits c).core = edited s edits c.core := by
  unfold edited
  rw [core_foldl_makeEdit, Client.text_core, syncAccess?_core]

theorem wiring_foldl_makeEdit (s : SessionId) (access : Option Access) (edits : List TextEdit)
    (c : Client E) : (edits.foldl (fun d e => makeEdit s access e d) c).wiring = c.wiring := by
  induction edits generalizing c with
  | nil => rfl
  | cons e edits ih =>
      rw [List.foldl_cons, ih]
      cases access <;> rfl

/-- What a call to make edits gives back and makes of the client. -/
structure Applies (s : SessionId) (edits : List TextEdit) (version : Option Int) (c : Client E)
    (r : Bool) (c' : Client E) : Prop where
  result : r = !isPast s version c.core
  refused : r = false → Client.Idle c c'
  made : r = true → match syncAccess? s c.core with
    | none => c'.core = edited s edits c.core ∧ c.wiring.Unwritten c'.wiring
    | some a => Flushes s a (edited s edits c.core) c c'

/-- The edits of a call that is not refused. -/
theorem does_makeEdits (s : SessionId) (edits : List TextEdit) :
    Program.Does Client.Outside t
      ((Program.act fun c =>
        let access := syncAccess? s c
        ((lastFirst (c.text s) edits).foldl (fun c e => makeEdit s access e c) c, access)).bind
          fun access => match access with
            | none => .done true
            | some a => (flush s a).bind fun _ => .done true : Prog E K Bool)
      fun c r c' => r = true ∧ match syncAccess? s c.core with
        | none => c'.core = edited s edits c.core ∧ c.wiring.Unwritten c'.wiring
        | some a => Flushes s a (edited s edits c.core) c c' := by
  refine ((Program.does_act _).bind (S := fun access u r c' => r = true ∧ match access with
    | none => c' = u
    | some a => Flushes s a u.core u c') fun access => ?_).mono ?_
  · cases access with
    | none =>
        refine (Program.does_done _).mono ?_
        rintro u r c' ⟨rfl, rfl⟩
        exact ⟨rfl, rfl⟩
    | some a =>
        refine ((does_flush s a).bind fun _ => Program.does_done _).mono ?_
        rintro u r c' ⟨_, v, h, rfl, rfl⟩
        exact ⟨rfl, h⟩
  · rintro c r c' ⟨access, u, ⟨rfl, rfl⟩, rfl, h⟩
    refine ⟨rfl, ?_⟩
    change match syncAccess? s c with
      | none => c' = edited s edits c
      | some a => Flushes s a (edited s edits c).core (edited s edits c) c' at h
    have hwiring : (edited s edits c).wiring = c.wiring := wiring_foldl_makeEdit s _ _ c
    rw [syncAccess?_core, ← core_edited]
    cases haccess : syncAccess? s c with
    | none =>
        rw [haccess] at h
        dsimp only at h
        subst h
        exact ⟨rfl, by rw [hwiring]; exact .refl _⟩
    | some a =>
        rw [haccess] at h
        refine ⟨h.core_eq, fun hf p => ?_⟩
        rw [← hwiring]
        exact h.wrote hf p

theorem does_applyEdits (s : SessionId) (edits : List TextEdit) (version : Option Int) :
    Program.Does Client.Outside t (applyEdits s edits version : Prog E K Bool) fun c r c' =>
      Applies s edits version c r c' := by
  have hbody : Program.Does Client.Outside t
      ((Program.read fun c => (c.session s).version).bind fun (current : Nat) =>
        if version.any fun v => decide (v < (current : Int)) then .done false
        else (Program.act fun c =>
          let access := syncAccess? s c
          ((lastFirst (c.text s) edits).foldl (fun c e => makeEdit s access e c) c, access)).bind
            fun access => match access with
              | none => .done true
              | some a => (flush s a).bind fun _ => .done true : Prog E K Bool)
      fun c r c' => Applies s edits version c r c' := by
    refine ((Program.does_read _).bind (S := fun current c r c' =>
      current = (c.session s).version → Applies s edits version c r c') fun current => ?_).mono ?_
    · by_cases hpast : version.any fun v => decide (v < (current : Int))
      · rw [if_pos hpast]
        refine (Program.does_done _).mono ?_
        rintro c r c' ⟨rfl, rfl⟩ rfl
        refine ⟨?_, fun _ => .refl _, fun h => (nomatch h)⟩
        rw [isPast_core, isPast, hpast]
        rfl
      · rw [if_neg hpast]
        refine (does_makeEdits s edits).mono ?_
        rintro c r c' ⟨rfl, h⟩ rfl
        refine ⟨?_, fun h => (nomatch h), fun _ => h⟩
        rw [isPast_core, isPast, Bool.eq_false_iff.2 hpast]
        rfl
    · rintro c r c' ⟨current, u, ⟨rfl, rfl⟩, h⟩
      exact h rfl
  refine Client.does_locked s hbody ?_
  rintro c u r v c' hbefore ⟨hresult, hrefused, hmade⟩ hafter
  rw [hbefore.core_eq] at hresult hmade
  refine ⟨hresult, fun hr => (hbefore.trans (hrefused hr)).trans hafter, fun hr => ?_⟩
  have hmade := hmade hr
  cases haccess : syncAccess? s c.core with
  | none =>
      rw [haccess] at hmade
      exact ⟨hafter.core_eq.trans hmade.1,
        (hbefore.unwritten.trans hmade.2).trans hafter.unwritten⟩
  | some a =>
      rw [haccess] at hmade
      exact hmade.of_idle hbefore hafter

theorem does_versionNow (s : SessionId) :
    Program.Does Client.Outside t (versionNow s : Prog E K Nat) fun c v c' =>
      v = (c.core.session s).version ∧ Client.Idle c c' := by
  have hread : Program.Does Client.Outside t
      (Program.read fun c => (c.session s).version : Prog E K Nat) fun c v c' =>
        v = (c.core.session s).version ∧ Client.Idle c c' := by
    refine (Program.does_read _).mono ?_
    rintro c v c' ⟨rfl, rfl⟩
    rw [Client.session_core]
    exact ⟨rfl, .refl _⟩
  refine Client.does_locked s hread ?_
  rintro c u v w c' hbefore ⟨rfl, h⟩ hafter
  exact ⟨by rw [hbefore.core_eq], (hbefore.trans h).trans hafter⟩

/-- The small client with its document open on the server. -/
def smallOpened (text : Text) (kind : SyncKind) : Runtime (Client Unit) (Job Unit) :=
  ((Client.smallRuntime text kind).turn 100 ⟨1, tellOpened 0, [], false⟩).1

end Session

end LanguageClient
