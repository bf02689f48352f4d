import LanguageClient.Proofs.Session.Sync
import LanguageClient.Proofs.Text.Offset
namespace LanguageClient

/-!
# The server's copy of a document

A server that takes the text it is told when a document is opened, and from then on replays every
change it is told of, has at any time the text of the buffer. What is kept between an edit and its
report makes up the difference: replayed on the copy, it gives the buffer.
-/

theorem Buffer.text_replace {b : Buffer} {x m y : Text} (h : b.text = x ++ m ++ y) (new : Text) :
    (b.replace (Text.byteLength x) (Text.byteLength x + Text.byteLength m) new).text =
      x ++ new ++ y := by
  have hlength : Text.byteLength b.text =
      Text.byteLength x + Text.byteLength m + Text.byteLength y := by
    rw [h, Text.byteLength_append, Text.byteLength_append]
  have hstart : Text.IsBoundary b.text (Text.byteLength x) := by
    rw [h, List.append_assoc]
    exact Text.isBoundary_append x (m ++ y)
  have hstop : Text.IsBoundary b.text (Text.byteLength x + Text.byteLength m) := by
    rw [h, ← Text.byteLength_append]
    exact Text.isBoundary_append (x ++ m) y
  simp only [Buffer.replace]
  rw [Nat.min_eq_left (by omega), Nat.min_eq_left (by omega), if_pos ⟨hstart, hstop⟩]
  dsimp only
  rw [h, Text.splice_append]

namespace Session

variable {E K : Type} {t : TaskId}

/-- A session whose document is open on a server that takes its changes. Replaying on `copy` what
was kept for the server gives the text of the buffer. -/
structure Tracks (d : OpenDocument) (s : SessionId) (a : Access) (copy : Text) (c : Client E) :
    Prop where
  entered : ∃ entry, c.index.find? d.uri = some entry ∧ entry.session = s
  session : (c.sessions.get? s).isSome
  buffer : (c.editor.buffers.get? d.buffer).isSome
  sameUri : (c.session s).uri = d.uri
  sameBuffer : (c.session s).buffer = d.buffer
  isOpen : (c.session s).isOpen = true
  access : c.access? s = some a
  started : a.status c = .started
  kind : a.capabilities.syncKind = SyncKind.full ∨ a.capabilities.syncKind = SyncKind.incremental
  parts : a.capabilities.syncKind = SyncKind.incremental → (c.session s).pending ≠ .whole
  replays : ((c.session s).pending.contents (c.text s)).foldl ContentChange.replay copy = c.text s

namespace Tracks

variable {d : OpenDocument} {s : SessionId} {a : Access} {copy : Text} {c : Client E}

theorem syncAccess?_eq (h : Tracks d s a copy c) : syncAccess? s c = some a := by
  unfold syncAccess?
  rw [if_pos h.isOpen, h.access]

theorem follows (h : Tracks d s a copy c) : Follows a c := by
  refine ⟨h.started, ?_⟩
  rcases h.kind with hk | hk
  · rw [hk]
    decide
  · rw [hk]
    decide

end Tracks

theorem record_incremental (p : PendingChanges) (change : TextChange) (after : Text) :
    p.record SyncKind.incremental change after = match p with
      | .parts changes => .parts (changes ++ [ContentChange.incremental after change])
      | _ => .parts [ContentChange.incremental after change] :=
  rfl

/-- A recorded change is replayed after those that were kept before. -/
theorem replay_record {kind : SyncKind} {p : PendingChanges} {copy before : Text}
    {change : TextChange} (hkind : kind = SyncKind.full ∨ kind = SyncKind.incremental)
    (hparts : kind = SyncKind.incremental → p ≠ .whole)
    (hreplays : (p.contents before).foldl ContentChange.replay copy = before)
    (hfits : change.Fits before) :
    ((p.record kind change (change.applied before)).contents
      (change.applied before)).foldl ContentChange.replay copy = change.applied before := by
  rcases hkind with rfl | rfl
  · rfl
  · have hreplay := ContentChange.replay_incremental hfits
    rw [record_incremental]
    cases p with
    | none =>
        have hcopy : copy = before := hreplays
        simpa [PendingChanges.contents, hcopy] using hreplay
    | whole => exact absurd rfl (hparts rfl)
    | parts changes =>
        have hcopy : changes.foldl ContentChange.replay copy = before := hreplays
        simpa [PendingChanges.contents, List.foldl_append, hcopy] using hreplay

theorem record_ne_whole (p : PendingChanges) (change : TextChange) (after : Text) :
    p.record SyncKind.incremental change after ≠ .whole := by
  rw [record_incremental]
  cases p <;> simp

/-! ## Steps on the core -/

section Steps

variable {d : OpenDocument} {s : SessionId} {a : Access} {copy : Text} {c : Client E}

theorem text_updateBuffer {f : Buffer → Buffer} (h : Tracks d s a copy c) :
    (c.updateEditor fun e => e.updateBuffer d.buffer f).text s =
      (f (c.editor.buffers.get d.buffer)).text := by
  have hbuffer : ((c.updateEditor fun e => e.updateBuffer d.buffer f).session s).buffer =
      d.buffer := h.sameBuffer
  unfold Client.text
  rw [hbuffer]
  exact congrArg Buffer.text (Store.get_update_of_isSome h.buffer f)

theorem text_eq_buffer (h : Tracks d s a copy c) :
    c.text s = (c.editor.buffers.get d.buffer).text := by
  unfold Client.text
  rw [h.sameBuffer]
  rfl

/-- A change made in the buffer and kept for the server. -/
theorem tracks_change {change : TextChange} {f : Buffer → Buffer} {e : Client E}
    (h : Tracks d s a copy c) (hfits : change.Fits (c.text s))
    (hf : (f (c.editor.buffers.get d.buffer)).text = change.applied (c.text s))
    (he : e = recordChange s a change (c.updateEditor fun e => e.updateBuffer d.buffer f)) :
    Tracks d s a copy e ∧ e.text s = change.applied (c.text s) := by
  have htext : (c.updateEditor fun e => e.updateBuffer d.buffer f).text s =
      change.applied (c.text s) := by
    rw [text_updateBuffer h, hf]
  have hsession : e.session s = { c.session s with
      pending := (c.session s).pending.record a.capabilities.syncKind change
        (change.applied (c.text s)) } := by
    rw [he, recordChange, htext]
    exact Client.session_updateSession_self
      (c := c.updateEditor fun e => e.updateBuffer d.buffer f) h.session _
  have htext' : e.text s = change.applied (c.text s) := by
    rw [← htext]
    unfold Client.text
    rw [hsession, he]
    rfl
  refine ⟨?_, htext'⟩
  exact {
    entered := by
      rw [he]
      exact h.entered
    session := by
      rw [he]
      simpa [recordChange, Client.updateSession, Client.updateEditor] using h.session
    buffer := by
      rw [he]
      simpa [recordChange, Client.updateSession, Client.updateEditor, Editor.updateBuffer]
        using h.buffer
    sameUri := by
      rw [hsession]
      exact h.sameUri
    sameBuffer := by
      rw [hsession]
      exact h.sameBuffer
    isOpen := by
      rw [hsession]
      exact h.isOpen
    access := by
      unfold Client.access?
      rw [hsession, he]
      exact h.access
    started := by
      rw [he]
      exact h.started
    kind := h.kind
    parts := fun hk => by
      rw [hsession, hk]
      exact record_ne_whole _ _ _
    replays := by
      rw [htext', hsession]
      exact replay_record h.kind h.parts h.replays hfits }

theorem tracks_makeEdit (h : Tracks d s a copy c) (e : TextEdit) :
    Tracks d s a copy (makeEdit s (some a) e c) := by
  obtain ⟨x, m, y, htext, hoffsets⟩ := Text.exists_offsets (c.text s) e.range
  have hslice : (c.text s).slice (Text.byteLength x) (Text.byteLength x + Text.byteLength m) =
      m := by
    rw [htext, Text.slice_append]
  have hmake : makeEdit s (some a) e c = recordChange s a ⟨Text.byteLength x, m, e.newText⟩
      (c.updateEditor fun ed => ed.updateBuffer d.buffer
        (·.replace (Text.byteLength x) (Text.byteLength x + Text.byteLength m) e.newText)) := by
    unfold makeEdit
    simp only [hoffsets, hslice, h.sameBuffer]
  have hfits : TextChange.Fits ⟨Text.byteLength x, m, e.newText⟩ (c.text s) := ⟨x, y, htext, rfl⟩
  refine (tracks_change h hfits ?_ hmake).1
  rw [htext, TextChange.applied_append]
  refine Buffer.text_replace ?_ e.newText
  rw [← text_eq_buffer h, htext]

theorem tracks_edited (h : Tracks d s a copy c) (edits : List TextEdit) :
    Tracks d s a copy (edited s edits c) := by
  unfold edited
  rw [h.syncAccess?_eq]
  generalize lastFirst (c.text s) edits = ordered
  induction ordered generalizing c with
  | nil => exact h
  | cons e ordered ih => exact ih (tracks_makeEdit h e)

/-- Once the server is told what was kept, its copy is the text of the buffer. -/
theorem tracks_flushed (h : Tracks d s a copy c) :
    Tracks d s a (c.text s) (flushed s c) ∧ (flushed s c).text s = c.text s ∧
      ((news s c).flatMap (·.2)).foldl ContentChange.replay copy = c.text s := by
  have hsession : (flushed s c).session s = ((c.session s).takePending (c.text s)).1 :=
    Client.session_updateSession_self h.session _
  have htaken : ((c.session s).takePending (c.text s)).1 = { c.session s with
      pending := .none
      version := ((c.session s).takePending (c.text s)).1.version } := by
    unfold takePending
    split <;> rfl
  rw [htaken] at hsession
  have htext : (flushed s c).text s = c.text s := by
    unfold Client.text
    rw [hsession]
    rfl
  have hnews : (news s c).flatMap (·.2) = (c.session s).pending.contents (c.text s) := by
    unfold news takePending
    cases (c.session s).pending.contents (c.text s) with
    | nil => rfl
    | cons change changes => simp
  refine ⟨?_, htext, by rw [hnews, h.replays]⟩
  exact {
    entered := h.entered
    session := by simpa [flushed, Client.updateSession] using h.session
    buffer := h.buffer
    sameUri := by
      rw [hsession]
      exact h.sameUri
    sameBuffer := by
      rw [hsession]
      exact h.sameBuffer
    isOpen := by
      rw [hsession]
      exact h.isOpen
    access := by
      unfold Client.access?
      rw [hsession]
      exact h.access
    started := h.started
    kind := h.kind
    parts := fun _ => by
      rw [hsession]
      simp
    replays := by
      rw [hsession, htext]
      rfl }

end Steps

/-! ## Operations -/

/-- What happens to an open document: the user edits it, or edits are made for somebody else. -/
inductive Operation where
  | edit (change : TextChange)
  | apply (edits : List TextEdit)

namespace Operation

def perform (d : OpenDocument) (s : SessionId) : Operation → Prog E K Unit
  | .edit change => Session.edit d change
  | .apply edits => do let _ ← applyEdits s edits none

/-- A user removes what stands in the text. -/
def Fits (text : Text) : Operation → Prop
  | .edit change => change.Fits text
  | .apply _ => True

end Operation

/-- The server of a session is brought from the text before to the text after. -/
structure Brings (d : OpenDocument) (s : SessionId) (a : Access) (c c' : Client E) : Prop where
  tracks : Tracks d s a (c'.text s) c'.core
  told : ∃ told : List (Nat × List ContentChange),
    (∀ p, Wiring.Wrote a.link p (told.flatMap (changeFrame d.uri)) c.wiring c'.wiring) ∧
      (told.flatMap (·.2)).foldl ContentChange.replay (c.text s) = c'.text s

theorem brings_of_flushes {d : OpenDocument} {s : SessionId} {a : Access} {c c' e : Client E}
    (h : Tracks d s a (c.text s) e) (hf : Flushes s a e c c') : Brings d s a c c' := by
  obtain ⟨htracks, htext, hreplay⟩ := tracks_flushed h
  have hc' : c'.text s = e.text s := by
    rw [← Client.text_core c', hf.core_eq, htext]
  refine ⟨?_, news s e, ?_, ?_⟩
  · rw [hf.core_eq, hc']
    exact htracks
  · have hwrote := hf.wrote h.follows
    rwa [h.sameUri] at hwrote
  · rw [hc']
    exact hreplay

theorem does_edit {d : OpenDocument} {s : SessionId} (change : TextChange) :
    Program.Does Client.Outside t (edit d change : Prog E K Unit) fun c _ c' =>
      ∀ a, Tracks d s a (c.text s) c.core → change.Fits (c.text s) → Brings d s a c c' := by
  refine ((Program.does_modify _).bind (S := fun _ u _ c' => ∀ entry,
    u.index.find? d.uri = some entry → Reports entry.session change u c') fun _ => ?_).mono ?_
  · refine ((Program.does_read _).bind (S := fun found u _ c' => ∀ entry,
      found = some entry → Reports entry.session change u c') fun found => ?_).mono ?_
    · cases found with
      | none =>
          refine (Program.does_done _).mono ?_
          rintro u _ c' _ entry h
          exact nomatch h
      | some entry =>
          refine (does_tellChanged entry.session change).mono ?_
          rintro u _ c' h _ ⟨⟩
          exact h
    · rintro u _ c' ⟨found, v, ⟨rfl, rfl⟩, h⟩ entry hentry
      exact h entry hentry
  · rintro c _ c' ⟨_, u, rfl, h⟩ a htracks hfits
    obtain ⟨entry, hentry, rfl⟩ := htracks.entered
    have hreports := h entry hentry
    unfold Reports at hreports
    have haccess : syncAccess? entry.session (c.updateEditor fun e =>
        e.updateBuffer d.buffer fun b => b.replace change.offset
          (change.offset + Text.byteLength change.removed) change.inserted).core = some a :=
      htracks.syncAccess?_eq
    rw [haccess] at hreports
    obtain ⟨offset, removed, inserted⟩ := change
    obtain ⟨x, y, htext, rfl⟩ := hfits
    rw [← Client.text_core] at htext
    refine brings_of_flushes (tracks_change htracks ⟨x, y, htext, rfl⟩ ?_ rfl).1
      ⟨hreports.core_eq, hreports.wrote⟩
    rw [htext, TextChange.applied_append]
    refine Buffer.text_replace ?_ inserted
    rw [← text_eq_buffer htracks, htext]

theorem does_perform {d : OpenDocument} {s : SessionId} (o : Operation) :
    Program.Does Client.Outside t (o.perform d s : Prog E K Unit) fun c _ c' =>
      ∀ a, Tracks d s a (c.text s) c.core → o.Fits (c.text s) → Brings d s a c c' := by
  cases o with
  | edit change => exact does_edit change
  | apply edits =>
      refine ((does_applyEdits s edits none).bind fun _ => Program.does_done ()).mono ?_
      rintro c _ c' ⟨r, u, hu, _, rfl⟩ a htracks _
      have hr : r = true := hu.result
      have hmade := hu.made hr
      rw [htracks.syncAccess?_eq] at hmade
      exact brings_of_flushes (tracks_edited htracks edits) hmade

/-! ## Opening -/

/-- A session that is not open yet, of a document in the editor, connected to a server that has
been started and takes open documents and their changes. -/
structure Ready (d : OpenDocument) (s : SessionId) (a : Access) (p : PipeId) (c : Client E) :
    Prop where
  entered : ∃ entry, c.index.find? d.uri = some entry ∧ entry.session = s
  session : (c.sessions.get? s).isSome
  buffer : (c.editor.buffers.get? d.buffer).isSome
  sameUri : (c.session s).uri = d.uri
  sameBuffer : (c.session s).buffer = d.buffer
  unopened : (c.session s).opened = false
  unclosed : (c.session s).closed = false
  pending : (c.session s).pending = .none
  access : c.access? s = some a
  started : a.status c = .started
  openClose : a.capabilities.openClose = true
  kind : a.capabilities.syncKind = SyncKind.full ∨ a.capabilities.syncKind = SyncKind.incremental
  onLine : c.wiring.OnLine a.link p

/-- The frame that tells a server that a document is open. -/
def openFrame (x : Session) (text : Text) : Bytes :=
  (OutgoingMessage.notification Feature.didOpen.method
    (some (Params.didOpen x.uri x.languageId x.version text))).frame

/-- A session that is marked as open. -/
def marked (s : SessionId) (c : Client E) : Client E :=
  c.updateSession s fun x => { x with opened := true }

theorem core_marked (s : SessionId) (c : Client E) : (marked s c).core = marked s c.core :=
  Client.core_updateSession c s fun _ => rfl

theorem tracks_marked {d : OpenDocument} {s : SessionId} {a : Access} {p : PipeId} {c : Client E}
    (h : Ready d s a p c) :
    Tracks d s a (c.text s) (marked s c) ∧ (marked s c).text s = c.text s := by
  have hsession : (marked s c).session s = { c.session s with opened := true } :=
    Client.session_updateSession_self h.session _
  have htext : (marked s c).text s = c.text s := by
    unfold Client.text
    rw [hsession]
    rfl
  refine ⟨?_, htext⟩
  exact {
    entered := h.entered
    session := by simpa [marked, Client.updateSession] using h.session
    buffer := h.buffer
    sameUri := by
      rw [hsession]
      exact h.sameUri
    sameBuffer := by
      rw [hsession]
      exact h.sameBuffer
    isOpen := by
      rw [hsession]
      simp [isOpen, h.unclosed]
    access := by
      unfold Client.access?
      rw [hsession]
      exact h.access
    started := h.started
    kind := h.kind
    parts := fun _ => by
      rw [hsession, h.pending]
      simp
    replays := by
      rw [hsession, htext, h.pending]
      rfl }

theorem Tracks.core {d : OpenDocument} {s : SessionId} {a : Access} {copy : Text} {c : Client E}
    (h : Tracks d s a copy c) : Tracks d s a copy c.core where
  entered := h.entered
  session := by
    have hsession := h.session
    simp only [Client.core, Store.get?, List.getElem?_map, Option.isSome_map] at hsession ⊢
    exact hsession
  buffer := h.buffer
  sameUri := by
    rw [Client.session_core]
    exact h.sameUri
  sameBuffer := by
    rw [Client.session_core]
    exact h.sameBuffer
  isOpen := by
    rw [Client.session_core]
    exact h.isOpen
  access := by
    rw [Client.access?_core]
    exact h.access
  started := h.started
  kind := h.kind
  parts := by
    rw [Client.session_core]
    exact h.parts
  replays := by
    rw [Client.session_core, Client.text_core]
    exact h.replays

/-- What opening a document on its server makes of the client, and what is written. -/
def Opens (s : SessionId) (c c' : Client E) : Prop :=
  (c.core.session s).opened = false → (c.core.session s).closed = false →
    ∀ a, c.core.access? s = some a → a.status c.core = .started → a.capabilities.openClose = true →
      (marked s c.core).access? s = some a →
      c'.core = marked s c.core ∧ ∀ p, Wiring.Wrote a.link p
        (openFrame (c.core.session s) ((marked s c.core).text s)) c.wiring c'.wiring

/-- The message itself, once it is clear that there is one. -/
theorem does_tellText (s : SessionId) (x : Session) : Program.Does Client.Outside t
    ((Program.read (·.access? s)).bind fun access => match access with
      | none => .done ()
      | some a => (Program.read (·.text s)).bind fun text =>
        a.tell .didOpen (Params.didOpen x.uri x.languageId x.version text) : Prog E K Unit)
    fun c _ c' => ∀ a, c.access? s = some a → a.status c = .started →
      a.capabilities.openClose = true → c'.core = c.core ∧
        ∀ p, Wiring.Wrote a.link p (openFrame x (c.text s)) c.wiring c'.wiring := by
  refine ((Program.does_read _).bind (S := fun access c _ c' => ∀ a, access = some a →
    a.status c = .started → a.capabilities.openClose = true → c'.core = c.core ∧
      ∀ p, Wiring.Wrote a.link p (openFrame x (c.text s)) c.wiring c'.wiring)
    fun access => ?_).mono ?_
  · cases access with
    | none =>
        refine (Program.does_done _).mono ?_
        rintro c _ c' _ a ⟨⟩
    | some b =>
        refine ((Program.does_read _).bind fun text =>
          Client.does_tell b (f := .didOpen) rfl _).mono ?_
        rintro c _ c' ⟨text, u, ⟨rfl, rfl⟩, h⟩ a ⟨⟩ hstarted hopen
        refine ⟨h.core_eq, fun p => h.wrote ?_ p⟩
        have hadmits : b.gate.admits (J := Job Unit) .didOpen
            (Params.didOpen x.uri x.languageId x.version (u.text s)) u =
              (b.status u == .started && b.capabilities.openClose) := rfl
        rw [hadmits, hstarted, hopen]
        rfl
  · rintro c _ c' ⟨access, u, ⟨rfl, rfl⟩, h⟩
    exact h

theorem does_tellOpened (s : SessionId) :
    Program.Does Client.Outside t (tellOpened s : Prog E K Unit) fun c _ c' => Opens s c c' := by
  have hbody : Program.Does Client.Outside t
      ((Program.read (·.session s)).bind fun x =>
        if x.opened || x.closed then .done ()
        else (Program.modify (marked s)).bind fun _ =>
          (Program.read (·.access? s)).bind fun access => match access with
            | none => .done ()
            | some a => (Program.read (·.text s)).bind fun text =>
              a.tell .didOpen (Params.didOpen x.uri x.languageId x.version text) : Prog E K Unit)
      fun c _ c' => Opens s c c' := by
    refine ((Program.does_read _).bind (S := fun x c _ c' => x = c.session s → Opens s c c')
      fun x => ?_).mono ?_
    · by_cases hx : (x.opened || x.closed) = true
      · rw [if_pos hx]
        refine (Program.does_done _).mono ?_
        rintro c _ c' _ rfl hopened hclosed
        rw [Client.session_core] at hopened hclosed
        have hopened : (c.session s).opened = false := hopened
        have hclosed : (c.session s).closed = false := hclosed
        simp [hopened, hclosed] at hx
      · rw [if_neg hx]
        refine ((Program.does_modify _).bind fun _ => does_tellText s x).mono ?_
        rintro c _ c' ⟨_, u, rfl, h⟩ rfl _ _ a _ hstarted hopen haccess
        rw [← core_marked, Client.access?_core] at haccess
        obtain ⟨hcore, hwrote⟩ := h a haccess hstarted hopen
        refine ⟨hcore.trans (core_marked s c), fun p => ?_⟩
        rw [← core_marked, Client.text_core, Client.session_core]
        exact hwrote p
    · rintro c _ c' ⟨x, u, ⟨rfl, rfl⟩, h⟩
      exact h rfl
  refine Client.does_locked s hbody ?_
  intro c u _ v c' hbefore h hafter
  unfold Opens at h ⊢
  rw [hbefore.core_eq] at h
  intro hopened hclosed a ha hstarted hopen haccess
  obtain ⟨hcore, hwrote⟩ := h hopened hclosed a ha hstarted hopen haccess
  exact ⟨hafter.core_eq.trans hcore, fun p => hbefore.wrote (hwrote p) hafter⟩

theorem opens_of_ready {d : OpenDocument} {s : SessionId} {a : Access} {p : PipeId}
    {c c' : Client E} (h : Opens s c c') (hready : Ready d s a p c) :
    c'.core = (marked s c).core ∧ ∀ p, Wiring.Wrote a.link p
      (openFrame (c.session s) (c.text s)) c.wiring c'.wiring := by
  obtain ⟨htracks, htext⟩ := tracks_marked hready
  unfold Opens at h
  rw [Client.session_core, Client.access?_core, ← core_marked, Client.access?_core,
    Client.text_core, htext] at h
  exact h hready.unopened hready.unclosed a hready.access hready.started hready.openClose
    htracks.access

/-! ## Histories -/

/-- Operations on a document, one after another; the servers go on in between. -/
inductive Edits (d : OpenDocument) (s : SessionId) :
    Runtime (Client E) (Job K) → List Operation → Runtime (Client E) (Job K) → Prop where
  | nil (rt : Runtime (Client E) (Job K)) : Edits d s rt [] rt
  | outside {rt rt' : Runtime (Client E) (Job K)} {w : Client E} {os : List Operation}
      (h : Client.Outside rt.world w) (rest : Edits d s { rt with world := w } os rt') :
      Edits d s rt os rt'
  | cons {rt rt₁ rt' : Runtime (Client E) (Job K)} {t : TaskId} {n : Nat} {o : Operation}
      {os : List Operation} (hfits : o.Fits (rt.world.text s))
      (hran : Runtime.Ran Client.Outside n rt ⟨t, o.perform d s, [], false⟩ rt₁ ())
      (rest : Edits d s rt₁ os rt') : Edits d s rt (o :: os) rt'

theorem brings_of_edits {d : OpenDocument} {s : SessionId} {a : Access}
    {rt rt' : Runtime (Client E) (Job K)} {os : List Operation} (h : Edits d s rt os rt')
    (htracks : Tracks d s a (rt.world.text s) rt.world.core) :
    Brings d s a rt.world rt'.world := by
  induction h with
  | nil rt =>
      exact ⟨htracks, [], fun p => (Wiring.Unwritten.refl _).wrote a.link p, rfl⟩
  | @outside rt rt' w os h rest ih =>
      have htext : w.text s = rt.world.text s := by
        rw [← Client.text_core, h.core_eq, Client.text_core]
      obtain ⟨htracks', told, hwrote, hreplay⟩ := ih (by
        rw [htext, h.core_eq]
        exact htracks)
      refine ⟨htracks', told, fun p => ?_, ?_⟩
      · exact (h.unwritten.wrote a.link p).trans (hwrote p)
      · rw [← htext]
        exact hreplay
  | cons hfits hran rest ih =>
      obtain ⟨htracks₁, told₁, hwrote₁, hreplay₁⟩ := (does_perform _).ran hran a htracks hfits
      obtain ⟨htracks', told, hwrote, hreplay⟩ := ih htracks₁
      refine ⟨htracks', told₁ ++ told, fun p => ?_, ?_⟩
      · rw [List.flatMap_append]
        exact (hwrote₁ p).trans (hwrote p)
      · rw [List.flatMap_append, List.foldl_append, hreplay₁, hreplay]

/-- A server's copy of a document is the text of its buffer after every operation: what went over
the pipe is the text the document was opened with, and changes that lead from it to that text. -/
theorem mirror_eq_text {d : OpenDocument} {s : SessionId} {a : Access} {p : PipeId} {n : Nat}
    {rt rt₁ rt' : Runtime (Client E) (Job K)} {os : List Operation}
    (hready : Ready d s a p rt.world)
    (hopened : Runtime.Ran Client.Outside n rt ⟨t, tellOpened s, [], false⟩ rt₁ ())
    (hedits : Edits d s rt₁ os rt') (htakes : rt'.world.wiring.takes p) :
    ∃ told : List (Nat × List ContentChange),
      rt'.world.wiring.carried p = rt.world.wiring.carried p ++
        openFrame (rt.world.session s) (rt.world.text s) ++ told.flatMap (changeFrame d.uri) ∧
      (told.flatMap (·.2)).foldl ContentChange.replay (rt.world.text s) = rt'.world.text s := by
  obtain ⟨htracks, htext⟩ := tracks_marked hready
  obtain ⟨hcore, hwrote₀⟩ := opens_of_ready ((does_tellOpened s).ran hopened) hready
  have htext₁ : rt₁.world.text s = rt.world.text s := by
    rw [← Client.text_core, hcore, Client.text_core, htext]
  obtain ⟨_, told, hwrote, hreplay⟩ := brings_of_edits hedits (by
    rw [htext₁, hcore]
    exact htracks.core)
  refine ⟨told, ?_, by rw [← htext₁]; exact hreplay⟩
  obtain ⟨_, hcarried⟩ := ((hwrote₀ p).trans (hwrote p)) hready.onLine
  rw [List.append_assoc]
  exact (hcarried htakes).2

/-- The small client after an insertion by the user. -/
def smallInserted : Runtime (Client Unit) (Job Unit) :=
  ((smallOpened ['a', 'c'] SyncKind.incremental).turn 100
    ⟨1, (Operation.edit ⟨1, [], ['b']⟩).perform Client.smallDocument 0, [], false⟩).1

theorem mirror_eq_text_insertion :
    ∃ told : List (Nat × List ContentChange),
      smallInserted.world.wiring.carried 1 =
        (Client.small ['a', 'c'] SyncKind.incremental).wiring.carried 1 ++
          openFrame (Session.new Client.smallDocument [] 0) ['a', 'c'] ++
          told.flatMap (changeFrame "") ∧
      (told.flatMap (·.2)).foldl ContentChange.replay ['a', 'c'] = smallInserted.world.text 0 := by
  obtain ⟨n, hopened⟩ : ∃ n, Runtime.Ran Client.Outside n
      (Client.smallRuntime ['a', 'c'] SyncKind.incremental) ⟨1, tellOpened 0, [], false⟩
      (smallOpened ['a', 'c'] SyncKind.incremental) () := Runtime.exists_ran (by decide +kernel)
  obtain ⟨m, hinserted⟩ : ∃ n, Runtime.Ran Client.Outside n
      (smallOpened ['a', 'c'] SyncKind.incremental) ⟨1, (Operation.edit ⟨1, [], ['b']⟩).perform Client.smallDocument
        0, [], false⟩ smallInserted () := Runtime.exists_ran (by decide +kernel)
  have hfits : (Operation.edit ⟨1, [], ['b']⟩).Fits
      ((smallOpened ['a', 'c'] SyncKind.incremental).world.text 0) := by
    have htext : (smallOpened ['a', 'c'] SyncKind.incremental).world.text 0 = ['a', 'c'] := by
      decide +kernel
    rw [htext]
    exact ⟨['a'], ['c'], rfl, rfl⟩
  have hready : Ready Client.smallDocument 0 (Client.smallAccess SyncKind.incremental) 1
      (Client.smallRuntime ['a', 'c'] SyncKind.incremental).world :=
    { entered := ⟨⟨0, 0⟩, by decide +kernel, rfl⟩
      session := rfl
      buffer := rfl
      sameUri := rfl
      sameBuffer := rfl
      unopened := rfl
      unclosed := rfl
      pending := rfl
      access := rfl
      started := rfl
      openClose := by decide +kernel
      kind := .inr (by decide +kernel)
      onLine := ⟨rfl, rfl⟩ }
  exact mirror_eq_text hready hopened (.cons hfits hinserted (.nil _)) (by decide +kernel)

end Session

end LanguageClient
