import LanguageClient.Client.Calls
import LanguageClient.Proofs.Task.Solo
import LanguageClient.Proofs.Transport.Traffic
namespace LanguageClient

/-!
# The core of a client

A client without its connections and without the locks of its sessions. What a solo run makes of a
client is told as what it makes of the core and what it writes. From outside only the connections
change: servers take bytes off pipes, answer and go away.
-/

/-- A session that nobody holds. -/
def Session.unlocked (x : Session) : Session := { x with lock := Lock.free }

namespace Client

variable {E : Type}

def core (c : Client E) : Client E :=
  { c with wiring := Wiring.empty, sessions := ⟨c.sessions.entries.map Session.unlocked⟩ }

@[simp] theorem core_setWiring (c : Client E) (w : Wiring) : core { c with wiring := w } = core c :=
  rfl

@[simp] theorem core_modifyWiring (c : Client E) (f : Wiring → Wiring) :
    core (HasWiring.modify f c) = core c := rfl

@[simp] theorem core_visitWiring {β : Type} (c : Client E) (f : Wiring → Wiring × β) :
    core (HasWiring.visit f c).1 = core c := rfl

@[simp] theorem core_wakeAll (c : Client E) (ts : List TaskId) :
    core (HasAgenda.wakeAll ts c) = core c := rfl

@[simp] theorem core_updateEditor (c : Client E) (f : Editor → Editor) :
    core (c.updateEditor f) = (core c).updateEditor f := rfl

@[simp] theorem session_core (c : Client E) (s : SessionId) :
    (core c).session s = (c.session s).unlocked := by
  simp only [core, session, Store.get, Store.get?, List.getElem?_map]
  cases c.sessions.entries[s]? <;> rfl

@[simp] theorem text_core (c : Client E) (s : SessionId) : (core c).text s = c.text s := by
  unfold text
  rw [session_core]
  rfl

@[simp] theorem access?_core (c : Client E) (s : SessionId) : (core c).access? s = c.access? s := by
  unfold access?
  rw [session_core]
  rfl

theorem core_updateSession (c : Client E) (s : SessionId) {f g : Session → Session}
    (h : ∀ x, (f x).unlocked = g x.unlocked) :
    core (c.updateSession s f) = (core c).updateSession s g := by
  simp only [core, updateSession, Store.update, mk.injEq, Store.mk.injEq, and_true, true_and]
  refine List.ext_getElem? fun i => ?_
  simp only [List.getElem?_map, List.getElem?_modify]
  cases c.sessions.entries[i]? with
  | none => rfl
  | some x => by_cases hi : s = i <;> simp [hi, h]

theorem updateSession_id (c : Client E) (s : SessionId) : c.updateSession s id = c := by
  simp [updateSession, Store.update]

theorem core_updateSession_of_unlocked (c : Client E) (s : SessionId) {f : Session → Session}
    (h : ∀ x, (f x).unlocked = x.unlocked) : core (c.updateSession s f) = core c := by
  rw [core_updateSession c s (g := id) h, updateSession_id]

theorem session_updateSession (c : Client E) (s r : SessionId) (f : Session → Session) :
    (c.updateSession s f).session r = c.session r ∨
      r = s ∧ (c.updateSession s f).session r = f (c.session s) :=
  Store.get_update c.sessions s r f

theorem session_updateSession_self {c : Client E} {s : SessionId} (h : (c.sessions.get? s).isSome)
    (f : Session → Session) : (c.updateSession s f).session s = f (c.session s) :=
  Store.get_update_of_isSome h f

/-! ## Changes from outside -/

/-- The connections change, but the client writes nothing and nobody opens a broken pipe again. -/
structure Outside (c c' : Client E) : Prop where
  eq : c' = { c with wiring := c'.wiring }
  unwritten : c.wiring.Unwritten c'.wiring

theorem Outside.core_eq {c c' : Client E} (h : Outside c c') : core c' = core c := by
  rw [h.eq]
  rfl

theorem Outside.session_eq {c c' : Client E} (h : Outside c c') (s : SessionId) :
    c'.session s = c.session s := by
  rw [h.eq]
  rfl

theorem steady_sessionLock (s : SessionId) :
    (sessionLock s : Lock.Place (Client E)).Steady Outside where
  read_outside h := by
    simp only [sessionLock]
    rw [h.session_eq]
  read_write lock c := by
    rcases session_updateSession c s s fun x => { x with lock } with h | ⟨_, h⟩
    · exact .inr (congrArg Session.lock h)
    · exact .inl (congrArg Session.lock h)

/-- The core stays and nothing is written. -/
structure Idle (c c' : Client E) : Prop where
  core_eq : c'.core = c.core
  unwritten : c.wiring.Unwritten c'.wiring

namespace Idle

theorem refl (c : Client E) : Idle c c := ⟨rfl, .refl _⟩

theorem trans {c d e : Client E} (h : Idle c d) (k : Idle d e) : Idle c e :=
  ⟨k.core_eq.trans h.core_eq, h.unwritten.trans k.unwritten⟩

/-- What is written in between is all that is written. -/
theorem wrote {l : LinkId} {p : PipeId} {bytes : Bytes} {c u v c' : Client E} (hbefore : Idle c u)
    (h : Wiring.Wrote l p bytes u.wiring v.wiring) (hafter : Idle v c') :
    Wiring.Wrote l p bytes c.wiring c'.wiring := by
  have h := ((hbefore.unwritten.wrote l p).trans h).trans (hafter.unwritten.wrote l p)
  rwa [List.nil_append, List.append_nil] at h

end Idle

theorem idle_acquire (s : SessionId) (t : TaskId) (c : Client E) :
    Idle c ((sessionLock s).acquire t c).1 :=
  ⟨core_updateSession_of_unlocked c s fun _ => rfl, .of_eq rfl rfl rfl⟩

theorem idle_release (s : SessionId) (c : Client E) : Idle c ((sessionLock s).release c) := by
  refine ⟨?_, .of_eq rfl rfl rfl⟩
  simp only [Lock.Place.release, core_wakeAll]
  exact core_updateSession_of_unlocked c s fun _ => rfl

/-- Taking the lock of a session and giving it back is nothing to the core. -/
theorem does_locked {K β : Type} {t : TaskId} (s : SessionId) {p : Prog E K β}
    {R : Client E → β → Client E → Prop} (hp : Program.Does Outside t p R)
    (hR : ∀ c u b v c', Idle c u → R u b v → Idle v c' → R c b c') :
    Program.Does Outside t (Program.locked (sessionLock s) p) R := by
  refine (Program.Does.locked (steady_sessionLock s) hp).mono ?_
  rintro c b c' ⟨u, v, hu, h, rfl⟩
  obtain rfl : u = ((sessionLock s).acquire t c).1 := (congrArg Prod.fst hu).symm
  exact hR _ _ _ _ _ (idle_acquire s t c) h (idle_release s v)

/-! ## A small client -/

/-- A document without a name, in the first buffer. -/
def smallDocument : OpenDocument := ⟨"", [], [], 0⟩

/-- The access to a server that takes changes of one kind. -/
def smallAccess (kind : SyncKind) : Access :=
  ⟨0, 0, 0, ⟨Json.object [("textDocumentSync", .int kind)]⟩⟩

/-- A client with one document that is connected to a started server but not open on it. -/
def small (text : Text) (kind : SyncKind) : Client Unit :=
  { new () with
    wiring := { Wiring.empty with
      pipes := ⟨[Pipe.open_, Pipe.open_]⟩
      links := ⟨[Link.new 0 1]⟩ }
    editor := { Editor.new with buffers := ⟨[Buffer.new text]⟩ }
    servers := ⟨[{ Server.new ⟨[], [], .rawCommand [], none⟩ [] with
      status := .started
      access := some (smallAccess kind) }]⟩
    sessions := ⟨[Session.new smallDocument [] 0]⟩
    index := ⟨[("", ⟨0, 0⟩)]⟩ }

/-- The small client at the start of a run. -/
def smallRuntime (text : Text) (kind : SyncKind) : Runtime (Client Unit) (Job Unit) :=
  Runtime.start (small text kind) fun _ => .done ()

end Client

end LanguageClient
