import LanguageClient.Proofs.Server.Ledger
import LanguageClient.Proofs.Client.Core
import LanguageClient.Proofs.Task.View
namespace LanguageClient

/-!
# The gist of a client

What a client has to show for itself to the task that works on one of its servers: the ledger without
the tasks that read, the sessions, the texts of the buffers, and the crashes that are put up with.
-/

variable {E K : Type} {α β : Type}

/-- The ledger without the tasks that read. -/
def Ledger.blind (L : Ledger) : Ledger := { L with readers := L.readers.map fun _ => none }

structure Gist where
  ledger : Ledger
  sessions : List Session
  text : BufferId → Text
  crashThreshold : Nat

namespace Gist

variable (g : Gist) (s : ServerId)

def server : Server := g.ledger.server s

def put (x : Server) : Gist := { g with ledger := g.ledger.put s x }

def said (l : LinkId) : List Link.Event := g.ledger.said l

def say (l : LinkId) (e : Link.Event) : Gist := { g with ledger := g.ledger.say l e }

/-- All of this is said on one link. -/
def sayAll (l : LinkId) (events : List Link.Event) : Gist :=
  { g with ledger := { g.ledger with
    transcript := g.ledger.transcript ++ events.map fun e => (l, e) } }

def session (session : SessionId) : Session := (g.sessions[session]?).getD default

/-- The number of links that there have been. -/
def links : Nat := g.ledger.readers.length

def addLink : Gist :=
  { g with ledger := { g.ledger with readers := g.ledger.readers ++ [none] } }

variable {g s}

theorem server_put_same {x : Server} (h : s < g.ledger.servers.length) : (g.put s x).server s = x :=
  g.ledger.server_put_same x h

theorem server_put_ne {r : ServerId} (x : Server) (h : s ≠ r) : (g.put s x).server r = g.server r :=
  g.ledger.server_put_ne x h

theorem put_server : g.put s (g.server s) = g := by
  rw [put, server, g.ledger.put_server]

theorem put_put (x y : Server) : (g.put s x).put s y = g.put s y := by
  simp only [put, Ledger.put, List.set_set]

/-- What a change of a session leaves as it was. -/
theorem session_modify_of_eq (x : SessionId) {f : Session → Session} (p : Session → β)
    (h : ∀ y, p (f y) = p y) :
    p ({ g with sessions := g.sessions.modify x f }.session x) = p (g.session x) := by
  simp only [session, List.getElem?_modify, if_true]
  cases g.sessions[x]? with
  | none => rfl
  | some y => exact h y

theorem said_say_same (l : LinkId) (e : Link.Event) : (g.say l e).said l = g.said l ++ [e] :=
  g.ledger.said_say_same l e

theorem said_say_ne {l r : LinkId} (e : Link.Event) (h : l ≠ r) : (g.say l e).said r = g.said r :=
  g.ledger.said_say_ne e h

theorem sayAll_nil (l : LinkId) : g.sayAll l [] = g := by
  simp [sayAll]

theorem sayAll_append (l : LinkId) (events : List Link.Event) (e : Link.Event) :
    g.sayAll l (events ++ [e]) = (g.sayAll l events).say l e := by
  simp [sayAll, say, Ledger.say]

theorem said_sayAll_same (l : LinkId) (events : List Link.Event) :
    (g.sayAll l events).said l = g.said l ++ events := by
  simp [said, sayAll, Ledger.said, List.filter_map, Function.comp_def]

theorem said_sayAll_ne {l r : LinkId} (events : List Link.Event) (h : l ≠ r) :
    (g.sayAll l events).said r = g.said r := by
  simp [said, sayAll, Ledger.said, List.filter_map, Function.comp_def, h]

end Gist

namespace Client

def gist (c : Client E) : Gist :=
  ⟨c.ledger.blind, c.sessions.entries.map Session.unlocked, c.editor.text, c.crashThreshold⟩

/-- The gist is what solo runs are seen by. -/
def gistView : View (Client E) Gist := ⟨gist, fun _ _ => rfl⟩

variable (c : Client E) (s : ServerId)

theorem server_gist : c.gist.server s = (c.server s).plain := c.server_ledger s

theorem links_gist : c.gist.links = c.wiring.links.entries.length := by
  simp [Gist.links, gist, Ledger.blind, ledger, Wiring.readers]

theorem session_gist (x : SessionId) : c.gist.session x = (c.session x).unlocked := by
  simp only [Gist.session, gist, List.getElem?_map, session, Store.get, Store.get?]
  cases c.sessions.entries[x]? <;> rfl

/-! ## Changes that do not matter -/

theorem gist_setWiring {w : Wiring} (hl : w.links.entries.length = c.wiring.links.entries.length)
    (ht : w.transcript = c.wiring.transcript) : gist { c with wiring := w } = c.gist := by
  have hreaders : (w.readers.map fun _ => (none : Option TaskId)) =
      c.wiring.readers.map fun _ => none := by
    simp only [List.map_const', Wiring.readers, List.length_map, hl]
  simp only [gist, ledger, Ledger.blind, hreaders, ht]

theorem gist_modifyWiring {f : Wiring → Wiring} (h : c.wiring.Quiet (f c.wiring)) :
    (HasWiring.modify f c).gist = c.gist := by
  have hlength : (f c.wiring).links.entries.length = c.wiring.links.entries.length := by
    simpa [Wiring.readers] using congrArg List.length h.1
  exact c.gist_setWiring hlength h.2

theorem gist_updateSession (x : SessionId) {f k : Session → Session} (huri : ∀ y, (f y).uri = y.uri)
    (h : ∀ y, (f y).unlocked = k y.unlocked) :
    (c.updateSession x f).gist = { c.gist with sessions := c.gist.sessions.modify x k } := by
  have hsessions : (c.updateSession x f).sessions.entries.map Session.unlocked =
      (c.sessions.entries.map Session.unlocked).modify x k := by
    refine List.ext_getElem? fun i => ?_
    simp only [updateSession, Store.update, List.getElem?_map, List.getElem?_modify]
    cases c.sessions.entries[i]? with
    | none => rfl
    | some y => by_cases hi : x = i <;> simp [hi, h]
  simp only [gist, c.ledger_updateSession x huri, hsessions]
  rfl

theorem gist_updateSession_of_unlocked (x : SessionId) {f : Session → Session}
    (h : ∀ y, (f y).unlocked = y.unlocked) : (c.updateSession x f).gist = c.gist := by
  have huri (y : Session) : (f y).unlocked.uri = y.unlocked.uri := by rw [h y]
  rw [c.gist_updateSession x (f := f) (k := id) huri h, List.modify_id]

/-! ## Servers -/

theorem gist_visitServer (f : Server → Server × β) :
    (c.visitServer s f).1.gist = c.gist.put s (f (c.server s)).1.plain := by
  have hledger := c.ledger_visitServer s f
  have hrest : (c.visitServer s f).1.gist =
      { c.gist with ledger := (c.visitServer s f).1.ledger.blind } := by
    unfold visitServer
    dsimp only
    split <;> rfl
  rw [hrest, hledger]
  rfl

theorem links_visitServer (f : Server → Server × β) :
    (c.visitServer s f).1.wiring.links = c.wiring.links := by
  unfold visitServer
  dsimp only
  split <;> rfl

theorem outside_visitServer (f : Server → Server × β) :
    (c.visitServer s f).1.outside = c.outside := by
  unfold visitServer
  dsimp only
  split <;> rfl

theorem gist_visitServer_of_commutes {f : Server → Server × β}
    (h : Server.Commutes fun x => (f x).1) :
    (c.visitServer s f).1.gist = c.gist.put s (f (c.gist.server s)).1 := by
  rw [gist_visitServer, server_gist]
  exact congrArg _ (h _)

theorem gist_updateServer_of_commutes {f : Server → Server} (h : Server.Commutes f) :
    (c.updateServer s f).gist = c.gist.put s (f (c.gist.server s)) :=
  c.gist_visitServer_of_commutes s (f := fun x => (f x, ())) h

theorem gist_updateServer_of_plain {f : Server → Server}
    (h : (f (c.server s)).plain = (c.server s).plain) : (c.updateServer s f).gist = c.gist := by
  refine (c.gist_visitServer s fun x => (f x, ())).trans ?_
  rw [h, ← server_gist, Gist.put_server]

theorem gist_addLink (link : Link) :
    (HasWiring.visit (·.addLink link) c).1.gist = c.gist.addLink := by
  have hreaders : ((c.wiring.addLink link).1.readers.map fun _ => (none : Option TaskId)) =
      (c.wiring.readers.map fun _ => none) ++ [none] := by
    simp [Wiring.readers, Wiring.addLink, Store.add]
  exact congrArg (fun readers => ({ c.gist with ledger := { c.gist.ledger with readers } } : Gist))
    hreaders

end Client

/-! ## Views that overlook the traffic -/

/-- What passes through pipes and promises is not seen, as long as nothing is handed to links and none
is ended. -/
def View.Overlooks {G : Type} (view : View (Client E) G) : Prop :=
  ∀ (c : Client E) {w : Wiring}, c.wiring.Passes w → view.see { c with wiring := w } = view.see c

namespace View.Overlooks

variable {G : Type} {view : View (Client E) G} {t : TaskId}

open Program

theorem visit (h : view.Overlooks) {f : Wiring → Wiring × α} (hf : ∀ w : Wiring, w.Passes (f w).1) :
    Program.Still view t (act (HasWiring.visit f) : Prog E K α) :=
  still_act fun c => h c (hf c.wiring)

theorem updateLink (h : view.Overlooks) (l : LinkId) {f : Link → Link}
    (hended : ∀ x, (f x).ends = x.ends) (c : Client E) :
    view.see (HasWiring.modify (·.updateLink l f) c) = view.see c :=
  h c (c.wiring.passes_updateLink l hended)

theorem write (h : view.Overlooks) (p : PipeId) (bytes : Bytes) :
    Program.Still view t (Program.write p bytes : Prog E K (Except ClientError Unit)) := by
  refine still_iterate (fun rest => still_await (fun c => ?_) fun _ => rfl) bytes
  exact h c (c.wiring.passes_offer p rest t)

theorem send (h : view.Overlooks) (l : LinkId) (m : OutgoingMessage) :
    Program.Still view t (Link.send l m : Prog E K (Except ClientError Unit)) := by
  refine Still.locked ?_ fun lock => h.updateLink l (f := fun link => { link with writing := lock })
    fun _ => rfl
  refine (still_read _).bind fun output => ?_
  cases output with
  | none => exact still_done _
  | some p => exact h.write p _

theorem notify (h : view.Overlooks) (l : LinkId) (method : String) (params : Json) :
    Program.Still view t (Link.notify l method params : Prog E K (Except ClientError Unit)) := by
  refine (still_read _).bind fun connected => ?_
  cases connected with
  | true => exact h.send l _
  | false => exact still_done _

theorem request (h : view.Overlooks) (l : LinkId) (method : String) (params : Json) :
    Program.Still view t (Link.request l method params : Prog E K (Except ClientError Json)) := by
  refine (h.visit fun w => w.passes_enterRequest l).bind fun entered => ?_
  cases entered with
  | none => exact still_done _
  | some entered =>
      obtain ⟨id, promise⟩ := entered
      refine Still.holding ?_ (h.updateLink l fun _ => rfl)
      refine (h.send l _).bind fun sent => ?_
      cases sent with
      | error e => exact still_done _
      | ok _ =>
          refine still_await (fun c => ?_) fun _ => rfl
          exact h c (.of_eq rfl rfl)

theorem stopReader (h : view.Overlooks) (l : LinkId) :
    Program.Still view t (Link.stopReader l : Prog E K Unit) := by
  refine (h.visit (f := Link.takeReader l) fun w => w.passes_updateLink l fun _ => rfl).bind
    fun task => ?_
  cases task with
  | none => exact still_done _
  | some task => exact still_stop task

/-- A request is handed to the link, and so is its outcome. -/
theorem solo_ask (h : view.Overlooks) {g : G} {Q : Except ClientError Json → G → Prop}
    {I : G → Prop} (l : LinkId) (method : String) (params : Json)
    (hasked : ∀ c, view.see c = g →
      let noted := view.see (HasWiring.modify (·.note l (.asked method params)) c)
      I noted ∧ ∀ outcome d, view.see d = noted →
        Q outcome (view.see (HasWiring.modify (·.note l (.answered method outcome)) d))) :
    (Link.ask l method params : Prog E K _).Solo view t g Q I := by
  refine Solo.bind (solo_modify fun c hc => ?_)
  obtain ⟨hI, hQ⟩ := hasked c hc
  refine Solo.bind ((h.request l method params).solo (fun outcome => ?_) hI)
  exact Solo.bind (solo_modify fun d hd => solo_done (hQ outcome d hd))

theorem solo_tell (h : view.Overlooks) {g : G} {Q : Except ClientError Unit → G → Prop}
    {I : G → Prop} (l : LinkId) (method : String) (params : Json)
    (htold : ∀ c, view.see c = g →
      let noted := view.see (HasWiring.modify (·.note l (.told method params)) c)
      I noted ∧ ∀ r, Q r noted) :
    (Link.tell l method params : Prog E K _).Solo view t g Q I := by
  refine Solo.bind (solo_modify fun c hc => ?_)
  obtain ⟨hI, hQ⟩ := htold c hc
  exact (h.notify l method params).solo hQ hI

/-- A request that is given some time. -/
theorem limit {g : G} {p : Prog E K α} {Q : Except ClientError α → G → Prop} (kind : RequestKind)
    (htimeouts : ∀ (c : Client E) (timeouts : TimeoutTable),
      view.see { c with timeouts } = view.see c)
    (h : p.Solo view t g (fun a => Q (.ok a)) fun g' => Q (.error .timeout) g') :
    (Prog.limit kind p).Solo view t g Q fun _ => True := by
  have hrecord (ok : Bool) : Program.Still view t (Program.modify fun c =>
      { c with timeouts := c.timeouts.record kind ok } : Prog E K Unit) :=
    still_modify fun c => htimeouts c _
  refine Solo.bind (solo_read fun _ _ => Solo.bind (Solo.timeout _ (h.mono ?_ ?_)))
  · intro a g' hQ
    exact Solo.bind ((hrecord true).solo (fun _ => solo_done hQ) trivial)
  · intro g' hQ
    exact ⟨Solo.bind ((hrecord false).solo (fun _ => solo_done hQ) trivial), trivial⟩

end View.Overlooks

theorem Client.overlooks_gist : (gistView : View (Client E) Gist).Overlooks :=
  fun c _ h => c.gist_setWiring h.length_eq h.transcript

/-! ## Views that show the gist -/

/-- The gist is a part of what is seen. The rest depends on the links and on what is outside. -/
structure View.Shows {G : Type} (view : View (Client E) G) (part : G → Gist)
    (put : Gist → G → G) : Prop where
  overlooks : view.Overlooks
  part_see (c : Client E) : part (view.see c) = c.gist
  part_put (g : Gist) (k : G) : part (put g k) = g
  put_put (g g' : Gist) (k : G) : put g (put g' k) = put g k
  put_part (k : G) : put (part k) k = k
  see_eq {c c' : Client E} (hl : c'.wiring.links = c.wiring.links) (ho : c'.outside = c.outside) :
    view.see c' = put c'.gist (view.see c)

theorem Client.shows_gist : (gistView : View (Client E) Gist).Shows id fun g _ => g where
  overlooks := overlooks_gist
  part_see _ := rfl
  part_put _ _ := rfl
  put_put _ _ _ := rfl
  put_part _ := rfl
  see_eq _ _ := rfl

namespace View.Shows

variable {G : Type} {view : View (Client E) G} {part : G → Gist} {put : Gist → G → G}

theorem gist_eq (h : view.Shows part put) {c : Client E} {k : G} (hc : view.see c = k) :
    c.gist = part k := by
  rw [← hc, h.part_see]

theorem see_of_gist (h : view.Shows part put) {c c' : Client E} {k : G} {g : Gist}
    (hc : view.see c = k) (hl : c'.wiring.links = c.wiring.links) (ho : c'.outside = c.outside)
    (hgist : c'.gist = g) : view.see c' = put g k := by
  rw [h.see_eq hl ho, hgist, hc]

theorem see_eq_of_gist (h : view.Shows part put) {c c' : Client E}
    (hl : c'.wiring.links = c.wiring.links) (ho : c'.outside = c.outside)
    (hgist : c'.gist = c.gist) : view.see c' = view.see c := by
  rw [h.see_eq hl ho, hgist, h.gist_eq rfl, h.put_part]

theorem see_visitServer (h : view.Shows part put) {c : Client E} {k : G} (hc : view.see c = k)
    (s : ServerId) (f : Server → Server × β) : view.see (c.visitServer s f).1 =
      put ((part k).put s (f (c.server s)).1.plain) k := by
  refine h.see_of_gist hc (c.links_visitServer s f) (c.outside_visitServer s f) ?_
  rw [c.gist_visitServer, h.gist_eq hc]

end View.Shows

/-! ## Programs that leave the gist as it is -/

/-- Run alone on a client, from its gist. -/
abbrev Prog.Alone (t : TaskId) (p : Prog E K α) (g : Gist) (Q : α → Gist → Prop) : Prop :=
  Program.Solo Client.gistView t p g Q fun _ => True

abbrev Prog.Still (t : TaskId) (p : Prog E K α) : Prop := Program.Still Client.gistView t p

variable {t : TaskId}

open Program

namespace Program

theorem still_wiring {f : Wiring → Wiring} (h : ∀ w : Wiring, w.Quiet (f w)) :
    Prog.Still t (modify (HasWiring.modify f) : Prog E K Unit) :=
  still_modify fun c => c.gist_modifyWiring (h c.wiring)

end Program

namespace Link

theorem still_close (l : LinkId) : Prog.Still t (close l : Prog E K Unit) := by
  let end_ (link : Link) : Link := { link with closing := true, connected := false }
  have hend (w : Wiring) : w.Quiet (w.updateLink l end_) := w.quiet_updateLink l fun _ => rfl
  have houtput : Prog.Still t (Program.locked (writingLock l)
      (Program.modify (HasWiring.modify (closeOutput l))) : Prog E K Unit) :=
    (still_wiring (Wiring.quiet_closeOutput l)).locked fun lock c =>
      c.gist_modifyWiring (c.wiring.quiet_updateLink l fun _ => rfl)
  refine (still_wiring hend).bind fun _ => houtput.bind fun _ => ?_
  exact (Client.overlooks_gist.stopReader l).bind fun _ =>
    still_wiring fun w => w.quiet_failPending l _

theorem alone_start {g : Gist} {Q : LinkId → Gist → Prop} (job : LinkId → Job K)
    (input output : PipeId) (h : Q g.links g.addLink) :
    Prog.Alone t (start job input output : Prog E K LinkId) g Q := by
  refine Solo.bind (solo_act fun c hc => ?_)
  obtain rfl : c.gist = g := hc
  have hadded : Client.gistView.see
      (HasWiring.visit (fun w => w.addLink (Link.new input output)) c).1 = c.gist.addLink :=
    c.gist_addLink _
  have hnumber : (HasWiring.visit (fun w => w.addLink (Link.new input output)) c).2 =
      c.gist.links := c.links_gist.symm
  rw [hadded, hnumber]
  refine Solo.bind (solo_start fun task => ?_)
  let read (link : Link) : Link := { link with reader := some task }
  have hread (w : Wiring) : (w.updateLink c.gist.links read).links.entries.length =
      w.links.entries.length := List.length_modify ..
  exact Solo.bind ((still_modify fun d => d.gist_setWiring (hread d.wiring) rfl).solo
    (fun _ => solo_done h) trivial)

/-! ## What is said on a link -/

variable {g : Gist}

theorem solo_ask {Q : Except ClientError Json → Gist → Prop} {I : Gist → Prop} (l : LinkId)
    (method : String) (params : Json)
    (hQ : ∀ outcome, Q outcome ((g.say l (.asked method params)).say l (.answered method outcome)))
    (hI : I (g.say l (.asked method params))) :
    (ask l method params : Prog E K _).Solo Client.gistView t g Q I := by
  refine Client.overlooks_gist.solo_ask l method params ?_
  rintro c rfl
  refine ⟨hI, fun outcome d hd => ?_⟩
  have hnote : Client.gistView.see (HasWiring.modify (·.note l (.answered method outcome)) d) =
      (Client.gistView.see d).say l (.answered method outcome) := rfl
  rw [hnote, hd]
  exact hQ outcome

theorem alone_tell {Q : Except ClientError Unit → Gist → Prop} (l : LinkId) (method : String)
    (params : Json) (hQ : ∀ r, Q r (g.say l (.told method params))) :
    Prog.Alone t (tell l method params : Prog E K _) g Q := by
  refine Client.overlooks_gist.solo_tell l method params ?_
  rintro c rfl
  exact ⟨trivial, hQ⟩

end Link

theorem Prog.Alone.mono {p : Prog E K α} {g : Gist} {Q R : α → Gist → Prop} (h : Prog.Alone t p g Q)
    (hQ : ∀ a g', Q a g' → R a g') : Prog.Alone t p g R :=
  Solo.mono h hQ fun _ => id

/-- `P` holds before every part, of what is left. -/
theorem Prog.alone_each {f : α → Prog E K Unit} {g : Gist} {P : List α → Gist → Prop}
    (hf : ∀ a as g', P (a :: as) g' → Prog.Alone t (f a) g' fun _ => P as) (as : List α)
    (h : P as g) : Prog.Alone t (each f as) g fun _ => P [] :=
  solo_each hf as h

theorem Prog.Alone.limit {p : Prog E K α} {g : Gist} {Q : Except ClientError α → Gist → Prop}
    (kind : RequestKind)
    (h : p.Solo Client.gistView t g (fun a => Q (.ok a)) fun g' => Q (.error .timeout) g') :
    Prog.Alone t (Prog.limit kind p) g Q :=
  View.Overlooks.limit kind (fun _ _ => rfl) h

end LanguageClient
