import LanguageClient.Proofs.Server.Alone
import LanguageClient.Proofs.Server.Distinct
namespace LanguageClient

/-!
# Documents brought to a server alone

Documents wait while the server is starting. Once it has answered to `initialize`, each of them is
connected and opened on its link.
-/

open Program

variable {E K : Type} {α : Type} {t : TaskId} {g : Gist} {s : ServerId}

/-! ## The lifecycle -/

/-- The gist with the lifecycle of a server as it is given. -/
def Gist.putLifecycle (s : ServerId) (lock : Lock) (g : Gist) : Gist :=
  g.put s { g.server s with lifecycle := lock }

/-- The gist while the lifecycle of a server is taken. -/
def Gist.taken (s : ServerId) (g : Gist) : Gist := g.putLifecycle s ⟨.taken, []⟩

/-- The gist once it is given back. -/
def Gist.returned (s : ServerId) (g : Gist) : Gist := g.putLifecycle s Lock.free

namespace Client

theorem gist_writeLifecycle (s : ServerId) (lock : Lock) (c : Client E) :
    ((lifecycleLock s).write lock c).gist = c.gist.putLifecycle s lock.plain := by
  rw [Gist.putLifecycle, server_gist]
  exact c.gist_visitServer s fun x => ({ x with lifecycle := lock }, ())

theorem gist_putLifecycle (s : ServerId) (c : Client E) :
    c.gist.putLifecycle s ((lifecycleLock s).read c).plain = c.gist := by
  have hserver : { c.gist.server s with lifecycle := ((lifecycleLock s).read c).plain } =
      c.gist.server s := by
    rw [server_gist]
    rfl
  rw [Gist.putLifecycle, hserver, Gist.put_server]

end Client

theorem Gist.length_putLifecycle (s : ServerId) (lock : Lock) (g : Gist) :
    (g.putLifecycle s lock).ledger.servers.length = g.ledger.servers.length :=
  Ledger.length_put ..

theorem Gist.server_returned (hs : s < g.ledger.servers.length) :
    (g.returned s).server s = { g.server s with lifecycle := Lock.free } :=
  Gist.server_put_same hs

/-- No task has the lifecycle of the server. -/
def Gist.Unheld (s : ServerId) (g : Gist) : Prop := (g.server s).lifecycle = Lock.free

/-- A server that is missing counts as a new one, which nobody has. -/
theorem Gist.unheld_put {g : Gist} {x : Server} (hx : x.lifecycle = Lock.free) :
    (g.put s x).Unheld s := by
  by_cases hs : s < g.ledger.servers.length
  · rwa [Unheld, server_put_same hs]
  · have hnone : (g.put s x).ledger.servers[s]? = none := by
      rw [List.getElem?_eq_none_iff]
      exact Nat.le_trans (Nat.le_of_eq (Ledger.length_put ..)) (Nat.le_of_not_lt hs)
    rw [Unheld, server, Ledger.server, hnone]
    rfl

section

variable {G : Type} {view : View (Client E) G} {k : G} {place : Lock.Place (Client E)}
  {put : Lock → G → G} (hwrite : ∀ lock c, view.see (place.write lock c) = put lock.plain (view.see c))

include hwrite

theorem Lock.Place.see_release (c : Client E) :
    view.see (place.release c) = put Lock.free (view.see c) := by
  refine (view.see_wakeAll _ _).trans ((hwrite _ c).trans ?_)
  rw [Lock.plain_release]

variable (hread : ∀ c, put (place.read c).plain (view.see c) = view.see c)

include hread

/-- Of a lock it is seen whether it is taken: nothing else changes when a task gets it. -/
theorem Program.solo_acquire :
    (await place.acquire place.giveUp done : Prog E K Unit).Solo view t k
      (fun _ k' => k' = put ⟨.taken, []⟩ k) fun _ => True := by
  refine solo_await (fun c u b hc hp => ?_) fun c u hc hp => ⟨?_, trivial⟩
  all_goals
    subst hc
    obtain ⟨rfl, hr⟩ := Prod.mk.inj hp
    have hwritten := hwrite ((place.read c).acquire t).1 c
    rcases Lock.acquire_cases (place.read c) t with ⟨hgot, -, howner⟩ | ⟨hnot, howner⟩
  · rwa [Lock.plain_of_taken howner] at hwritten
  · exact nomatch hnot.symm.trans hr
  · exact nomatch hgot.symm.trans hr
  · rwa [Lock.plain_eq_of_owner howner, hread] at hwritten

theorem Program.Solo.locked_seen {p : Prog E K α} {Q : α → G → Prop}
    (h : p.Solo view t (put ⟨.taken, []⟩ k) (fun a k' => Q a (put Lock.free k')) fun _ => True) :
    (Program.locked place p).Solo view t k Q fun _ => True := by
  refine Solo.bind (p := (await place.acquire place.giveUp done : Prog E K Unit))
    ((solo_acquire hwrite hread).mono ?_ fun _ h => h)
  rintro _ _ rfl
  exact Solo.holding (I := fun _ => True) (Lock.Place.see_release hwrite) h

end

theorem Client.gist_releaseLifecycle (s : ServerId) (c : Client E) :
    ((lifecycleLock s).release c).gist = c.gist.returned s := by
  have hwrite (lock : Lock) (c : Client E) :
      gistView.see ((lifecycleLock s).write lock c) = Gist.putLifecycle s lock.plain (gistView.see c) :=
    c.gist_writeLifecycle s lock
  exact Lock.Place.see_release hwrite c

theorem Client.unheld_release (s : ServerId) (c : Client E) :
    ((lifecycleLock s).release c).gist.Unheld s := by
  rw [c.gist_releaseLifecycle]
  exact Gist.unheld_put rfl

theorem Prog.Alone.lifecycle {p : Prog E K α} {Q : α → Gist → Prop}
    (h : Prog.Alone t p (g.taken s) fun a g' => Q a (g'.returned s)) :
    Prog.Alone t (Program.locked (Client.lifecycleLock s) p) g Q :=
  Solo.locked_seen (fun lock c => c.gist_writeLifecycle s lock) (Client.gist_putLifecycle s) h

/-- Until a task has the lifecycle nothing changes. -/
theorem Prog.brings_lifecycle {p : Prog E K α} {rt : Runtime (Client E) (Job K)}
    {Q : α → Runtime (Client E) (Job K) → Prop}
    (h : ∀ rt₁ : Runtime (Client E) (Job K), rt₁.world.gist = rt.world.gist.taken s →
      rt₁.perform = rt.perform → p.Brings Client.gistView.Same t rt₁ fun a rt' =>
        Q a { rt' with world := (Client.lifecycleLock s).release rt'.world }) :
    (Program.locked (Client.lifecycleLock s) p).Brings Client.gistView.Same t rt Q := by
  let place := Client.lifecycleLock (E := E) s
  refine Brings.bind (p := (await place.acquire place.giveUp done : Prog E K Unit))
    ((solo_acquire (fun lock c => c.gist_writeLifecycle s lock)
      (Client.gist_putLifecycle s)).brings.mono ?_)
  rintro _ rt₁ ⟨hgist, hperform⟩
  exact Brings.holding (h rt₁ hgist hperform)

namespace Server

/-! ## Waiting -/

/-- A document that a starting server has not seen waits from now on. -/
theorem brings_connectStarted {d : OpenDocument} {x : Server} {rt : Runtime (Client E) (Job K)}
    (hx : rt.world.gist.server s = x) (hstatus : x.status = .starting)
    (hconnected : x.isConnectedTo d.uri = false) (hpending : x.isPending d.uri = false) :
    (connectStarted s d : Prog E K Unit).Brings Client.gistView.Same t rt fun _ rt' =>
      rt'.world.gist = rt.world.gist.put s { x with queue := x.queue ++ [d] } ∧
        rt'.tasks = rt.tasks := by
  have hplain : (rt.world.server s).plain = x := by rw [← rt.world.server_gist, hx]
  have hstatus' : (rt.world.server s).status = .starting := by rw [← hstatus, ← hplain]; rfl
  have hconnected' : (rt.world.server s).isConnectedTo d.uri = false := by
    rw [← hconnected, ← hplain]
    rfl
  have htake : takeIn s d rt.world = (rt.world.updateServer s (·.enqueue d), false) := by
    simp only [takeIn, hconnected', hstatus', Bool.false_eq_true, if_false]
  have hgist : (rt.world.updateServer s (·.enqueue d)).gist =
      rt.world.gist.put s { x with queue := x.queue ++ [d] } := by
    refine (rt.world.gist_updateServer_of_commutes s (commutes_enqueue d)).trans ?_
    rw [hx, enqueue, if_neg (Bool.eq_false_iff.1 hpending)]
  refine Brings.bind (brings_act ?_)
  rw [htake]
  exact brings_done ⟨hgist, rfl⟩

end Server

/-! ## Opening -/

namespace Session

/-- What a server is told of a session that is opened. -/
def opening (x : Session) (text : Text) : Link.Event :=
  .told Feature.didOpen.method (Params.didOpen x.uri x.languageId x.version text)

theorem alone_tellOpened {x : SessionId} {a : Access} (hopened : (g.session x).opened = false)
    (hclosed : (g.session x).closed = false)
    (ha : (g.server (g.session x).server).access = some a) (hreaches : a.Reaches g) :
    Prog.Alone t (tellOpened x : Prog E K Unit) g fun _ g' =>
      let opened := { g with sessions := g.sessions.modify x fun y => { y with opened := true } }
      g' = if a.capabilities.openClose then
          opened.say a.link ((g.session x).opening (g.text (g.session x).buffer))
        else opened := by
  let open_ (y : Session) : Session := { y with opened := true }
  let g₁ : Gist := { g with sessions := g.sessions.modify x open_ }
  refine Solo.locked (Client.gist_writeSession x) (Solo.bind (solo_read fun c hc => ?_)) trivial
  obtain rfl : c.gist = g := hc
  rw [c.session_gist] at hopened hclosed ha ⊢
  have hfresh : ((c.session x).opened || (c.session x).closed) = false := by
    rw [Bool.or_eq_false_iff]
    exact ⟨hopened, hclosed⟩
  rw [hfresh]
  refine Solo.bind (solo_modify fun d hd => ?_)
  obtain hd : d.gist = c.gist := hd
  have hmarked : Client.gistView.see (d.updateSession x open_) = g₁ := by
    refine (d.gist_updateSession x (f := open_) (k := open_) (fun _ => rfl) fun _ => rfl).trans ?_
    rw [hd]
  rw [hmarked]
  have hserver₁ : (g₁.session x).server = (c.session x).unlocked.server := by
    rw [← c.session_gist]
    exact Gist.session_modify_of_eq x (f := open_) Session.server fun _ => rfl
  have hbuffer₁ : (g₁.session x).buffer = (c.session x).unlocked.buffer := by
    rw [← c.session_gist]
    exact Gist.session_modify_of_eq x (f := open_) Session.buffer fun _ => rfl
  refine Solo.bind (solo_read fun e he => ?_)
  have haccess : e.access? x = some a := by
    have he : e.gist = g₁ := he
    have hserver : (e.session x).server = (c.session x).unlocked.server := by
      rw [← hserver₁, ← he, e.session_gist]
      rfl
    have hplain : (e.server (c.session x).server).plain = c.gist.server (c.session x).server := by
      rw [← e.server_gist, he]
      rfl
    rw [Client.access?, hserver]
    exact (congrArg Server.access hplain).trans ha
  rw [haccess]
  refine Solo.bind (solo_read fun f hf => ?_)
  have htext : f.text x = c.gist.text (c.session x).buffer := by
    have hf : f.gist = g₁ := hf
    have hbuffer : (f.session x).buffer = (c.session x).unlocked.buffer := by
      rw [← hbuffer₁, ← hf, f.session_gist]
      rfl
    rw [Client.text, hbuffer]
    exact congrArg (fun g' : Gist => g'.text (c.session x).buffer) hf
  rw [htext]
  refine Access.alone_tell rfl (fun _ hopen => (if_pos hopen).symm) fun hnot => ?_
  refine (if_neg fun hopen => hnot ⟨hreaches, fun _ => hopen⟩).symm

end Session

namespace Server

/-- The gist once a document is connected by a new session. -/
def entered (s : ServerId) (d : OpenDocument) (g : Gist) : Gist :=
  { g with
    ledger := { g.ledger.put s { g.server s with
        connected := (g.server s).connected ++ [(d.uri, g.sessions.length)] } with
      uris := g.ledger.uris ++ [d.uri]
      index := g.ledger.index.insert d.uri ⟨g.sessions.length, s⟩ }
    sessions := g.sessions ++ [Session.new d (languageOf d) s] }

theorem gist_enter {c : Client E} {d : OpenDocument}
    (h : (c.server s).isConnectedTo d.uri = false) : (enter s d c).1.gist = entered s d c.gist ∧
      (enter s d c).2 = some c.gist.sessions.length := by
  let session := Session.new d (languageOf d) s
  let connect (x : Server) : Server :=
    { x with connected := x.connected ++ [(d.uri, c.sessions.entries.length)] }
  have hlength : c.sessions.entries.length = c.gist.sessions.length := (List.length_map ..).symm
  have hadded : (c.addSession session).1.gist =
      { c.gist with
        ledger := { c.gist.ledger with uris := c.gist.ledger.uris ++ [d.uri] }
        sessions := c.gist.sessions ++ [session] } := by
    simp only [Client.gist, Client.ledger, Client.addSession, Store.add, List.map_append]
    rfl
  have hconnected := (c.addSession session).1.gist_updateServer_of_commutes s (f := connect)
    fun _ => rfl
  rw [hadded] at hconnected
  rw [enter, if_neg (Bool.eq_false_iff.1 h)]
  refine ⟨?_, congrArg some hlength⟩
  rw [entered, ← hlength]
  exact congrArg (fun g' : Gist => { g' with ledger := { g'.ledger with
    index := g'.ledger.index.insert d.uri ⟨c.sessions.entries.length, s⟩ } }) hconnected

/-- What opening a document makes of a server that is reached through `a`. -/
structure Opens (s : ServerId) (a : Access) (d : OpenDocument) (g g' : Gist) : Prop where
  server : g'.server s = { g.server s with
    connected := (g.server s).connected ++ [(d.uri, g.sessions.length)] }
  length : g'.ledger.servers.length = g.ledger.servers.length
  said : g'.said a.link = g.said a.link ++ if a.capabilities.openClose then
    [(Session.new d (languageOf d) s).opening (g.text d.buffer)] else []
  text : g'.text = g.text

theorem alone_openSession {a : Access} {d : OpenDocument} (hs : s < g.ledger.servers.length)
    (ha : (g.server s).access = some a) (hserver : a.server = s) (hreaches : a.Reaches g)
    (hfresh : (g.server s).isConnectedTo d.uri = false) :
    Prog.Alone t (openSession s d : Prog E K Unit) g fun _ => Opens s a d g := by
  refine Solo.bind (solo_act fun c hc => ?_)
  obtain rfl : c.gist = g := hc
  rw [c.server_gist] at hfresh
  obtain ⟨hentered, hsession⟩ := gist_enter hfresh
  have hentered : Client.gistView.see (enter s d c).1 = entered s d c.gist := hentered
  rw [hentered, hsession]
  have hx : (entered s d c.gist).session c.gist.sessions.length =
      Session.new d (languageOf d) s := by
    simp [Gist.session, entered]
  have hs' : (entered s d c.gist).server s = { c.gist.server s with
      connected := (c.gist.server s).connected ++ [(d.uri, c.gist.sessions.length)] } :=
    c.gist.ledger.server_put_same _ hs
  refine (Session.alone_tellOpened (a := a) ?_ ?_ ?_ ?_).mono ?_
  · rw [hx]
    rfl
  · rw [hx]
    rfl
  · rw [hx]
    exact (congrArg Server.access hs').trans ha
  · subst hserver
    rw [Access.Reaches, hs']
    exact hreaches
  · rintro _ g' rfl
    rw [hx]
    by_cases hopen : a.capabilities.openClose = true
    · rw [if_pos hopen]
      refine ⟨hs', Ledger.length_put .., ?_, rfl⟩
      rw [if_pos hopen]
      exact Gist.said_say_same ..
    · rw [if_neg hopen]
      refine ⟨hs', Ledger.length_put .., ?_, rfl⟩
      rw [if_neg hopen]
      exact (List.append_nil _).symm

end Server

/-! ## Initializing -/

/-- What was told of documents that were opened. -/
def Link.opened (events : List Link.Event) : List Json :=
  events.filterMap fun
    | .told method params => if method = Feature.didOpen.method then some params else none
    | _ => none

/-- What came back. -/
def Link.answers (events : List Link.Event) : List (Except ClientError Json) :=
  events.filterMap fun
    | .answered _ outcome => some outcome
    | _ => none

/-- What a server is told when documents are opened, if it is to be told. -/
def Gist.openings (g : Gist) (a : Access) (ds : List OpenDocument) : List Json :=
  if a.capabilities.openClose then
    ds.map fun d => Params.didOpen d.uri (Server.languageOf d) 0 (g.text d.buffer)
  else []

namespace Link

theorem opened_append (events later : List Event) :
    opened (events ++ later) = opened events ++ opened later := List.filterMap_append

theorem opened_told_of_ne {method : String} (h : method ≠ Feature.didOpen.method) (params : Json) :
    opened [.told method params] = [] := by
  simp [opened, h]

theorem opened_opening (d : OpenDocument) (s : ServerId) (text : Text) :
    opened [(Session.new d (Server.languageOf d) s).opening text] =
      [Params.didOpen d.uri (Server.languageOf d) 0 text] := by
  simp [opened, Session.opening, Session.new]

theorem answers_append (events later : List Event) :
    answers (events ++ later) = answers events ++ answers later := List.filterMap_append

theorem opened_eq_nil_of_utterances {events : List Event} (h : utterances events = []) :
    opened events = [] := by
  refine List.filterMap_eq_nil_iff.2 fun e he => ?_
  have hnone : e.utterance? = none := List.filterMap_eq_nil_iff.1 h e he
  cases e with
  | answered => rfl
  | asked | told => exact nomatch hnone

theorem mem_answers {events : List Event} {method : String} {outcome : Except ClientError Json}
    (h : .answered method outcome ∈ events) : outcome ∈ answers events :=
  List.mem_filterMap.2 ⟨_, h, rfl⟩

end Link

/-- A server that is reached through `a` and connected to the documents `ds`; others wait. -/
structure Server.Serves (x : Server) (a : Access) (ds waiting : List OpenDocument) : Prop where
  status : x.status = .started
  generation : x.generation = a.generation
  access : x.access = some a
  queue : x.queue = waiting
  connected : x.connected.map (·.1) = ds.map (·.uri)

/-- The server has been told of these documents since `g`. -/
structure Gist.Welcomes (s : ServerId) (a : Access) (ds waiting : List OpenDocument)
    (g g' : Gist) : Prop where
  lt : s < g'.ledger.servers.length
  server : (g'.server s).Serves a ds waiting
  text : g'.text = g.text
  said : ∃ later, g'.said a.link = g.said a.link ++ later ∧
    Link.opened later = g.openings a ds ∧ Link.answers later = []

namespace Gist.Welcomes

variable {a : Access} {ds waiting : List OpenDocument} {g' g'' : Gist}

/-- Something else is told. -/
theorem tell (h : g.Welcomes s a ds waiting g') {method : String}
    (hm : method ≠ Feature.didOpen.method) (params : Json) :
    g.Welcomes s a ds waiting (g'.say a.link (.told method params)) where
  lt := h.lt
  server := h.server
  text := h.text
  said := by
    obtain ⟨later, hsaid, hopened, hanswers⟩ := h.said
    refine ⟨later ++ [.told method params], ?_, ?_, ?_⟩
    · rw [Gist.said_say_same, hsaid, List.append_assoc]
    · rw [Link.opened_append, hopened, Link.opened_told_of_ne hm, List.append_nil]
    · rw [Link.answers_append, hanswers]
      rfl

theorem takeQueue (h : g.Welcomes s a ds waiting g') :
    g.Welcomes s a ds [] (g'.put s (g'.server s).takeQueue.1) where
  lt := by
    rw [Gist.put, Ledger.length_put]
    exact h.lt
  server := by
    rw [Gist.server_put_same h.lt]
    exact { h.server with queue := rfl }
  text := h.text
  said := h.said

theorem opens (h : g.Welcomes s a ds waiting g') {d : OpenDocument}
    (ho : Server.Opens s a d g' g'') : g.Welcomes s a (ds ++ [d]) waiting g'' where
  lt := by
    rw [ho.length]
    exact h.lt
  server := by
    rw [ho.server]
    refine { h.server with connected := ?_ }
    rw [List.map_append, List.map_append, h.server.connected]
    rfl
  text := ho.text.trans h.text
  said := by
    obtain ⟨later, hsaid, hopened, hanswers⟩ := h.said
    refine ⟨later ++ if a.capabilities.openClose then
      [(Session.new d (Server.languageOf d) s).opening (g'.text d.buffer)] else [], ?_, ?_, ?_⟩
    · rw [ho.said, hsaid, List.append_assoc]
    · rw [Link.opened_append, hopened, Gist.openings, Gist.openings]
      split
      · rw [Link.opened_opening, h.text, List.map_append]
        rfl
      · rfl
    · rw [Link.answers_append, hanswers]
      split <;> rfl

theorem isConnectedTo_eq_false (h : g.Welcomes s a ds waiting g') {uri : String}
    (hfresh : uri ∉ ds.map (·.uri)) : (g'.server s).isConnectedTo uri = false := by
  rw [← h.server.connected] at hfresh
  exact Server.isConnectedTo_eq_false.2 hfresh

theorem reaches (h : g.Welcomes s a ds waiting g') (hserver : a.server = s) : a.Reaches g' := by
  rw [Access.Reaches, hserver]
  exact ⟨h.server.generation, h.server.status⟩

end Gist.Welcomes

namespace Server

variable {a : Access} {g' : Gist}

theorem alone_pushSettings {ds waiting : List OpenDocument} (h : g.Welcomes s a ds waiting g') :
    Prog.Alone t (pushSettings s a : Prog E K Unit) g' fun _ => g.Welcomes s a ds waiting := by
  refine Solo.bind (solo_read fun c _ => ?_)
  split
  · exact solo_done h
  · exact Access.alone_tell rfl (fun _ _ => h.tell (by decide) _) fun _ => h

/-- All that waited are opened, one after another. -/
theorem alone_openSessions {waiting : List OpenDocument} (hserver : a.server = s)
    (hnodup : (waiting.map (·.uri)).Nodup)
    (h : g.Welcomes s a [] [] g') :
    Prog.Alone t (Program.each (openSession s) waiting : Prog E K Unit) g'
      fun _ => g.Welcomes s a waiting [] := by
  let P (left : List OpenDocument) (g'' : Gist) : Prop :=
    ∃ ds, ds ++ left = waiting ∧ g.Welcomes s a ds [] g''
  refine (Prog.alone_each (P := P) ?_ waiting ⟨[], rfl, h⟩).mono ?_
  · rintro d left g'' ⟨ds, hds, hw⟩
    have hfresh : d.uri ∉ ds.map (·.uri) := by
      rw [← hds, List.map_append, List.map_cons] at hnodup
      exact fun hd => (List.nodup_append.1 hnodup).2.2 _ hd _ List.mem_cons_self rfl
    refine (alone_openSession hw.lt hw.server.access hserver (hw.reaches hserver)
      (hw.isConnectedTo_eq_false hfresh)).mono fun _ g₃ ho => ?_
    exact ⟨ds ++ [d], by rw [List.append_assoc]; exact hds, hw.opens ho⟩
  · rintro _ g'' ⟨ds, hds, hw⟩
    rw [List.append_nil] at hds
    exact hds ▸ hw

theorem alone_initialized {γ : Nat} {l : LinkId} {capabilities : Capabilities}
    (hs : s < g.ledger.servers.length) (hγ : (g.server s).generation = γ)
    (hstatus : (g.server s).status = .starting) (hconnected : (g.server s).connected = [])
    (hnodup : ((g.server s).queue.map (·.uri)).Nodup) :
    Prog.Alone t (initialized ⟨s, γ⟩ l capabilities : Prog E K Unit) g
      fun _ g' => ∃ g₁, g.Welcomes s ⟨s, γ, l, capabilities⟩ (g.server s).queue [] g₁ ∧
        g' = g₁.returned s := by
  let a : Access := ⟨s, γ, l, capabilities⟩
  let x : Server := { g.server s with lifecycle := ⟨.taken, []⟩ }
  have hx : (g.taken s).server s = x := Gist.server_put_same hs
  have hs' : s < (g.taken s).ledger.servers.length := by
    rw [Gist.taken, Gist.length_putLifecycle]
    exact hs
  refine Prog.Alone.lifecycle (Solo.bind (solo_read fun c hc => ?_))
  obtain hc : c.gist = g.taken s := hc
  have hplain : (c.server s).plain = x := by rw [← c.server_gist, hc, hx]
  have hthere : ¬ ((c.server s).generation ≠ γ ∨ (c.server s).status ≠ .starting) := by
    rw [← (c.server s).generation_plain, ← (c.server s).status_plain, hplain]
    simp [x, hγ, hstatus]
  rw [if_neg hthere]
  refine Solo.bind (solo_modify fun d hd => ?_)
  obtain hd : d.gist = g.taken s := hd
  have hstarted : Client.gistView.see (d.updateServer s (·.becomeStarted a)) =
      (g.taken s).put s (x.becomeStarted a) := by
    refine (d.gist_updateServer_of_commutes s (commutes_becomeStarted a)).trans ?_
    rw [hd, hx]
  rw [hstarted]
  have hwelcome : g.Welcomes s a [] x.queue ((g.taken s).put s (x.becomeStarted a)) := by
    have hy : ((g.taken s).put s (x.becomeStarted a)).server s = x.becomeStarted a :=
      Gist.server_put_same hs'
    refine ⟨by rwa [Gist.put, Ledger.length_put], ?_, rfl, [], (List.append_nil _).symm, ?_, rfl⟩
    rotate_left
    · simp [Gist.openings, Link.opened]
    rw [hy]
    exact {
      status := status_move (.inr (by simp [x, hstatus, ServerStatus.canMove]))
      generation := (x.generation_becomeStarted a).trans hγ
      access := x.access_becomeStarted a
      queue := x.queue_becomeStarted a
      connected := by
        rw [connected_becomeStarted]
        simp [x, hconnected] }
  refine Solo.bind (Link.alone_tell l _ _ fun _ => ?_)
  have hne : "initialized" ≠ Feature.didOpen.method := by decide
  have hwelcome := hwelcome.tell hne (Json.object [])
  refine Solo.bind ((alone_pushSettings (s := s) hwelcome).mono fun _ g₁ h₁ => ?_)
  refine Solo.bind (solo_act fun e he => ?_)
  obtain rfl : e.gist = g₁ := he
  have htaken : Client.gistView.see (e.visitServer s takeQueue).1 =
      e.gist.put s (e.gist.server s).takeQueue.1 :=
    e.gist_visitServer_of_commutes s commutes_takeQueue
  have hqueue : (e.visitServer s takeQueue).2 = (g.server s).queue := by
    refine Eq.trans ?_ h₁.server.queue
    rw [e.server_gist]
    rfl
  rw [htaken, hqueue]
  refine (alone_openSessions (a := a) rfl hnodup h₁.takeQueue).mono fun _ g₂ h₂ => ?_
  exact ⟨g₂, h₂, rfl⟩

/-- A new link once the server was asked to initialize: what came back, if anything, came in time. -/
structure Asked (l : LinkId) (g : Gist) (r : Except ClientError (Except ClientError Json))
    (g' : Gist) : Prop where
  servers : g'.ledger.servers = g.ledger.servers
  text : g'.text = g.text
  said : ∃ later, g'.said l = g.said l ++ later ∧ Link.opened later = [] ∧
    ∀ outcome ∈ Link.answers later, r = .ok outcome

theorem alone_askInitialize {l : LinkId} {params : Json} :
    Prog.Alone t (Prog.limit .handshake (Link.ask l "initialize" params) : Prog E K _) g
      (Asked l g) := by
  have hasked : (g.say l (.asked "initialize" params)).said l =
      g.said l ++ [.asked "initialize" params] := Gist.said_say_same ..
  refine Prog.Alone.limit _ (Link.solo_ask l _ _ (fun outcome => ⟨rfl, rfl, ?_⟩) ⟨rfl, rfl, ?_⟩)
  · refine ⟨[.asked "initialize" params, .answered "initialize" outcome], ?_, rfl, ?_⟩
    · rw [Gist.said_say_same, hasked, List.append_assoc]
      rfl
    · intro outcome' h
      rw [List.mem_singleton.1 h]
  · exact ⟨[.asked "initialize" params], hasked, rfl, nofun⟩

/-- What comes of an answer to `initialize` that tells what the server can do: all that waited is
connected, and told to the server. -/
def Answered (s : ServerId) (γ : Nat) (l : LinkId) (g g' : Gist) : Prop :=
  ∃ later, g'.said l = g.said l ++ later ∧
    ∀ (answer : Json) (capabilities : Capabilities),
      .answered "initialize" (.ok answer) ∈ later →
      capabilitiesOf? (.ok (.ok answer)) = .ok capabilities →
      (g'.server s).Serves ⟨s, γ, l, capabilities⟩ (g.server s).queue [] ∧
        Link.opened later = g.openings ⟨s, γ, l, capabilities⟩ (g.server s).queue

theorem alone_handshake {γ : Nat} {l : LinkId} {params : Json}
    (hs : s < g.ledger.servers.length) (hγ : (g.server s).generation = γ)
    (hstatus : (g.server s).status = .starting) (hconnected : (g.server s).connected = [])
    (hnodup : ((g.server s).queue.map (·.uri)).Nodup) :
    Prog.Alone t (handshake ⟨s, γ⟩ l params : Prog E K Unit) g fun _ => Answered s γ l g := by
  refine Solo.bind (alone_askInitialize.mono fun r g₁ hasked => ?_)
  have hserver : g₁.server s = g.server s := by
    rw [Gist.server, Gist.server, Ledger.server, Ledger.server, hasked.servers]
  obtain ⟨before, hbefore, hunopened, honly⟩ := hasked.said
  cases hr : capabilitiesOf? r with
  | error e =>
      have hfail {g' : Gist} (hsaid : g'.said l = g₁.said l) : Answered s γ l g g' := by
        refine ⟨before, hsaid.trans hbefore, fun answer capabilities hanswer hcapabilities => ?_⟩
        rw [honly _ (Link.mem_answers hanswer), hcapabilities] at hr
        cases hr
      refine Solo.bind (solo_read fun c _ => ?_)
      split
      · exact solo_done (hfail rfl)
      refine Solo.bind (solo_modify fun d hd => Solo.bind (solo_start fun _ => solo_done ?_))
      obtain rfl : d.gist = g₁ := hd
      have hsame (text : String) :
          ((showFailure s text d).updateServer s (·.move .failed)).gist.said l = d.gist.said l := by
        rw [gist_failed]
        rfl
      exact hfail (hsame _)
  | ok capabilities =>
      refine (alone_initialized (hasked.servers ▸ hs) (hserver ▸ hγ) (hserver ▸ hstatus)
        (hserver ▸ hconnected) (hserver ▸ hnodup)).mono fun _ g' hg' => ?_
      obtain ⟨g₂, hw, rfl⟩ := hg'
      obtain ⟨after, hafter, hopened, hanswers⟩ := hw.said
      refine ⟨before ++ after, ?_, fun answer capabilities' hanswer hcapabilities => ?_⟩
      · refine hafter.trans ?_
        rw [← List.append_assoc]
        exact congrArg (· ++ after) hbefore
      have hr' : r = .ok (.ok answer) := by
        refine honly _ ?_
        have hmem := Link.mem_answers hanswer
        rwa [Link.answers_append, hanswers, List.append_nil] at hmem
      rw [hr', hcapabilities] at hr
      obtain rfl := Except.ok.inj hr
      refine ⟨?_, ?_⟩
      · rw [Gist.server_returned hw.lt, ← hserver]
        exact { hw.server with }
      · rw [Link.opened_append, hunopened, ← hserver]
        refine hopened.trans ?_
        rw [Gist.openings, hasked.text]
        rfl

end Server

end LanguageClient
