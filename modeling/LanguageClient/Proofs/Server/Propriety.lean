import LanguageClient.Proofs.Client.Deeds
import LanguageClient.Proofs.Server.Launching
namespace LanguageClient

/-!
# Proper programs

The life of servers and the routing of documents follow every civil custom, if the providers of
connections do.
-/

open Program
open Client (gentle_updateServer gentle_updateRoutes)

variable {E K : Type} {α : Type}

structure Providers.Proper (C : Custom (Client E) (Job K)) (net : Providers (Client E) (Job K)) :
    Prop where
  acquire (definition : ServerDefinition) (root : Path) :
    Prog.Proper C (net.acquire definition root)
  start (provider : ProviderId) : Prog.Proper C (net.start provider)
  stop (provider : ProviderId) : Prog.Proper C (net.stop provider)
  release (definition : ServerDefinition) (root : Path) :
    Prog.Proper C (net.release definition root)

namespace Server

/-! ## Changes of one server -/

variable (x : Server)

theorem gentle_move (next : ServerStatus) : x.Gentle (x.move next) := by
  unfold move
  split
  · exact .refl x
  · split <;> exact gentle_of_eq rfl rfl rfl rfl

theorem gentle_beginStart : x.Gentle x.beginStart.1 := by
  unfold beginStart
  split
  · exact (x.gentle_move .starting).trans (gentle_of_eq rfl rfl rfl rfl)
  · exact (x.gentle_move .starting).trans (gentle_of_eq rfl rfl rfl rfl)
  · exact .refl x
  · exact .refl x

theorem gentle_endStop : x.Gentle x.endStop := by
  have hempty : x.Gentle { x with registrations := RegistrationTable.empty } :=
    ⟨⟨⟨rfl, List.nil_subset _⟩, List.Subset.refl _⟩, rfl⟩
  unfold endStop
  dsimp only
  split
  · exact hempty
  · exact hempty.trans (gentle_move _ _)

theorem gentle_becomeStarted (access : Access) : x.Gentle (x.becomeStarted access) := by
  have haccess : x.Gentle { x with access := some access } := gentle_of_eq rfl rfl rfl rfl
  exact haccess.trans (gentle_move _ _)

theorem gentle_enqueue (d : OpenDocument) : x.Gentle (x.enqueue d) := by
  unfold enqueue
  split
  · exact .refl x
  · exact gentle_of_eq rfl rfl rfl rfl

/-! ## Settings, failures and documents -/

theorem gentle_loadSettings (s : ServerId) (c : Client E) : c.Gentle (loadSettings s c) :=
  gentle_updateServer s (fun x => { x with settings := c.editor.settingsOf x.root x.id })
    (gentle_of_eq rfl rfl rfl rfl)

theorem gentle_showFailure (s : ServerId) (text : String) (c : Client E) :
    c.Gentle (showFailure s text c) := by
  unfold showFailure
  split
  · exact .refl c
  · have hshown := gentle_updateServer (c := c) s (fun x => { x with failureShown := true })
      (gentle_of_eq rfl rfl rfl rfl)
    exact hshown.trans (.of_eq rfl rfl rfl rfl)

/-- The session that is connected is a new one of the server. -/
theorem gentle_enter (s : ServerId) (d : OpenDocument) (c : Client E) :
    c.Gentle (enter s d c).1 := by
  unfold enter
  split
  · exact .refl c
  let r := c.addSession (Session.new d (languageOf d) s)
  let f (x : Server) : Server := { x with connected := x.connected ++ [(d.uri, r.2)] }
  have hserver (q : ServerId) : (r.1.updateServer s f).server q = c.server q ∨
      q = s ∧ ∃ watchers, (r.1.updateServer s f).server q = { f (c.server s) with watchers } :=
    Client.server_visitServer s q (fun x => (f x, ())) r.1
  have hhomes : (r.1.updateServer s f).homes = c.homes ++ [s] :=
    (Client.homes_visitServer s (fun x => (f x, ())) r.1).trans List.map_append
  have hhome : (r.1.updateServer s f).homes[r.2]? = some s := by
    have hlength : r.2 = c.homes.length := (List.length_map ..).symm
    rw [hhomes, hlength, List.getElem?_concat_length]
  refine ⟨⟨⟨?listed, ?length, fun q => ?server⟩,
    ⟨⟨[s], hhomes.symm⟩, fun q e he => ?connected, fun e he => ?index⟩⟩, fun q => ?shown⟩
  case listed =>
    have hroutes : (r.1.updateServer s f).routes = c.routes :=
      Client.listed_visitServer s (fun x => (f x, ())) r.1
    exact hroutes ▸ List.Sublist.refl _
  case length => exact Client.length_visitServer s (fun x => (f x, ())) r.1
  case server =>
    change (c.server q).Mild ((r.1.updateServer s f).server q)
    rcases hserver q with heq | ⟨rfl, watchers, heq⟩
    · rw [heq]
      exact .refl _
    · rw [heq]
      exact ⟨rfl, List.Subset.refl _⟩
  case shown =>
    change ((r.1.updateServer s f).server q).crashShown = (c.server q).crashShown
    rcases hserver q with heq | ⟨rfl, watchers, heq⟩
    · rw [heq]
    · rw [heq]
  case connected =>
    have he : e ∈ ((r.1.updateServer s f).server q).connected := he
    rcases hserver q with heq | ⟨rfl, watchers, heq⟩
    · rw [heq] at he
      exact .inl he
    · rw [heq] at he
      refine (List.mem_append.1 he).imp_right fun he => ?_
      obtain rfl := List.mem_singleton.1 he
      exact hhome
  case index =>
    have hindex : (r.1.updateServer s f).index = c.index :=
      Client.index_visitServer s (fun x => (f x, ())) r.1
    rcases List.mem_append.1 he with he | he
    · exact .inl (hindex ▸ (List.mem_filter.1 he).1)
    · obtain rfl := List.mem_singleton.1 he
      exact .inr hhome

theorem gentle_takeIn (s : ServerId) (d : OpenDocument) (c : Client E) :
    c.Gentle (takeIn s d c).1 := by
  unfold takeIn
  dsimp only
  split
  · exact .refl c
  · split
    · exact gentle_updateServer s (·.enqueue d) (gentle_enqueue _ d)
    all_goals exact .refl c

variable {C : Custom (Client E) (Job K)} (hC : C.Civil) {net : Providers (Client E) (Job K)}
  (hnet : net.Proper C)

include hC

theorem proper_locked {s : ServerId} {p : Prog E K α} (h : p.Proper C) :
    Prog.Proper C (Program.locked (Client.lifecycleLock s) p) := by
  refine h.locked fun lock c => ?_
  exact hC.gentle
    (gentle_updateServer s (fun x => { x with lifecycle := lock }) (gentle_of_eq rfl rfl rfl rfl))

theorem proper_pushSettings (s : ServerId) (a : Access) :
    Prog.Proper C (pushSettings s a : Prog E K Unit) :=
  (follows_read _).bind fun _ => Follows.ite (follows_done _) (a.follows_tell hC.lenient _ _)

theorem proper_openSession (s : ServerId) (d : OpenDocument) :
    Prog.Proper C (openSession s d : Prog E K Unit) := by
  refine (follows_act fun c => hC.gentle (gentle_enter s d c)).bind fun session => ?_
  cases session with
  | none => exact follows_done _
  | some session => exact Session.follows_tellOpened hC.lenient session

theorem proper_closeSession (session : SessionId) :
    Prog.Proper C (closeSession session : Prog E K Unit) := by
  refine (follows_modify fun c => hC.gentle ?_).bind fun _ =>
    Session.follows_tellClosed hC.lenient session
  exact .of_servers rfl rfl List.filter_sublist.subset (List.Sublist.refl _)

theorem proper_connectStarted (s : ServerId) (d : OpenDocument) :
    Prog.Proper C (connectStarted s d : Prog E K Unit) :=
  (follows_act fun c => hC.gentle (gentle_takeIn s d c)).bind fun _ =>
    Follows.ite (proper_openSession hC s d) (follows_done _)

/-! ## Stopping and starting -/

theorem proper_shutDown (link : LinkId) : Prog.Proper C (shutDown link : Prog E K Unit) := by
  have hask := Link.follows_ask (E := E) (K := K) hC.lenient link "shutdown" .null
  refine (Prog.follows_limit hC.lenient hask _).bind fun r => ?_
  split
  · exact (Link.follows_tell hC.lenient link _ _).bind fun _ => follows_done _
  · exact follows_done _

theorem proper_disconnectLink (access : Option Access) (link : LinkId) :
    Prog.Proper C (disconnectLink access link : Prog E K Unit) := by
  have hclose := Link.follows_close (E := E) (K := K) hC.lenient link
  refine Follows.ite ((follows_read _).bind fun connected => ?_) hclose
  exact Follows.ite ((proper_shutDown hC link).bind fun _ => hclose) hclose

section

variable (s : ServerId)

include hnet

theorem proper_stopHeld : Prog.Proper C (stopHeld net s) := by
  have hend : Prog.Proper C (Program.modify (Client.updateServer s endStop) : Prog E K Unit) :=
    proper_updateServer hC gentle_endStop
  refine Follows.bind (proper_visitServer hC fun x => ?_) fun sessions => ?_
  · exact ⟨⟨⟨rfl, List.Subset.refl _⟩, List.nil_subset _⟩, rfl⟩
  refine (Follows.each (proper_closeSession hC) sessions).bind fun _ => ?_
  refine Follows.bind (proper_visitServer hC fun x => ?_) fun taken => ?_
  · exact gentle_of_eq rfl rfl rfl rfl
  obtain ⟨_ | connection, access⟩ := taken
  · exact hend
  · refine (follows_stop _).bind fun _ => (proper_disconnectLink hC _ _).bind fun _ => ?_
    refine (hnet.stop _).bind fun _ => (follows_read _).bind fun project => ?_
    refine (hnet.release _ _).bind fun _ => hend.bind fun _ => ?_
    cases connection.errorLog with
    | none => exact follows_done _
    | some task => exact follows_stop task

theorem proper_stop : Prog.Proper C (stop net s) := proper_locked hC (proper_stopHeld hC hnet s)

theorem proper_abandon (owner : LinkOwner) : Prog.Proper C (abandon net owner) :=
  proper_locked hC ((follows_read _).bind fun _ =>
    Follows.ite (proper_stopHeld hC hnet owner.server) (follows_done _))

omit hnet in
theorem proper_launchOver (owner : LinkOwner) (server : Server) (provider : ProviderId)
    (output input : PipeId) (errorLog : Option TaskId) :
    Prog.Proper C (launchOver owner server provider output input errorLog : Prog E K _) := by
  refine (follows_modify fun c => hC.gentle (gentle_loadSettings owner.server c)).bind fun _ => ?_
  refine (Link.follows_begin hC.lenient _ _ _).bind fun link => ?_
  refine (follows_read _).bind fun r => ?_
  cases r with
  | error e => exact (Link.follows_discard hC.lenient link).bind fun _ => follows_done _
  | ok params =>
    refine (follows_start _).bind fun handshake => ?_
    refine (follows_modify fun c => ?_).bind fun _ => follows_done _
    exact hC.gentle (gentle_updateServer owner.server _ (gentle_of_eq (by rfl) (by rfl) (by rfl) (by rfl)))

theorem proper_launch (owner : LinkOwner) : Prog.Proper C (launch net owner) := by
  refine (follows_read _).bind fun server => (hnet.acquire _ _).bind fun acquired => ?_
  cases acquired with
  | error e => exact follows_done _
  | ok provider =>
    refine (hnet.start provider).bind fun started => ?_
    rcases started with e | ⟨output, input, _ | pipe⟩
    · exact follows_done _
    · exact proper_launchOver hC owner server provider output input none
    · have hlog : Prog.Proper C
          (some <$> Program.start (Job.errorLog server.id pipe) : Prog E K (Option TaskId)) := by
        rw [map_eq_pure_bind]
        exact (follows_start _).bind fun _ => follows_done _
      exact Follows.bind hlog (proper_launchOver hC owner server provider output input)

theorem proper_startHeld : Prog.Proper C (startHeld net s) := by
  refine (proper_visitServer hC gentle_beginStart).bind fun generation => ?_
  cases generation with
  | none => exact follows_done _
  | some generation =>
    refine (proper_launch hC hnet _).bind fun r => ?_
    cases r with
    | ok _ => exact follows_done _
    | error e =>
      refine (follows_modify fun c => ?_).bind fun _ => proper_stopHeld hC hnet s
      exact hC.gentle
        ((gentle_showFailure s _ c).trans (gentle_updateServer s _ (gentle_move _ .failed)))

theorem proper_start : Prog.Proper C (Server.start net s) :=
  proper_locked hC (proper_startHeld hC hnet s)

end

theorem proper_initialized (owner : LinkOwner) (link : LinkId) (capabilities : Capabilities) :
    Prog.Proper C (initialized owner link capabilities : Prog E K Unit) := by
  refine proper_locked hC ((follows_read _).bind fun server => Follows.ite (follows_done _) ?_)
  refine (proper_updateServer hC fun x => x.gentle_becomeStarted _).bind fun _ => ?_
  refine (Link.follows_tell hC.lenient link _ _).bind fun _ => ?_
  refine (proper_pushSettings hC owner.server _).bind fun _ => ?_
  refine (proper_visitServer hC fun x => ?_).bind fun waiting =>
    Follows.each (proper_openSession hC owner.server) waiting
  exact gentle_of_eq (by rfl) (by rfl) (by rfl) (by rfl)

theorem proper_handshake (owner : LinkOwner) (link : LinkId) (params : Json) :
    Prog.Proper C (handshake owner link params : Prog E K Unit) := by
  have hask := Link.follows_ask (E := E) (K := K) hC.lenient link "initialize" params
  refine (Prog.follows_limit hC.lenient hask _).bind fun answer => ?_
  cases capabilitiesOf? answer with
  | ok capabilities => exact proper_initialized hC owner link capabilities
  | error e =>
    refine (follows_read _).bind fun server => Follows.ite (follows_done _) ?_
    refine (follows_modify fun c => ?_).bind fun _ => (follows_start _).bind fun _ => follows_done _
    exact hC.gentle ((gentle_showFailure owner.server _ c).trans
      (gentle_updateServer owner.server _ (gentle_move _ .failed)))

/-! ## Crashes and documents -/

section

include hnet

theorem proper_crashed (owner : LinkOwner) (e : ClientError) :
    Prog.Proper C (crashed net owner e) := by
  refine proper_locked hC ((follows_read _).bind fun _ => Follows.ite (follows_done _) ?_)
  refine (proper_visitServer hC fun x => ?_).bind fun count => ?_
  · exact gentle_of_eq (by rfl) (by rfl) (by rfl) (by rfl)
  refine (follows_read _).bind fun threshold => ?_
  refine Follows.ite ((follows_read _).bind fun waiting => ?_) ?_
  · refine (proper_stopHeld hC hnet _).bind fun _ => Follows.ite (follows_done _) ?_
    refine (proper_startHeld hC hnet _).bind fun _ => ?_
    exact Follows.each (proper_connectStarted hC _) waiting
  · refine (proper_updateServer hC fun x => x.gentle_move .failed).bind fun _ => ?_
    refine (proper_stopHeld hC hnet _).bind fun _ => ?_
    exact follows_act_of_allows fun _ _ _ _ => hC.warns .shows

theorem proper_reportCrash (s : ServerId) (e : ClientError) :
    Prog.Proper C (reportCrash net s e) :=
  (follows_read _).bind fun generation => proper_crashed hC hnet ⟨s, generation⟩ e

variable (s : ServerId)

theorem proper_restart : Prog.Proper C (restart net s) := by
  have hforgive : Prog.Proper C (Program.modify (Client.updateServer s forgive) : Prog E K Unit) :=
    follows_act_of_allows fun _ _ _ _ => hC.warns .forgives
  refine (proper_locked hC ((follows_read _).bind fun status => ?_)).bind fun _ =>
    (follows_read _).bind fun waiting => Follows.ite (follows_done _) ?_
  · split
    · exact (proper_stopHeld hC hnet s).bind fun _ => hforgive
    · exact (proper_stopHeld hC hnet s).bind fun _ => hforgive
    · exact hforgive
  · exact (proper_start hC hnet s).bind fun _ => Follows.each (proper_connectStarted hC s) waiting

theorem proper_connect (d : OpenDocument) : Prog.Proper C (connect net s d) :=
  (follows_read _).bind fun _ => Follows.ite (follows_done _)
    ((proper_start hC hnet s).bind fun _ => proper_connectStarted hC s d)

theorem proper_disconnect (uri : String) : Prog.Proper C (disconnect net s uri) := by
  refine (proper_visitServer hC fun x => ?_).bind fun taken => ?_
  · exact ⟨⟨⟨rfl, List.Subset.refl _⟩, List.filter_sublist.subset⟩, rfl⟩
  obtain ⟨session, wasHere, nothingLeft⟩ := taken
  have hstop : Prog.Proper C (if wasHere && nothingLeft then Server.stop net s else pure ()) :=
    Follows.ite (proper_stop hC hnet s) (follows_done _)
  cases session with
  | none => exact hstop
  | some session => exact (proper_closeSession hC session).bind fun _ => hstop

end

theorem proper_fileChanged (s : ServerId) (uri : String) (change : FileChange) :
    Prog.Proper C (fileChanged s uri change : Prog E K Unit) := by
  refine (follows_read _).bind fun server => (follows_read _).bind fun settingsPath => ?_
  generalize server.access = access
  -- The connection is told of the change if the read says so, after the settings were or at once.
  have hforward (forwards : Client E → Bool) {tell : Prog E K Unit} (htell : tell.Proper C) :
      Prog.Proper C (Program.read forwards >>= fun forward => if forward then tell else pure ()) :=
    (follows_read _).bind fun _ => Follows.ite htell (follows_done _)
  have hload : Prog.Proper C (Program.modify (loadSettings s) : Prog E K Unit) :=
    follows_modify fun c => hC.gentle (gentle_loadSettings s c)
  cases access with
  | none =>
      have htell : Prog.Proper C (pure () : Prog E K Unit) := follows_done _
      exact Follows.ite
        (hload.bind fun _ => hforward _ htell) (hforward _ htell)
  | some a =>
      have htell := a.follows_tell (E := E) (K := K) hC.lenient .didChangeWatchedFiles
        (Params.watchedFile uri change)
      exact Follows.ite
        (hload.bind fun _ => (proper_pushSettings hC s a).bind fun _ => hforward _ htell)
        (hforward _ htell)

end Server

/-! ## Routing -/

namespace Routing

theorem gentle_prune (c : Client E) : c.Gentle (prune c) :=
  gentle_updateRoutes c List.filter_sublist

theorem gentle_takeServers (p : Server → Bool) (c : Client E) : c.Gentle (takeServers p c).1 := by
  refine .of_servers rfl rfl (List.Subset.refl _) ?_
  simp only [takeServers, List.partition_eq_filter_filter]
  exact List.filter_sublist

variable {C : Custom (Client E) (Job K)} (hC : C.Civil) {net : Providers (Client E) (Job K)}
  (hnet : net.Proper C)

include hC

theorem proper_serverFor (definition : ServerDefinition) (root : Path) :
    Prog.Proper C (act (serverFor definition root) : Prog E K ServerId) :=
  follows_act_of_allows fun _ _ _ _ => hC.adds .finds

theorem proper_track (s : ServerId) :
    Prog.Proper C (Program.modify fun c => prune (track s c) : Prog E K Unit) :=
  follows_act_of_allows fun _ _ _ _ => hC.adds .lists

theorem proper_updateRoutes {f : Client E → Routes → Routes}
    (h : ∀ c r, (f c r).servers = r.servers) :
    Prog.Proper C (Program.modify fun c => c.updateRoutes (f c) : Prog E K Unit) :=
  follows_modify fun c => hC.gentle (.of_servers rfl rfl (List.Subset.refl _) (h c c.routes ▸ List.Sublist.refl _))

section

include hnet

theorem proper_disconnect (uri : String) : Prog.Proper C (disconnect net uri) := by
  refine (follows_read _).bind fun s => ?_
  cases s with
  | none => exact follows_done _
  | some s =>
    refine (Server.proper_disconnect hC hnet s uri).bind fun _ => ?_
    exact follows_modify fun c => hC.gentle (gentle_prune c)

theorem proper_opened (d : OpenDocument) : Prog.Proper C (opened net d) := by
  refine (follows_read _).bind fun definition => ?_
  cases definition with
  | none => exact follows_done _
  | some definition =>
    refine (proper_serverFor hC definition d.root).bind fun s => ?_
    refine (follows_read _).bind fun current => ?_
    have hconnect := (Server.proper_connect hC hnet s d).bind fun _ => proper_track hC s
    refine Follows.ite (follows_done _) ?_
    cases current with
    | none => exact hconnect
    | some current => exact (Server.proper_disconnect hC hnet current d.uri).bind fun _ => hconnect

theorem proper_force (d : OpenDocument) (definition : ServerDefinition) :
    Prog.Proper C (force net d definition) :=
  Follows.bind (proper_updateRoutes hC fun _ _ => rfl) fun _ => proper_opened hC hnet d

theorem proper_disconnectAll (uris : List String) : Prog.Proper C (disconnectAll net uris) :=
  Follows.each (proper_disconnect hC hnet) _

theorem proper_releaseAll : Prog.Proper C (releaseAll net) := by
  refine (follows_act fun c => ?_).bind fun uris => proper_disconnectAll hC hnet uris
  exact hC.gentle (.of_servers rfl rfl (List.Subset.refl _) (List.Sublist.refl _))

theorem proper_setDefinitions (definitions : List ServerDefinition) :
    Prog.Proper C (setDefinitions net definitions) := by
  refine (follows_act fun c => ?_).bind fun old => (follows_act fun c => ?_).bind fun stale => ?_
  · exact hC.gentle (.of_servers rfl rfl (List.Subset.refl _) (List.Sublist.refl _))
  · exact hC.gentle (.of_servers rfl rfl (List.Subset.refl _) (List.Sublist.refl _))
  refine (proper_disconnectAll hC hnet stale).bind fun _ => ?_
  refine (follows_act fun c => hC.gentle (gentle_takeServers _ c)).bind fun dropped => ?_
  refine (Follows.each (Server.proper_stop hC hnet) dropped).bind fun _ => ?_
  exact (follows_read _).bind fun documents => Follows.each (proper_opened hC hnet) _

theorem proper_shutDown : Prog.Proper C (shutDown net) :=
  (follows_act fun c => hC.gentle (gentle_takeServers _ c)).bind fun servers =>
    Follows.each (Server.proper_stop hC hnet) servers

end

theorem proper_fileChanged (uri : String) (change : FileChange) :
    Prog.Proper C (fileChanged uri change : Prog E K Unit) := by
  refine (follows_read _).bind fun entry => ?_
  have htell : Prog.Proper C (show Prog E K Unit from do
      let servers ← Program.read started
      let isOwn (s : ServerId) : Bool :=
        change = FileChange.changed ∧ entry.map (·.server) = some s
      Program.each (fun s => Server.fileChanged s uri change) (servers.filter fun s => !isOwn s)) :=
    (follows_read _).bind fun _ =>
      Follows.each (fun s => Server.proper_fileChanged hC s uri change) _
  refine Follows.ite ?_ htell
  cases entry with
  | none => exact htell
  | some entry => exact (Session.follows_tellSaved hC.lenient _).bind fun _ => htell

theorem proper_pathChanged (path : Path) (change : FileChange) :
    Prog.Proper C (pathChanged path change : Prog E K Unit) := by
  refine (follows_read _).bind fun directory => ?_
  split
  · exact proper_fileChanged hC _ change
  · exact follows_done _

end Routing

/-! ## Jobs -/

theorem Job.proper_perform {C : Custom (Client E) (Job K)} (hC : C.Civil)
    {net : Providers (Client E) (Job K)} (hnet : net.Proper C) {outside : K → Prog E K Unit}
    (houtside : ∀ k, (outside k).Proper C) (job : Job K) :
    Prog.Proper C (job.perform net outside) := by
  cases job with
  | readAll owner l => exact Link.follows_readAll hC.lenient owner l
  | answer owner l id method params => exact Link.proper_answer hC owner l id method params
  | handshake owner l params => exact Server.proper_handshake hC owner l params
  | abandon owner => exact Server.proper_abandon hC hnet owner
  | crash owner e => exact Server.proper_crashed hC hnet owner e
  | errorLog server pipe => exact ErrorLog.follows_run hC.lenient server pipe
  | search a query promise =>
    exact (a.follows_ask hC.lenient _ _ _).bind fun _ => follows_wiring hC.lenient _
  | outside k => exact houtside k

end LanguageClient
