import LanguageClient.Proofs.Client.Homes
import LanguageClient.Proofs.Registration.Provenance
namespace LanguageClient

/-!
# What a stop leaves behind

A stop takes a server apart: its documents, its connection, its registrations and its entries in the
index. Whatever the server does meanwhile, all of that is gone when the stop comes to its end.
-/

open Program

variable {E K : Type} {t : TaskId} {s : ServerId}

/-! ## What is seen of a stop -/

/-- What providers are asked for when a server is stopped. -/
inductive Providers.Call where
  | stopped (provider : ProviderId)
  | released (definition : ServerDefinition) (root : Path)

/-- The gist, the links that are ended, and what providers were asked for. -/
structure Desk where
  gist : Gist
  ends : List (Bool × Bool)
  calls : List Providers.Call

namespace Desk

def call (k : Desk) (call : Providers.Call) : Desk := { k with calls := k.calls ++ [call] }

/-- The client has ended a link and does not write to it any more. -/
def Ended (k : Desk) (l : LinkId) : Prop := k.ends[l]?.getD (true, true) = (true, true)

end Desk

namespace Client

/-- A stop is seen by what providers keep a book of. What the server answers, the links that break
and the time are not seen, and others are free to change them. -/
def deskView (book : E → List Providers.Call) : View (Client E) Desk :=
  ⟨fun c => ⟨c.gist, c.wiring.ends, book c.outside⟩, fun _ _ => rfl⟩

variable (book : E → List Providers.Call)

theorem shows_desk : (deskView book).Shows Desk.gist fun g k => { k with gist := g } where
  overlooks c w h := by
    have hgist : gist { c with wiring := w } = c.gist := c.gist_setWiring h.length_eq h.transcript
    simp only [deskView, hgist, h.ends]
  part_see _ := rfl
  part_put _ _ := rfl
  put_put _ _ _ := rfl
  put_part _ := rfl
  see_eq hl ho := by simp only [deskView, Wiring.ends, hl, ho]

theorem desk_modifyWiring {f : Wiring → Wiring} {c : Client E} (h : c.wiring.Quiet (f c.wiring)) :
    (deskView book).see (HasWiring.modify f c) =
      { (deskView book).see c with ends := (f c.wiring).ends } := by
  simp only [deskView, c.gist_modifyWiring h]
  rfl

end Client

/-- A provider that is stopped or released puts it into the book, and leaves everything else that is
seen as it was. -/
structure Providers.Booked (net : Providers (Client E) (Job K)) (book : E → List Call) : Prop where
  stop {t : TaskId} (provider : ProviderId) (k : Desk) :
    (net.stop provider).Solo (Client.deskView book) t k
      (fun _ k' => k' = k.call (.stopped provider)) fun _ => True
  release {t : TaskId} (definition : ServerDefinition) (root : Path) (k : Desk) :
    (net.release definition root).Solo (Client.deskView book) t k
      (fun _ k' => k' = k.call (.released definition root)) fun _ => True

/-! ## Ending a link -/

/-- The client has ended the link, and neither reads from it nor writes to it any more. -/
structure Link.Ended (x : Link) : Prop where
  closing : x.closing = true
  connected : x.connected = false
  output : x.output = none

theorem Client.ended_of_desk (book : E → List Providers.Call) {c : Client E} {l : LinkId}
    (h : ((deskView book).see c).Ended l) : (c.wiring.link l).Ended := by
  have h : c.wiring.ends[l]?.getD (true, true) = (true, true) := h
  rw [c.wiring.getD_ends l, Link.ends, Prod.mk.injEq, Bool.and_eq_true, Bool.not_eq_true',
    Option.isNone_iff_eq_none] at h
  exact ⟨h.1.1, h.1.2, h.2⟩

/-- A link has been ended, and nothing else has changed. -/
structure Desk.Closes (l : LinkId) (k k' : Desk) : Prop where
  gist : k'.gist = k.gist
  calls : k'.calls = k.calls
  ended : k'.Ended l

namespace Link

variable {book : E → List Providers.Call}

theorem solo_close (l : LinkId) (k : Desk) :
    (close l : Prog E K Unit).Solo (Client.deskView book) t k (fun _ => k.Closes l)
      fun _ => True := by
  let end_ (x : Link) : Link := { x with closing := true, connected := false }
  have hview := Client.shows_desk book
  refine Solo.bind (solo_modify fun c hc => ?_)
  have hquiet : c.wiring.Quiet (c.wiring.updateLink l end_) := c.wiring.quiet_updateLink l fun _ => rfl
  have hended : ((c.wiring.updateLink l end_).ends[l]?.getD (true, true)).1 = true := by
    rw [Wiring.getD_ends, c.wiring.ends_updateLink l rfl]
    rfl
  rw [Client.desk_modifyWiring book (f := (·.updateLink l end_)) hquiet, hc]
  generalize (c.wiring.updateLink l end_).ends = ends at hended
  have houtput : (Program.locked (writingLock l)
      (Program.modify (HasWiring.modify (closeOutput l))) : Prog E K Unit).Solo
      (Client.deskView book) t { k with ends } (fun _ => k.Closes l) fun _ => True := by
    refine Solo.locked (fun lock c => ?_) (solo_modify fun c hc => ?_) trivial
    · exact hview.overlooks.updateLink l (f := fun link => { link with writing := lock })
        (fun _ => rfl) c
    · rw [Client.desk_modifyWiring book (f := closeOutput l) (Wiring.quiet_closeOutput l c.wiring), hc]
      have hends : c.wiring.ends = ends := congrArg Desk.ends hc
      rw [← hends, Wiring.getD_ends] at hended
      refine ⟨rfl, rfl, ?_⟩
      rw [Desk.Ended, Wiring.getD_ends, Wiring.ends_closeOutput, hended]
  refine Solo.bind (houtput.mono (fun _ k₁ h => ?_) fun _ h => h)
  refine Solo.bind ((hview.overlooks.stopReader l).solo (fun _ => ?_) trivial)
  refine solo_modify fun d hd => ?_
  have hfailed := hview.overlooks d (d.wiring.passes_failPending l "Transport closed")
  rw [hd] at hfailed
  exact hfailed.symm ▸ h

end Link

/-! ## Taking a server apart -/

/-- The gist once all sessions of a server have been closed. -/
def Gist.dismissAll (s : ServerId) (g : Gist) : Gist :=
  ((g.server s).connected.map (·.2)).foldl (fun g x => g.dismiss x)
    (g.put s (g.server s).takeSessions.1)

/-- What a server that is reached through `a` hears of a session that is closed. -/
def Session.farewell (a : Access) (x : Session) : List Link.Event :=
  if x.isOpen = true ∧ a.capabilities.openClose = true then [x.closing] else []

namespace Gist

variable {g : Gist} {a : Access} {x y : SessionId}

theorem exists_close (x : SessionId) (g : Gist) : ∃ (f : Session → Session) (transcript : _),
    g.close x = { g with
      sessions := g.sessions.modify x f, ledger := { g.ledger with transcript } } := by
  unfold close
  dsimp only
  split
  · exact ⟨id, _, by rw [List.modify_id]⟩
  split
  · cases (g.server (g.session x).server).access with
    | none => exact ⟨_, _, rfl⟩
    | some a =>
        rw [Option.elim_some]
        split <;> exact ⟨_, _, rfl⟩
  · exact ⟨_, _, rfl⟩

theorem said_close (hserver : (g.session x).server = a.server)
    (ha : (g.server a.server).access = some a) (hreaches : a.Reaches g) :
    (g.close x).said a.link = g.said a.link ++ (g.session x).farewell a := by
  unfold close Session.farewell Session.isOpen
  dsimp only
  rw [hserver, ha, Option.elim_some]
  cases (g.session x).closed with
  | true => simp
  | false =>
      cases (g.session x).opened with
      | false => simp [said]
      | true =>
          by_cases hopen : a.capabilities.openClose = true
          · simp only [hreaches, hopen, and_self, if_true]
            exact said_say_same ..
          · simp [hopen, said]

/-- The session is taken out of the index, and the rest does not concern the index. -/
theorem exists_dismiss (x : SessionId) (g : Gist) : ∃ (f : Session → Session) (transcript : _),
    g.dismiss x = { g with
      sessions := g.sessions.modify x f
      ledger := { g.ledger with
        index := g.ledger.index.remove (g.session x).uri x, transcript } } :=
  exists_close x _

theorem session_dismiss_ne (h : x ≠ y) : (g.dismiss x).session y = g.session y := by
  obtain ⟨f, _, heq⟩ := exists_dismiss x g
  simp [heq, session, h]

theorem servers_dismiss (x : SessionId) (g : Gist) :
    (g.dismiss x).ledger.servers = g.ledger.servers := by
  obtain ⟨_, _, heq⟩ := exists_dismiss x g
  rw [heq]

theorem server_eq {g' : Gist} (h : g'.ledger.servers = g.ledger.servers) (s : ServerId) :
    g'.server s = g.server s := by
  rw [server, server, Ledger.server, Ledger.server, h]

/-- A session that is to be closed is known by its document as long as it is in the index. -/
theorem index_dismissAll {xs : List SessionId} (hnodup : xs.Nodup) (g : Gist) :
    (xs.foldl (fun g x => g.dismiss x) g).ledger.index.entries =
      g.ledger.index.entries.filter fun e =>
        !xs.any fun x => e.1 == (g.session x).uri && e.2.session == x := by
  induction xs generalizing g with
  | nil => simp
  | cons x xs ih =>
      obtain ⟨hx, hnodup⟩ := List.nodup_cons.1 hnodup
      have hindex : (g.dismiss x).ledger.index.entries =
          g.ledger.index.entries.filter fun e =>
            !(e.1 == (g.session x).uri && e.2.session == x) := by
        obtain ⟨_, _, heq⟩ := exists_dismiss x g
        rw [heq]
        rfl
      rw [List.foldl_cons, ih hnodup, hindex, List.filter_filter]
      refine List.filter_congr fun e _ => ?_
      have hrest : (xs.any fun y => e.1 == ((g.dismiss x).session y).uri && e.2.session == y) =
          xs.any fun y => e.1 == (g.session y).uri && e.2.session == y := by
        rw [Bool.eq_iff_iff, List.any_eq_true, List.any_eq_true]
        refine exists_congr fun y => and_congr_right fun hy => ?_
        rw [session_dismiss_ne fun h : x = y => hx (h ▸ hy)]
      rw [hrest, List.any_cons, Bool.not_or, Bool.and_comm]

theorem said_dismissAll {xs : List SessionId} (hnodup : xs.Nodup)
    (hservers : ∀ x ∈ xs, (g.session x).server = a.server)
    (ha : (g.server a.server).access = some a) (hreaches : a.Reaches g) :
    (xs.foldl (fun g x => g.dismiss x) g).said a.link =
      g.said a.link ++ xs.flatMap fun x => (g.session x).farewell a := by
  induction xs generalizing g with
  | nil => simp
  | cons x xs ih =>
      obtain ⟨hx, hnodup⟩ := List.nodup_cons.1 hnodup
      obtain ⟨hserver, hservers⟩ := List.forall_mem_cons.1 hservers
      have hsame {y : SessionId} (hy : y ∈ xs) : (g.dismiss x).session y = g.session y :=
        session_dismiss_ne fun h => hx (h ▸ hy)
      have hserver' := server_eq (servers_dismiss x g) a.server
      have hsaid : (g.dismiss x).said a.link = g.said a.link ++ (g.session x).farewell a :=
        said_close (g := { g with ledger := { g.ledger with
          index := g.ledger.index.remove (g.session x).uri x } }) hserver ha hreaches
      rw [List.foldl_cons, ih hnodup (fun y hy => by rw [hsame hy]; exact hservers y hy)
        (hserver' ▸ ha) (by rw [Access.Reaches, hserver']; exact hreaches), hsaid, List.flatMap_cons,
        List.append_assoc]
      congr 2
      exact List.flatMap_congr fun y hy => by rw [hsame hy]

theorem servers_dismissAll (xs : List SessionId) (g : Gist) :
    (xs.foldl (fun g x => g.dismiss x) g).ledger.servers = g.ledger.servers := by
  induction xs generalizing g with
  | nil => rfl
  | cons x xs ih => exact (ih _).trans (servers_dismiss x g)

end Gist

/-- How a stop goes on once the connection has been taken out of the server: what is asked of the
server and of providers. -/
structure Desk.Leaves (s : ServerId) (connection : Option Connection) (k k' : Desk) : Prop where
  servers : k'.gist.ledger.servers = k.gist.ledger.servers
  index : k'.gist.ledger.index = k.gist.ledger.index
  said {x : Connection} (hx : connection = some x) : ∃ events, Link.Parting events ∧
    k'.gist.said x.link = k.gist.said x.link ++ events
  calls : k'.calls = k.calls ++ connection.elim [] fun x =>
    [.stopped x.provider, .released (k.gist.server s).definition (k.gist.server s).root]
  ended {x : Connection} (hx : connection = some x) : k'.Ended x.link

/-- What has become of a server that was stopped, and of the index, its link and its provider. -/
structure Desk.Stops (s : ServerId) (k k' : Desk) : Prop where
  length : k'.gist.ledger.servers.length = k.gist.ledger.servers.length
  server : k'.gist.server s = (k.gist.server s).halted
  index : k'.gist.ledger.index = (k.gist.dismissAll s).ledger.index
  said {x : Connection} (hx : (k.gist.server s).connection = some x) :
    ∃ events, Link.Parting events ∧
      k'.gist.said x.link = (k.gist.dismissAll s).said x.link ++ events
  calls : k'.calls = k.calls ++ (k.gist.server s).connection.elim [] fun x =>
    [.stopped x.provider, .released (k.gist.server s).definition (k.gist.server s).root]
  ended {x : Connection} (hx : (k.gist.server s).connection = some x) : k'.Ended x.link

/-- The last thing that is changed is the status of the server. -/
theorem Desk.Leaves.stops {k k' : Desk} (hs : s < k.gist.ledger.servers.length)
    (h : Desk.Leaves s ((k.gist.dismissAll s).server s).connection
      { k with gist := (k.gist.dismissAll s).put s ((k.gist.dismissAll s).server s).beginStop.1 } k') :
    k.Stops s { k' with gist := k'.gist.put s (k'.gist.server s).endStop } := by
  let x : Server := k.gist.server s
  have hservers := Gist.servers_dismissAll (x.connected.map (·.2)) (k.gist.put s x.takeSessions.1)
  have hlength : (k.gist.dismissAll s).ledger.servers.length = k.gist.ledger.servers.length :=
    (congrArg List.length hservers).trans (Ledger.length_put ..)
  have htaken : (k.gist.dismissAll s).server s = x.takeSessions.1 :=
    (Gist.server_eq hservers s).trans (Gist.server_put_same hs)
  have hlength' : k'.gist.ledger.servers.length = k.gist.ledger.servers.length :=
    ((congrArg List.length h.servers).trans (Ledger.length_put ..)).trans hlength
  have hbegun : k'.gist.server s = x.takeSessions.1.beginStop.1 := by
    rw [Gist.server_eq h.servers s, Gist.server_put_same (hlength ▸ hs), htaken]
  have hproject : ((k.gist.dismissAll s).put s ((k.gist.dismissAll s).server s).beginStop.1).server s =
      x.takeSessions.1.beginStop.1 := by
    rw [Gist.server_put_same (hlength ▸ hs), htaken]
  rw [htaken] at h
  refine ⟨(Ledger.length_put ..).trans hlength', ?_, h.index, h.said, ?_, h.ended⟩
  · rw [hbegun]
    exact Gist.server_put_same (hlength' ▸ hs)
  · have hcalls := h.calls
    rw [htaken] at hproject
    rw [hproject] at hcalls
    exact hcalls

namespace Server

/-- What is asked of a server that is stopped, and of the providers it came from. -/
def leave (net : Providers (Client E) (Job K)) (s : ServerId) (access : Option Access) :
    Option Connection → Prog E K (Option TaskId)
  | none => return none
  | some connection => do
    Program.stop connection.handshake
    disconnectLink access connection.link
    net.stop connection.provider
    let (definition, root) ← Program.read fun c => ((c.server s).definition, (c.server s).root)
    net.release definition root
    return connection.errorLog

/-- A stop as far as it may have to wait. -/
def dismantle (net : Providers (Client E) (Job K)) (s : ServerId) :
    Prog E K (Option TaskId) := do
  let sessions ← Program.act (Client.visitServer s takeSessions)
  Program.each closeSession sessions
  let (connection, access) ← Program.act (Client.visitServer s beginStop)
  leave net s access connection

/-- The rest of it. -/
def conclude (s : ServerId) (errorLog : Option TaskId) : Prog E K Unit := do
  Program.modify (Client.updateServer s endStop)
  match errorLog with
  | none => return ()
  | some task => Program.stop task

variable {net : Providers (Client E) (Job K)} {book : E → List Providers.Call}

theorem stopHeld_eq (net : Providers (Client E) (Job K)) (s : ServerId) :
    stopHeld net s = (dismantle net s).bind (conclude s) := by
  have regroup {α β γ : Type} {p : Prog E K α} {f : α → Prog E K β} {k : β → Prog E K γ}
      {q : α → Prog E K γ} (h : ∀ a, q a = (f a).bind k) : p.bind q = (p.bind f).bind k := by
    rw [bind_assoc, funext h]
  refine regroup fun xs => regroup fun _ => regroup fun r => ?_
  obtain ⟨_ | x, access⟩ := r
  · exact (bind_done _).symm
  · exact regroup fun _ => regroup fun _ => regroup fun _ => regroup fun _ => regroup fun _ => rfl

theorem plain_server_of_see {c : Client E} {k : Desk} (hc : (Client.deskView book).see c = k) :
    (c.server s).plain = k.gist.server s := by
  rw [← c.server_gist, (Client.shows_desk book).gist_eq hc]

theorem solo_leave (hnet : net.Booked book) (access : Option Access) (connection : Option Connection)
    (k : Desk) :
    (leave net s access connection).Solo (Client.deskView book) t k
      (fun _ => Desk.Leaves s connection k) fun _ => True := by
  cases connection with
  | none => exact solo_done ⟨rfl, rfl, nofun, (List.append_nil _).symm, nofun⟩
  | some x =>
      refine Solo.bind (solo_stop ?_)
      refine Solo.bind ((solo_disconnectLink (Client.shows_desk book)
        (Link.solo_close x.link)).mono ?_ fun _ h => h)
      rintro _ k₁ ⟨events, hevents, hcloses⟩
      refine Solo.bind ((hnet.stop x.provider k₁).mono ?_ fun _ h => h)
      rintro _ _ rfl
      refine Solo.bind (solo_read fun c hc => ?_)
      have hserver : (c.server s).plain = k.gist.server s := by
        rw [plain_server_of_see hc]
        exact congrArg (·.server s) hcloses.gist
      have hdefinition : (c.server s).definition = (k.gist.server s).definition :=
        (congrArg Server.definition hserver :)
      have hroot : (c.server s).root = (k.gist.server s).root := (congrArg Server.root hserver :)
      rw [hdefinition, hroot]
      refine Solo.bind ((hnet.release _ _ _).mono ?_ fun _ h => h)
      rintro _ _ rfl
      have hcalls : k₁.calls = k.calls := hcloses.calls
      exact solo_done {
        servers := congrArg (·.ledger.servers) hcloses.gist
        index := congrArg (·.ledger.index) hcloses.gist
        said := fun hx => by
          obtain rfl := Option.some.inj hx
          refine ⟨events, hevents, ?_⟩
          exact (congrArg (·.said x.link) hcloses.gist).trans (Gist.said_sayAll_same ..)
        calls := by simp [Desk.call, hcalls]
        ended := fun hx => by
          obtain rfl := Option.some.inj hx
          exact hcloses.ended }

theorem solo_dismantle (hnet : net.Booked book) (k : Desk) :
    (dismantle net s).Solo (Client.deskView book) t k
      (fun _ k' =>
        let g := k.gist.dismissAll s
        Desk.Leaves s (g.server s).connection { k with gist := g.put s (g.server s).beginStop.1 } k')
      fun _ => True := by
  have hview := Client.shows_desk book
  refine Solo.bind (solo_act fun c hc => ?_)
  have htaken := hview.see_visitServer hc s takeSessions
  rw [commutes_takeSessions, plain_server_of_see hc] at htaken
  have hsessions : (c.visitServer s takeSessions).2 = (k.gist.server s).connected.map (·.2) := by
    rw [← plain_server_of_see hc]
    rfl
  rw [htaken, hsessions]
  refine Solo.bind ((solo_closeSessions hview _).mono ?_ fun _ h => h)
  rintro _ _ rfl
  let g : Gist := k.gist.dismissAll s
  let y : Server := g.server s
  refine Solo.bind (solo_act fun d hd => ?_)
  have hd : (Client.deskView book).see d = { k with gist := g } := hd
  have hbegun := hview.see_visitServer hd s beginStop
  rw [commutes_beginStop, plain_server_of_see hd] at hbegun
  have htook : (d.visitServer s beginStop).2 = (y.connection, y.access) := by
    have hplain : (d.server s).plain = y := plain_server_of_see hd
    rw [← hplain]
    rfl
  rw [hbegun, htook]
  exact solo_leave hnet y.access y.connection { k with gist := g.put s y.beginStop.1 }

theorem does_conclude (errorLog : Option TaskId) :
    Does (Client.deskView book).Same t (conclude s errorLog : Prog E K Unit) fun c _ c' =>
      (Client.deskView book).see c' = (Client.deskView book).see (c.updateServer s endStop) ∧
        (c'.server s).registrations = .empty := by
  refine ((does_modify (Client.updateServer s endStop)).bind (S := fun _ c _ c' =>
    (Client.deskView book).see c' = (Client.deskView book).see c ∧
      (c'.server s).registrations = (c.server s).registrations) fun _ => ?_).mono ?_
  · cases errorLog with
    | none =>
        refine (does_done ()).mono ?_
        rintro c _ _ ⟨-, rfl⟩
        exact ⟨rfl, rfl⟩
    | some task =>
        refine (does_stop task).mono ?_
        rintro c _ _ (rfl | rfl)
        · exact ⟨rfl, rfl⟩
        · exact ⟨View.see_wake _ _ _, rfl⟩
  · rintro c _ c' ⟨_, _, rfl, hsee, hregistrations⟩
    exact ⟨hsee, hregistrations.trans (c.registrations_endStop s)⟩

theorem does_stopHeld (hnet : net.Booked book) :
    Does (Client.deskView book).Same t (stopHeld net s) fun c _ c' =>
      (s < c.gist.ledger.servers.length →
        ((Client.deskView book).see c).Stops s ((Client.deskView book).see c')) ∧
        (c'.server s).registrations = .empty := by
  rw [stopHeld_eq]
  refine ((Solo.does fun k => solo_dismantle hnet k).bind fun _ => does_conclude _).mono ?_
  rintro c _ c' ⟨_, c₁, hleaves, hsee, hregistrations⟩
  have hended := (Client.shows_desk book).see_visitServer (c := c₁) rfl s fun x => (x.endStop, ())
  rw [plain_endStop, ← c₁.server_gist] at hended
  refine ⟨fun hs => ?_, hregistrations⟩
  rw [hsee.trans hended]
  exact hleaves.stops hs

/-- Nothing else happens to the lifecycle than that it is taken and given back. -/
theorem ran_stop (hnet : net.Booked book) {m : Nat} {rt rt' : Runtime (Client E) (Job K)}
    {aborted : Bool} (hs : s < rt.world.gist.ledger.servers.length) (h : Runtime.Ran (Client.deskView book).Same m rt
      ⟨t, stop net s, [], aborted⟩ rt' ()) :
    (∃ k, Desk.Stops s { (Client.deskView book).see rt.world with gist := rt.world.gist.taken s } k ∧
      (Client.deskView book).see rt'.world = { k with gist := k.gist.returned s }) ∧
    (rt'.world.server s).registrations = .empty := by
  have hview := Client.shows_desk book
  let put (lock : Lock) (k : Desk) : Desk :=
    { k with gist := k.gist.put s { k.gist.server s with lifecycle := lock } }
  have hwrite (lock : Lock) (c : Client E) :
      (Client.deskView book).see ((Client.lifecycleLock s).write lock c) =
        put lock.plain ((Client.deskView book).see c) := by
    let write (x : Server) : Server × Unit := ({ x with lifecycle := lock }, ())
    exact hview.see_of_gist rfl (c.links_visitServer s write) (c.outside_visitServer s write)
      (c.gist_writeLifecycle s lock)
  have hread (c : Client E) : put ((Client.lifecycleLock s).read c).plain
      ((Client.deskView book).see c) = (Client.deskView book).see c :=
    congrArg (fun g => { (Client.deskView book).see c with gist := g }) (c.gist_putLifecycle s)
  obtain ⟨m₁, rt₁, _, -, ⟨htaken, -⟩, hheld⟩ := (solo_acquire (K := K) (t := t)
    (k := (Client.deskView book).see rt.world) hwrite hread).brings.goes Runtime.calm_nil h
  obtain ⟨c, ⟨hstops, hregistrations⟩, hrt'⟩ :=
    ((does_stopHeld hnet).holding (Client.lifecycleLock s).release).ran hheld
  have hgist : rt₁.world.gist = rt.world.gist.taken s := (congrArg Desk.gist htaken :)
  rw [htaken, hgist] at hstops
  refine ⟨⟨_, hstops ((Ledger.length_put ..).symm ▸ hs), ?_⟩, ?_⟩
  · rw [hrt']
    exact Lock.Place.see_release hwrite c
  · rw [hrt', ← hregistrations]
    let write (x : Server) : Server × Unit := ({ x with lifecycle := x.lifecycle.release.1 }, ())
    rcases Client.server_visitServer s s write c with heq | ⟨-, _, heq⟩
    · exact (congrArg Server.registrations heq :)
    · exact (congrArg Server.registrations heq :)

end Server

/-! ## Servers that are started -/

namespace Affairs

variable {A B : Affairs K} {may : TaskId → String → Prop} {given : String → Prop}

/-- A server that is started can be reached, unless it is being stopped. -/
def Served (A : Affairs K) : Prop :=
  ∀ s, (A.server s).status = .started →
    (A.server s).access.isSome = true ∨ ∃ t, (A.roles t).hold = some (s, .stopping)

theorem served_act (hA : A.Sane) (h : A.Served) (hAB : Act A B) : B.Served := by
  intro s hs
  have served := h s
  have drives := @hA.drives
  by_contra hn
  obtain ⟨hnone, hno⟩ := not_or.1 hn
  have hno t := not_exists.1 hno t
  cases hAB <;> simp only [roles_put, roles_cast, roles_say, roles_strike, roles_addLink] at hno <;>
    grind [Server.status_endStop, Server.move]

theorem served_step (hA : A.Sane) (h : A.Served) (hAB : Step may given A B) : B.Served := by
  cases hAB with
  | act hAB => exact served_act hA h hAB
  | aside hAB =>
    have c := hA.still hAB
    intro s hs
    rw [(c.servers s).status] at hs
    rw [(c.servers s).access, c.roles]
    exact h s hs

end Affairs

theorem House.New.served {given : String → Prop} {n : Nat} {net : Providers (Client E) (Job K)}
    {outside : K → Prog E K Unit} {c : House given n E K} (hc : New net outside c) :
    c.scene.affairs.Served := by
  intro s hs
  obtain ⟨definition, root, heq⟩ := hc.server_eq s
  rw [heq] at hs
  exact nomatch hs

/-! ## A server that was stopped -/

/-- What a stop makes of a client, as providers keep book of it. -/
structure Client.Stopped (book : E → List Providers.Call) (s : ServerId) (before after : Client E) :
    Prop where
  connected : (after.server s).connected = []
  queue : (after.server s).queue = []
  connection : (after.server s).connection = none
  access : (after.server s).access = none
  registrations : (after.server s).registrations = .empty
  status : (after.server s).status =
    if (before.server s).status = .failed then .failed else .stopped
  index : after.index.entries = before.index.entries.filter fun e => e.2.server != s
  ended {k : Connection} (hk : (before.server s).connection = some k) :
    (after.wiring.link k.link).Ended
  /-- The provider of the connection is stopped and released, once each. -/
  calls : book after.outside = book before.outside ++ (before.server s).connection.elim [] fun k =>
    [.stopped k.provider, .released (before.server s).definition (before.server s).root]
  /-- A server that was started hears of the documents that are closed before it is asked to shut
  down. -/
  told (h : (before.server s).status = .started) : ∃ a events,
    (before.server s).access = some a ∧ Link.Parting events ∧
      after.wiring.said a.link = before.wiring.said a.link ++
        ((before.server s).connected.flatMap fun e => (before.session e.2).farewell a) ++ events

namespace Client

theorem server_taken (c : Client E) (hs : s < c.ledger.servers.length) :
    (c.gist.taken s).server s = { (c.server s).plain with lifecycle := ⟨.taken, []⟩ } := by
  rw [← c.server_gist]
  exact Gist.server_put_same hs

theorem connected_taken (c : Client E) (hs : s < c.ledger.servers.length) :
    ((c.gist.taken s).server s).connected = (c.server s).connected := by
  rw [c.server_taken hs]
  rfl

end Client

namespace Scene

variable {x : Scene (Client E) (Job K) (Role K)}

theorem nodup_sessions (h : x.Sane) (hd : x.affairs.Distinct) (s : ServerId) :
    ((x.world.server s).connected.map (·.2)).Nodup := by
  have hserver : x.affairs.server s = (x.world.server s).plain := x.world.server_ledger s
  have hnodup : ((x.world.server s).connected.map (·.1)).Nodup := by
    have hconnected := (hd s).connected
    rwa [hserver] at hconnected
  have huris : (x.world.server s).connected.map (·.1) =
      ((x.world.server s).connected.map (·.2)).map fun y => (x.world.session y).uri := by
    rw [List.map_map]
    exact List.map_congr_left fun e he => (keyed_uri h.keyed rfl he).symm
  rw [huris] at hnodup
  exact hnodup.of_map _

/-- A session of the server is what a sane index has of it. -/
theorem any_connected (h : x.Sane) (hn : x.affairs.Neat) (hhome : x.world.AtHome) {s : ServerId}
    (hs : s < x.world.ledger.servers.length) (hfree : (x.world.server s).lifecycle.owner ≠ .taken)
    {e : String × DocumentIndex.Entry} (he : e ∈ x.world.index.entries) :
    (((x.world.server s).connected.map (·.2)).any fun y =>
      e.1 == (x.world.session y).uri && e.2.session == y) = (e.2.server == s) := by
  rw [Bool.eq_iff_iff, List.any_eq_true, beq_iff_eq]
  constructor
  · rintro ⟨y, hy, heq⟩
    obtain ⟨huri, rfl⟩ : e.1 = (x.world.session y).uri ∧ e.2.session = y := by simpa using heq
    obtain ⟨⟨uri, _⟩, hmem, rfl⟩ := List.mem_map.1 hy
    refine hhome.server_eq_of_index he ?_
    rwa [huri, keyed_uri h.keyed rfl hmem]
  · rintro rfl
    have hmem : (e.1, e.2.session) ∈ (x.world.server e.2.server).connected :=
      connected_of_index h hn hs hfree he
    refine ⟨e.2.session, List.mem_map_of_mem hmem, ?_⟩
    rw [keyed_uri h.keyed rfl hmem, beq_self_eq_true, beq_self_eq_true]
    rfl

/-- A server that is started can be reached, if nobody has its lifecycle. -/
theorem exists_access (h : x.Sane) (hserved : x.affairs.Served) {s : ServerId}
    (hfree : (x.world.server s).lifecycle.owner ≠ .taken)
    (hs : (x.world.server s).status = .started) : ∃ a k, (x.world.server s).access = some a ∧
      a.server = s ∧ a.generation = (x.world.server s).generation ∧
      (x.world.server s).connection = some k ∧ k.link = a.link := by
  have hserver : x.affairs.server s = (x.world.server s).plain := x.world.server_ledger s
  have hsome := hserved s (by rw [hserver]; exact hs)
  rw [hserver] at hsome
  rcases hsome with hsome | ⟨t, hold⟩
  · obtain ⟨a, ha⟩ := Option.isSome_iff_exists.1 hsome
    have hown := h.access_eq (s := s) (a := a) (by rw [hserver]; exact ha)
    rw [hserver] at hown
    obtain ⟨k, hk, hlink⟩ := Option.map_eq_some_iff.1 hown.2.2
    exact ⟨a, k, ha, hown.1, hown.2.1, hk, hlink⟩
  · have htaken := h.taken hold
    rw [hserver] at htaken
    exact absurd ((Server.owner_plain _).1 htaken) hfree

section

variable (h : x.Sane) (hd : x.affairs.Distinct) (hhome : x.world.AtHome) {s : ServerId}
  (hs : s < x.world.ledger.servers.length)

include h hd hhome hs

theorem index_dismissAll (hn : x.affairs.Neat)
    (hfree : (x.world.server s).lifecycle.owner ≠ .taken) :
    ((x.world.gist.taken s).dismissAll s).ledger.index.entries =
      x.world.index.entries.filter fun e => e.2.server != s := by
  have hsession (y : SessionId) : (x.world.gist.session y).uri = (x.world.session y).uri := by
    rw [x.world.session_gist]
    rfl
  rw [Gist.dismissAll, x.world.connected_taken hs, Gist.index_dismissAll (nodup_sessions h hd s)]
  refine List.filter_congr fun e he => ?_
  refine congrArg (!·) (Eq.trans ?_ (any_connected h hn hhome hs hfree he))
  simp only [← hsession]
  rfl

theorem said_dismissAll {a : Access} (ha : (x.world.server s).access = some a)
    (hserver : a.server = s) (hgeneration : a.generation = (x.world.server s).generation)
    (hstarted : (x.world.server s).status = .started) :
    ((x.world.gist.taken s).dismissAll s).said a.link = x.world.wiring.said a.link ++
      (x.world.server s).connected.flatMap fun e => (x.world.session e.2).farewell a := by
  let g : Gist := x.world.gist.taken s
  have hsession (y : SessionId) : (g.put s (g.server s).takeSessions.1).session y =
      (x.world.session y).unlocked := x.world.session_gist y
  have hg : g.server s = { (x.world.server s).plain with lifecycle := ⟨.taken, []⟩ } :=
    x.world.server_taken hs
  have htaken : (g.put s (g.server s).takeSessions.1).server a.server =
      (g.server s).takeSessions.1 := by
    rw [hserver]
    exact Gist.server_put_same ((Ledger.length_put ..).symm ▸ hs)
  have hxs : (g.server s).connected.map (·.2) = (x.world.server s).connected.map (·.2) :=
    congrArg (List.map (·.2)) (x.world.connected_taken hs)
  have hclosed := Gist.said_dismissAll (g := g.put s (g.server s).takeSessions.1) (a := a)
    (nodup_sessions h hd s) (fun y hy => ?_) ?_ ?_
  · rw [← hxs] at hclosed
    refine hclosed.trans ?_
    rw [hxs, List.flatMap_map]
    simp only [hsession]
    rfl
  · obtain ⟨e, he, rfl⟩ := List.mem_map.1 hy
    rw [hsession, hserver]
    exact hhome.server_eq he
  · rw [htaken, hg]
    exact ha
  · rw [Access.Reaches, htaken, hg]
    exact ⟨hgeneration.symm, hstarted⟩

end

theorem stopped (h : x.Sane) (hn : x.affairs.Neat) (hd : x.affairs.Distinct)
    (hserved : x.affairs.Served) (hhome : x.world.AtHome) {s : ServerId}
    (hs : s < x.world.ledger.servers.length)
    (hfree : (x.world.server s).lifecycle.owner ≠ .taken) {net : Providers (Client E) (Job K)}
    {book : E → List Providers.Call} (hnet : net.Booked book) {m : Nat}
    {rt rt' : Runtime (Client E) (Job K)} (hrt : rt.world = x.world)
    (hran : Runtime.Ran (Client.deskView book).Same m rt
      ⟨t, Server.stop net s, [], false⟩ rt' ()) :
    Client.Stopped book s x.world rt'.world := by
  let g : Gist := x.world.gist.taken s
  obtain ⟨⟨k, hstops, hsee⟩, hregistrations⟩ := Server.ran_stop hnet (hrt ▸ hs) hran
  rw [hrt] at hstops
  have hg : g.server s = { (x.world.server s).plain with lifecycle := ⟨.taken, []⟩ } :=
    x.world.server_taken hs
  have hgist : rt'.world.gist = k.gist.returned s := (congrArg Desk.gist hsee :)
  have hafter : (rt'.world.server s).plain =
      { (g.server s).halted with lifecycle := Lock.free } := by
    have hlength : s < k.gist.ledger.servers.length := by
      rw [hstops.length]
      exact (Ledger.length_put ..).symm ▸ hs
    rw [← rt'.world.server_gist, hgist, Gist.server_returned hlength, hstops.server]
  exact {
    connected := (congrArg Server.connected hafter :).trans (g.server s).connected_halted
    queue := (congrArg Server.queue hafter :).trans (g.server s).queue_halted
    connection := (congrArg Server.connection hafter :).trans (g.server s).connection_halted
    access := (congrArg Server.access hafter :).trans (g.server s).access_halted
    registrations := hregistrations
    status := by
      refine (congrArg Server.status hafter :).trans ((Server.status_endStop _).trans ?_)
      rw [hg]
      rfl
    index := by
      have hindex : rt'.world.index = (g.dismissAll s).ledger.index :=
        (congrArg (·.ledger.index) hgist :).trans hstops.index
      rw [hindex, index_dismissAll h hd hhome hs hn hfree]
    ended := fun hy => by
      refine Client.ended_of_desk book ?_
      rw [hsee]
      exact hstops.ended ((congrArg Server.connection hg :).trans hy)
    calls := by
      have hcalls : book rt'.world.outside = k.calls := (congrArg Desk.calls hsee :)
      have hserver : { (Client.deskView book).see x.world with gist := g }.gist.server s =
        { (x.world.server s).plain with lifecycle := ⟨.taken, []⟩ } := hg
      rw [hcalls, hstops.calls, hserver]
      rfl
    told := fun hstarted => by
      obtain ⟨a, y, ha, hserver, hgeneration, hy, hlink⟩ := exists_access h hserved hfree hstarted
      obtain ⟨events, hevents, hsaid⟩ :=
        hstops.said (x := y) ((congrArg Server.connection hg :).trans hy)
      refine ⟨a, events, ha, hevents, ?_⟩
      rw [hlink] at hsaid
      refine (congrArg (·.said a.link) hgist :).trans (hsaid.trans ?_)
      exact congrArg (· ++ events) (said_dismissAll h hd hhome hs ha hserver hgeneration hstarted) }

end Scene

namespace House

variable {given : String → Prop} {n : Nat} {net : Providers (Client E) (Job K)}
  {outside : K → Prog E K Unit} {book : E → List Providers.Call} {c d : House given n E K}
  {past : List (Moment (Client E) (Job K))}

/-- Whatever has become of a server, and however it takes the stop, a stop leaves nothing of it once
it comes to its end, if nothing else is done to the server meanwhile. -/
theorem New.stop_clean (hc : New net outside c) (hnet : net.Aloof)
    (hhomely : net.Proper Client.homely) (hbook : net.Booked book)
    (houtside : ∀ k, (outside k).Aloof) (houtside' : ∀ k, (outside k).Proper Client.homely)
    (w : Hall.Walk (homelyRules given n net) c past d) (s : Fin n)
    (hfree : (d.world.server s).lifecycle.owner ≠ .taken) {t : TaskId} {m : Nat}
    {rt rt' : Runtime (Client E) (Job K)} (hrt : rt.world = d.world)
    (h : Runtime.Ran (Client.deskView book).Same m rt
      ⟨t, Server.stop net s, [], false⟩ rt' ()) :
    Client.Stopped book s d.world rt'.world := by
  have hhome : d.world.AtHome := hc.atHome hhomely houtside' w
  obtain ⟨x, hleads, hkept⟩ := hc.reaches hnet houtside (walk_of_homely w) 0
  have hlength : s < x.world.ledger.servers.length :=
    Nat.lt_of_lt_of_eq s.isLt ((hleads.length_eq hc.sane).trans hc.length_ledger).symm
  rw [← hkept.world_eq] at hhome hfree hrt ⊢
  exact Scene.stopped (hleads.sane hc.sane) (hleads.neat hc.sane hc.distinct hc.neat)
    (hleads.distinct hc.sane hc.distinct)
    (hleads.keeps hc.sane hc.served fun hA hAB h => Affairs.served_step hA h hAB) hhome hlength
    hfree hbook hrt h

end House

/-! ## A stop with a book -/

namespace Providers

/-- Providers that open two new pipes for every process, and keep a book of what ends. -/
def bookkeeping : Providers (Client (List Call)) (Job K) :=
  { (freshPipes : Providers (Client (List Call)) (Job K)) with
    stop := fun provider => Program.modify fun c =>
      { c with outside := c.outside ++ [.stopped provider] }
    release := fun definition root => Program.modify fun c =>
      { c with outside := c.outside ++ [.released definition root] } }

theorem aloof_bookkeeping : (bookkeeping : Providers _ (Job K)).Aloof :=
  ⟨aloof_freshPipes.acquire, aloof_freshPipes.start, fun _ => .await (fun _ _ => rfl) fun _ _ => rfl,
    fun _ _ => .await (fun _ _ => rfl) fun _ _ => rfl⟩

theorem homely_bookkeeping : (bookkeeping : Providers _ (Job K)).Proper Client.homely where
  acquire _ _ := follows_done _
  start _ := follows_act fun _ => .of_servers rfl rfl (List.Subset.refl _)
  stop _ := follows_modify fun _ => .of_servers rfl rfl (List.Subset.refl _)
  release _ _ := follows_modify fun _ => .of_servers rfl rfl (List.Subset.refl _)

theorem booked_bookkeeping : (bookkeeping : Providers _ (Job K)).Booked id where
  stop _ _ := solo_modify fun _ hc => hc ▸ rfl
  release _ _ _ := solo_modify fun _ hc => hc ▸ rfl

end Providers

namespace House

/-- One server, which gets new pipes whenever it starts, and an empty book. -/
def office : House (fun _ => True) 1 (List Providers.Call) Unit where
  runtime :=
    { world :=
        { Client.new [] with
          editor := { Editor.new with buffers := ⟨[Buffer.new ['o', 'n', 'e']]⟩ }
          servers := ⟨[Server.new ⟨[], [], .rawCommand [], none⟩ ['/']]⟩ }
      tasks := []
      nextId := 1
      perform := Job.perform .bookkeeping fun _ => .done () }
  calls := []

abbrev officeRules : Hall.Rules (Client (List Providers.Call)) (Job Unit)
    fun _ : Demand (fun _ => True) 1 => Unit := homelyRules (fun _ => True) 1 .bookkeeping

theorem new_office : New Providers.bookkeeping (fun _ => .done ()) office where
  length_eq := rfl
  servers _ hx := ⟨_, _, List.mem_singleton.1 hx⟩
  sessions := rfl
  index := rfl
  links := rfl
  transcript := rfl
  tasks := rfl
  calls := rfl
  perform_eq := rfl

/-- A document is connected to the server, which is started for it and answers to `initialize`. -/
def settling : List (Hall.Cue (Client (List Providers.Call)) (Demand (fun _ => True) 1)) :=
  [.begins (.connect ⟨0, Nat.zero_lt_one⟩ ⟨"file:///a", ['/', 'a'], ['/'], 0⟩ trivial), .call 0,
    .task 1,
    .changes (Client.heard "\x7b\"id\":1,\"result\":\x7b\"capabilities\":\x7b\x7d\x7d\x7d"),
    .task 1, .task 1]

theorem allowed_settling : ∀ cue ∈ settling, cue.Allowed officeRules := by
  have hhomes (message : String) (c : Client (List Providers.Call)) :
      (c.heard message).homes = c.homes := rfl
  simp [settling, Hall.Cue.Allowed, homelyRules, Client.beside_heard, hhomes]

/-- The server answers to `shutdown`. -/
theorem New.stop_clean_answered : ∃ past d m rt,
    Hall.Walk officeRules office past d ∧ (d.world.server 0).status = .started ∧
      (d.world.server 0).Has "file:///a" ∧
      Runtime.Ran (Client.deskView id).Same m d.runtime
        ⟨50, Server.stop .bookkeeping 0, [], false⟩ rt () ∧
      Client.Stopped id 0 d.world rt.world := by
  let answered : Client (List Providers.Call) → Client (List Providers.Call) :=
    HasWiring.modify (·.complete 0 2 (.ok .null))
  have hanswered : ∀ f ∈ [answered], ∀ c, (Client.deskView id).Same c (f c) :=
    List.forall_mem_singleton.2 fun c =>
      (Client.shows_desk id).overlooks c (c.wiring.passes_complete 0 2 (.ok .null))
  let stop : Task (Client (List Providers.Call)) (Job Unit) Unit :=
    ⟨50, Server.stop .bookkeeping 0, [], false⟩
  obtain ⟨past, d, w, hd⟩ := Hall.exists_walk_of_play (d := office)
    (P := fun _ d => (d.world.server 0).status = .started ∧
      (d.world.server 0).lifecycle.owner ≠ .taken ∧
      (d.world.server 0).isConnectedTo "file:///a" ∧
      ((d.runtime.attend [answered] Hall.patience stop).isSome) = true)
    allowed_settling (by decide +kernel)
  obtain ⟨hstatus, hfree, hconnected, hstop⟩ := of_decide_eq_true hd
  obtain ⟨⟨rt, _⟩, hstop⟩ := Option.isSome_iff_exists.1 hstop
  obtain ⟨m, hran⟩ := Runtime.ran_of_attend hanswered hstop
  exact ⟨past, d, m, rt, w, hstatus, .inl hconnected, hran,
    new_office.stop_clean Providers.aloof_bookkeeping Providers.homely_bookkeeping
      Providers.booked_bookkeeping (fun _ => .done ()) (fun _ => follows_done ()) w 0 hfree rfl hran⟩

end House

end LanguageClient
