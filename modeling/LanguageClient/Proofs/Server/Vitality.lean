import LanguageClient.Proofs.Client.Deeds
import LanguageClient.Proofs.Server.Opening
import LanguageClient.Proofs.Task.Liveness
namespace LanguageClient

/-!
# Nothing gets stuck

A start, a stop, the handling of a crash and a handshake can always come to their end: the locks on
their way are given back, a full pipe is broken, and an answer comes in the end. Only the lifecycle
of the server may not be taken by another task when they begin.
-/

open Program

variable {E K : Type} {α β : Type} {t : TaskId} {P : Gist → Prop} {s : ServerId}

/-! ## Links -/

namespace Wiring

theorem snd_offer (w : Wiring) (p : PipeId) (bytes : Bytes) (t : TaskId) :
    (w.offer p bytes t).2 = ((w.pipes.get p).offer bytes t).2.2 := by
  have hread : (w.visitPipe p (·.offer bytes t)).2 = ((w.pipes.get p).offer bytes t).2.2 := rfl
  rw [← hread]
  unfold offer
  split
  · rename_i hv
    rw [hv]
  · rfl

/-- A pipe that nobody reads any more lets no writer wait. -/
theorem offer_closeReader (w : Wiring) (p : PipeId) (bytes : Bytes) (t : TaskId) :
    ((w.closeReader p).offer p bytes t).2 ≠ .waits := by
  have hpipes : (w.closeReader p).pipes =
      w.pipes.update p fun _ => (w.pipes.get p).closeReader.1 := rfl
  rw [snd_offer, hpipes]
  cases hp : w.pipes.get? p with
  | none =>
      have hopen : w.pipes.get p = Pipe.open_ := by
        rw [Store.get, hp]
        rfl
      rw [Store.update_of_isNone hp, hopen]
      simp [Pipe.offer, Pipe.open_, Pipe.standardCapacity]
  | some pipe =>
      rw [Store.get_update_of_isSome (by simp [hp])]
      simp [Pipe.offer, Pipe.closeReader]

/-- What a pipe leaves of some bytes is less than all of them. -/
theorem length_rest_lt {w v : Wiring} {p : PipeId} {bytes taken rest : Bytes} {t : TaskId}
    (h : w.offer p bytes t = (v, .took taken rest)) (hrest : rest ≠ []) :
    rest.length < bytes.length := by
  have hread : ((w.pipes.get p).offer bytes t).2.2 = .took taken rest := by
    rw [← snd_offer, h]
  unfold Pipe.offer at hread
  dsimp only at hread
  split at hread
  · cases hread
  split at hread
  · cases hread
  · rename_i hroom
    obtain ⟨rfl, rfl⟩ := Pipe.Write.took.inj hread
    have hbytes : bytes ≠ [] := by
      rintro rfl
      exact hrest List.drop_nil
    have hpos : 0 < bytes.length := List.length_pos_of_ne_nil hbytes
    have hroom : (w.pipes.get p).capacity - (w.pipes.get p).content.length ≠ 0 :=
      fun h => hroom ⟨h, hbytes⟩
    rw [List.length_drop]
    omega

end Wiring

namespace Program

/-- What is still to be written becomes less with every round. -/
theorem vital_write (p : PipeId) (bytes : Bytes) :
    (write p bytes : Prog E K (Except ClientError Unit)).Vital Client.gistView t P := by
  intro g hg
  refine lively_iterate (P := fun _ => P) List.length (fun rest g hg => ?_) hg
  have hsee (c : Client E) : Client.gistView.see
      ({ c with wiring := (c.wiring.offer p rest t).1 } : Client E) = Client.gistView.see c :=
    Client.overlooks_gist c (c.wiring.passes_offer p rest t)
  refine lively_await (fun c d r hc hp => ?_) fun c d hc hp => ?_
  all_goals
    obtain ⟨rfl, hr⟩ := Prod.mk.inj hp
    have hd := (hsee c).trans hc
  · have hg : P (Client.gistView.see
        ({ c with wiring := (c.wiring.offer p rest t).1 } : Client E)) := by rwa [hd]
    rcases ho : c.wiring.offer p rest t with ⟨w, _ | _ | ⟨taken, _ | ⟨b, left⟩⟩⟩
    all_goals simp only [HasWiring.wiring, ho] at hr
    · obtain rfl := Option.some.inj hr
      exact hg
    · cases hr
    · obtain rfl := Option.some.inj hr
      exact hg
    · obtain rfl := Option.some.inj hr
      exact ⟨hg, Wiring.length_rest_lt ho (List.cons_ne_nil b left)⟩
  · refine ⟨hd, hd ▸ hg, ?_⟩
    have hbroken : Client.gistView.see
        ({ c with wiring := c.wiring.closeReader p } : Client E) = Client.gistView.see c :=
      Client.overlooks_gist c (.of_eq rfl rfl)
    refine ⟨_, (hbroken.trans hc).trans hd.symm, ?_⟩
    rcases ho : (c.wiring.closeReader p).offer p rest t with ⟨w, _ | _ | ⟨taken, _ | ⟨b, left⟩⟩⟩
    case waits =>
      exact absurd (congrArg Prod.snd ho) (c.wiring.offer_closeReader p rest t)
    all_goals simp [HasWiring.visit, HasWiring.wiring, ho]

theorem vital_outcome (promise : PromiseId) :
    (outcome promise : Prog E K (Except ClientError Json)).Vital Client.gistView t P := by
  refine vital_await (fun c => ?_) (fun _ => rfl) fun c => ?_
  · exact Client.overlooks_gist c (.of_eq rfl rfl)
  · let kept : Promise := ⟨some (.error .timeout), none⟩
    let promises : Store Promise := ⟨List.replicate (promise + 1) kept⟩
    refine ⟨{ c with wiring := { c.wiring with promises } },
      Client.overlooks_gist c (.of_eq rfl rfl), ?_⟩
    have hkept : promises.get promise = kept := by simp [promises, Store.get, Store.get?]
    simp [HasWiring.visit, HasWiring.wiring, Store.visit, hkept, Promise.await, kept]

end Program

namespace Link

/-- The lock for writing, like that of a session, is given back by whoever has it. -/
theorem vital_locked {p : Prog E K α} (l : LinkId) (h : p.Vital Client.gistView t P) :
    (Program.locked (writingLock l) p).Vital Client.gistView t P := by
  refine h.locked (fun lock c => ?_) fun c => ?_
  · exact Client.overlooks_gist.updateLink l (f := fun link => { link with writing := lock })
      (fun _ => rfl) c
  · exact c.wiring.links.get_update_eq l Link.writing (fun _ => rfl) rfl

theorem vital_send (l : LinkId) (m : OutgoingMessage) :
    (send l m : Prog E K (Except ClientError Unit)).Vital Client.gistView t P := by
  refine vital_locked l ((vital_read _).bind fun output => ?_)
  cases output with
  | none => exact vital_done _
  | some p => exact vital_write p _

theorem vital_notify (l : LinkId) (method : String) (params : Json) :
    (notify l method params : Prog E K (Except ClientError Unit)).Vital Client.gistView t P := by
  refine (vital_read _).bind fun connected => ?_
  cases connected with
  | true => exact vital_send l _
  | false => exact vital_done _

theorem vital_request (l : LinkId) (method : String) (params : Json) :
    (request l method params : Prog E K (Except ClientError Json)).Vital Client.gistView t P := by
  have henter (c : Client E) : Client.gistView.see (HasWiring.visit (·.enterRequest l) c).1 =
      Client.gistView.see c := Client.overlooks_gist c (c.wiring.passes_enterRequest l)
  have hforget (id : Int) (c : Client E) : Client.gistView.see
      (HasWiring.modify (·.updateLink l (·.forget id)) c) = Client.gistView.see c :=
    Client.overlooks_gist.updateLink l (f := (·.forget id)) (fun _ => rfl) c
  refine (vital_act fun c hc => ?_).bind fun entered => ?_
  · rwa [henter c]
  cases entered with
  | none => exact vital_done _
  | some entered =>
      obtain ⟨id, promise⟩ := entered
      refine Vital.holding ((vital_send l _).bind fun sent => ?_) fun c hc => ?_
      · cases sent with
        | error e => exact vital_done _
        | ok _ => exact vital_outcome promise
      · rwa [hforget id c]

/-- Where it does not matter what is noted. -/
theorem vital_ask (l : LinkId) (hP : ∀ g e, P g → P (g.say l e)) (method : String)
    (params : Json) :
    (ask l method params : Prog E K (Except ClientError Json)).Vital Client.gistView t P := by
  refine (vital_modify fun _ => hP _ _).bind fun _ => (vital_request l method params).bind
    fun outcome => ?_
  exact (vital_modify fun _ => hP _ _).bind fun _ => vital_done outcome

theorem vital_tell (l : LinkId) (hP : ∀ g e, P g → P (g.say l e)) (method : String)
    (params : Json) :
    (tell l method params : Prog E K (Except ClientError Unit)).Vital Client.gistView t P :=
  (vital_modify fun _ => hP _ _).bind fun _ => vital_notify l method params

end Link

/-- A request that is given some time. -/
theorem Prog.vital_limit {p : Prog E K α} (kind : RequestKind) (h : p.Vital Client.gistView t P) :
    (Prog.limit kind p).Vital Client.gistView t P := by
  have hrecord (ok : Bool) : Program.Vital Client.gistView t P (Program.modify fun c =>
      { c with timeouts := c.timeouts.record kind ok } : Prog E K Unit) := vital_modify fun _ => id
  refine (vital_read _).bind fun millis => (h.timeout millis).bind fun r => ?_
  cases r with
  | some a => exact (hrecord true).bind fun _ => vital_done _
  | none => exact (hrecord false).bind fun _ => vital_done _

/-! ## Programs that may change anything -/

/-- Whatever has happened to a client, the program can come to its end. -/
abbrev Prog.Vital (t : TaskId) (p : Prog E K α) : Prop :=
  Program.Vital Client.gistView t (fun _ => True) p

namespace Program

theorem vital_change (f : Client E → Client E) : Prog.Vital t (modify f : Prog E K Unit) :=
  vital_modify fun _ _ => trivial

theorem vital_visit (f : Client E → Client E × α) : Prog.Vital t (act f : Prog E K α) :=
  vital_act fun _ _ => trivial

end Program

namespace Link

theorem vital_stopReader (l : LinkId) : Prog.Vital t (stopReader l : Prog E K Unit) := by
  refine (vital_visit _).bind fun task => ?_
  cases task with
  | none => exact vital_done ()
  | some task => exact vital_stop task

theorem vital_close (l : LinkId) : Prog.Vital t (close l : Prog E K Unit) := by
  refine (vital_change _).bind fun _ => (vital_locked l (vital_change _)).bind fun _ => ?_
  exact (vital_stopReader l).bind fun _ => vital_change _

theorem vital_discard (l : LinkId) : Prog.Vital t (discard l : Prog E K Unit) :=
  (vital_change _).bind fun _ => vital_stopReader l

theorem vital_start (job : LinkId → Job K) (input output : PipeId) :
    Prog.Vital t (start job input output : Prog E K LinkId) := by
  refine (vital_visit _).bind fun l => (Program.vital_start (job l)).bind fun task => ?_
  exact (vital_change _).bind fun _ => vital_done l

end Link

/-! ## Sessions -/

namespace Access

theorem vital_report (a : Access) (f : Feature) (e : ClientError) :
    Prog.Vital t (a.gate.report f e : Prog E K Unit) := by
  unfold Gate.report
  split
  · refine (vital_read _).bind fun there => ?_
    cases there with
    | true => exact (vital_start _).bind fun _ => vital_done ()
    | false => exact vital_done ()
  · exact vital_done ()

theorem vital_call (a : Access) (f : Feature) (params : Json) :
    Prog.Vital t (a.gate.call f params : Prog E K Feature.Result) := by
  refine (vital_read _).bind fun admitted => ?_
  cases admitted with
  | false => exact vital_done _
  | true =>
      cases hf : f.isNotification with
      | true =>
          simp only [if_true]
          refine (Link.vital_tell a.link (fun _ _ => id) _ _).bind fun r => ?_
          cases r with
          | ok _ => exact vital_done _
          | error e => exact (a.vital_report f e).bind fun _ => vital_done _
      | false =>
          simp only [if_true]
          refine (Link.vital_ask a.link (fun _ _ => id) _ _).bind fun r => ?_
          cases r with
          | ok _ => exact vital_done _
          | error e => exact (a.vital_report f e).bind fun _ => vital_done _

theorem vital_tell (a : Access) (f : Feature) (params : Json) :
    Prog.Vital t (a.tell f params : Prog E K Unit) :=
  (a.vital_call f params).bind fun _ => vital_done ()

end Access

theorem Session.vital_locked {p : Prog E K α} (x : SessionId) (h : Prog.Vital t p) :
    Prog.Vital t (Program.locked (Client.sessionLock x) p) :=
  h.locked (Client.gist_writeSession x) fun c =>
    c.sessions.get_update_eq x Session.lock (fun _ => rfl) rfl

namespace Session

theorem vital_tellOpened (x : SessionId) : Prog.Vital t (tellOpened x : Prog E K Unit) := by
  refine vital_locked x ((vital_read _).bind fun session => ?_)
  split
  · exact vital_done ()
  refine (vital_change _).bind fun _ => (vital_read _).bind fun access => ?_
  cases access with
  | none => exact vital_done ()
  | some a => exact (vital_read _).bind fun text => a.vital_tell _ _

theorem vital_tellClosed (x : SessionId) : Prog.Vital t (tellClosed x : Prog E K Unit) := by
  refine vital_locked x ((vital_read _).bind fun session => ?_)
  split
  · exact vital_done ()
  refine (vital_change _).bind fun _ => ?_
  split
  · refine (vital_read _).bind fun access => ?_
    cases access with
    | none => exact vital_done ()
    | some a => exact a.vital_tell _ _
  · exact vital_done ()

end Session

/-! ## Servers -/

/-- The providers always come to an end. -/
structure Providers.Vital (net : Providers (Client E) (Job K)) : Prop where
  acquire {t : TaskId} (definition : ServerDefinition) (root : Path) :
    Prog.Vital t (net.acquire definition root)
  start {t : TaskId} (provider : ProviderId) : Prog.Vital t (net.start provider)
  stop {t : TaskId} (provider : ProviderId) : Prog.Vital t (net.stop provider)
  release {t : TaskId} (definition : ServerDefinition) (root : Path) :
    Prog.Vital t (net.release definition root)

namespace Server

theorem vital_pushSettings (s : ServerId) (a : Access) :
    Prog.Vital t (pushSettings s a : Prog E K Unit) := by
  refine (vital_read _).bind fun settings => ?_
  split
  · exact vital_done ()
  · exact a.vital_tell _ _

theorem vital_openSession (s : ServerId) (d : OpenDocument) :
    Prog.Vital t (openSession s d : Prog E K Unit) := by
  refine (vital_visit _).bind fun session => ?_
  cases session with
  | none => exact vital_done ()
  | some session => exact Session.vital_tellOpened session

theorem vital_closeSession (session : SessionId) :
    Prog.Vital t (closeSession session : Prog E K Unit) :=
  (vital_change _).bind fun _ => Session.vital_tellClosed session

theorem vital_connectStarted (s : ServerId) (d : OpenDocument) :
    Prog.Vital t (connectStarted s d : Prog E K Unit) := by
  refine (vital_visit _).bind fun started => ?_
  cases started with
  | true => exact vital_openSession s d
  | false => exact vital_done ()

theorem vital_shutDown (link : LinkId) : Prog.Vital t (shutDown link : Prog E K Unit) := by
  have hask : Prog.Vital t (Link.ask link "shutdown" .null : Prog E K _) :=
    Link.vital_ask link (fun _ _ _ => trivial) _ _
  refine (Prog.vital_limit .shutdown hask).bind fun r => ?_
  split
  · exact (Link.vital_tell link (fun _ _ _ => trivial) _ _).bind fun _ => vital_done ()
  · exact vital_done ()

theorem vital_disconnectLink (access : Option Access) (link : LinkId) :
    Prog.Vital t (disconnectLink access link : Prog E K Unit) := by
  have hclose : Prog.Vital t (Link.close link : Prog E K Unit) := Link.vital_close link
  cases access with
  | none => exact hclose
  | some a =>
      refine (vital_read _).bind fun connected => ?_
      cases connected with
      | true => exact (vital_shutDown link).bind fun _ => hclose
      | false => exact hclose

variable {net : Providers (Client E) (Job K)} (hnet : net.Vital)

include hnet

theorem vital_stopHeld (s : ServerId) : Prog.Vital t (stopHeld net s) := by
  refine (vital_visit _).bind fun sessions => (vital_each vital_closeSession sessions).bind fun _ => ?_
  refine (vital_visit _).bind fun ⟨connection, access⟩ => ?_
  cases connection with
  | none => exact vital_change _
  | some k =>
      refine (vital_stop k.handshake).bind fun _ => (vital_disconnectLink access k.link).bind
        fun _ => (hnet.stop k.provider).bind fun _ => (vital_read _).bind fun ⟨definition, root⟩ => ?_
      refine (hnet.release definition root).bind fun _ => (vital_change _).bind fun _ => ?_
      cases k.errorLog with
      | none => exact vital_done ()
      | some task => exact vital_stop task

omit hnet in
theorem vital_launchOver (owner : LinkOwner) (server : Server) (provider : ProviderId)
    (output input : PipeId) (errorLog : Option TaskId) :
    Prog.Vital t (launchOver owner server provider output input errorLog : Prog E K _) := by
  refine (vital_change _).bind fun _ => (Link.vital_start _ _ _).bind fun link => ?_
  refine (vital_read _).bind fun params => ?_
  cases params with
  | error e => exact (Link.vital_discard link).bind fun _ => vital_done _
  | ok params =>
      exact (vital_start _).bind fun handshake => (vital_change _).bind fun _ => vital_done _

theorem vital_launch (owner : LinkOwner) : Prog.Vital t (launch net owner) := by
  refine (vital_read _).bind fun server => (hnet.acquire _ _).bind fun r => ?_
  cases r with
  | error e => exact vital_done _
  | ok provider =>
      refine (hnet.start provider).bind fun r => ?_
      cases r with
      | error e => exact vital_done _
      | ok streams =>
          obtain ⟨output, input, errors⟩ := streams
          cases errors with
          | none => exact vital_launchOver owner server provider output input none
          | some pipe =>
              exact ((vital_start _).bind fun task => vital_done (some task)).bind
                fun errorLog => vital_launchOver owner server provider output input errorLog

theorem vital_startHeld (s : ServerId) : Prog.Vital t (startHeld net s) := by
  refine (vital_visit _).bind fun generation => ?_
  cases generation with
  | none => exact vital_done ()
  | some generation =>
      refine (vital_launch hnet _).bind fun r => ?_
      cases r with
      | ok _ => exact vital_done ()
      | error e => exact (vital_change _).bind fun _ => vital_stopHeld hnet s

end Server

/-! ## The lifecycle -/

theorem Client.unheld_iff {c : Client E} :
    c.gist.Unheld s ↔ (c.server s).lifecycle.owner ≠ .taken := by
  rw [Gist.Unheld, server_gist]
  change (c.server s).lifecycle.plain = Lock.free ↔ _
  refine ⟨fun h howner => ?_, Lock.plain_of_ne_taken⟩
  rw [Lock.plain_of_taken howner] at h
  cases h

theorem Client.gist_writeLifecycle_of_plain (c : Client E) {lock : Lock}
    (h : lock.plain = (c.server s).lifecycle.plain) :
    ((lifecycleLock s).write lock c).gist = c.gist := by
  rw [c.gist_writeLifecycle, h]
  exact c.gist_putLifecycle s

theorem Client.read_writeLifecycle_free (c : Client E) :
    (lifecycleLock s).read ((lifecycleLock s).write Lock.free c) = Lock.free := by
  obtain ⟨watchers, hservers⟩ :=
    servers_visitServer s (fun x => ({ x with lifecycle := Lock.free }, ())) c
  refine (congrArg (fun servers => (Store.get servers s).lifecycle) hservers).trans ?_
  exact c.servers.get_update_eq s Server.lifecycle (fun _ => rfl) rfl

/-- Whoever is to have the lifecycle next gives it back, and so does the program. -/
theorem Prog.Vital.lifecycle {p : Prog E K α} (h : Prog.Vital t p) :
    (Program.locked (Client.lifecycleLock s) p).Vital Client.gistView t (Gist.Unheld s) := by
  let place := Client.lifecycleLock (E := E) s
  have hreturned (c : Client E) : Gist.Unheld s (Client.gistView.see (place.release c)) :=
    c.unheld_release s
  have hheld (g : Gist) : (Program.holding place.release p).Lively Client.gistView t g
      (fun _ => Gist.Unheld s) (Gist.Unheld s) :=
    ((h g trivial).mono (fun _ _ _ c _ => hreturned c) fun _ _ c _ => hreturned c).holding
  intro g hg
  refine Lively.bind (p := (await place.acquire place.giveUp done : Prog E K Unit))
    (lively_await (fun c d _ hc hp => hheld _) fun c d hc hp => ?_)
  obtain ⟨rfl, hr⟩ := Prod.mk.inj hp
  obtain rfl : c.gist = g := hc
  have howner : ((place.read c).acquire t).1.owner = (place.read c).owner := by
    rcases Lock.acquire_cases (place.read c) t with ⟨hgot, -⟩ | ⟨-, howner⟩
    · exact nomatch hgot.symm.trans hr
    · exact howner
  have hd : (place.write ((place.read c).acquire t).1 c).gist = c.gist :=
    c.gist_writeLifecycle_of_plain (Lock.plain_eq_of_owner howner)
  let d : Client E := place.write ((place.read c).acquire t).1 c
  refine ⟨hd, ?_, place.write Lock.free d, ?_, ?_⟩
  · have hgaveUp : Client.gistView.see (place.giveUp t d) = d.gist :=
      (Client.gistView.see_wakeAll _ _).trans
        (d.gist_writeLifecycle_of_plain (Lock.plain_giveUp _ t))
    rw [hgaveUp, hd]
    exact hg
  · refine (d.gist_writeLifecycle s Lock.free).trans ?_
    have hfree : Lock.free.plain = (c.server s).lifecycle.plain := by
      rw [Gist.Unheld, c.server_gist] at hg
      exact hg.symm
    rw [hfree, hd]
    exact (c.gist_putLifecycle s).trans hd.symm
  · rw [Lock.Place.acquire, d.read_writeLifecycle_free]
    rfl

namespace Server

theorem vital_initialized (owner : LinkOwner) (link : LinkId) (capabilities : Capabilities) :
    Program.Vital Client.gistView t (Gist.Unheld owner.server)
      (initialized owner link capabilities : Prog E K Unit) := by
  refine Prog.Vital.lifecycle ((vital_read _).bind fun server => ?_)
  split
  · exact vital_done ()
  refine (vital_change _).bind fun _ => (Link.vital_tell link (fun _ _ _ => trivial) _ _).bind
    fun _ => (vital_pushSettings _ _).bind fun _ => (vital_visit _).bind fun waiting => ?_
  exact vital_each (vital_openSession _) waiting

/-- A handshake ends, whatever comes of it. -/
theorem vital_handshake (owner : LinkOwner) (link : LinkId) (params : Json) :
    Program.Vital Client.gistView t (Gist.Unheld owner.server)
      (handshake owner link params : Prog E K Unit) := by
  have hask : Program.Vital Client.gistView t (Gist.Unheld owner.server)
      (Link.ask link "initialize" params : Prog E K _) := Link.vital_ask link (fun _ _ h => h) _ _
  refine (Prog.vital_limit .handshake hask).bind fun answer => ?_
  split
  · exact vital_initialized owner link _
  rename_i e _
  refine (vital_read _).bind fun server => ?_
  split
  · exact vital_done ()
  refine (vital_modify fun c hc => ?_).bind fun _ => (vital_start _).bind fun _ => vital_done ()
  let text : String := handshakeFailure server.id (c.timeouts.millis .handshake / 1000) e
  have hfailed : Client.gistView.see
      ((showFailure owner.server text c).updateServer owner.server (·.move .failed)) =
      c.gist.put owner.server ((c.gist.server owner.server).move .failed) := gist_failed text c
  rw [hfailed]
  exact Gist.unheld_put (((c.gist.server owner.server).lifecycle_move _).trans hc)

theorem vital_crashed {net : Providers (Client E) (Job K)} (hnet : net.Vital) (owner : LinkOwner)
    (e : ClientError) :
    Program.Vital Client.gistView t (Gist.Unheld owner.server) (crashed net owner e) := by
  refine Prog.Vital.lifecycle ((vital_read _).bind fun passed => ?_)
  cases passed with
  | true => exact vital_done ()
  | false =>
      refine (vital_visit _).bind fun count => (vital_read _).bind fun threshold => ?_
      split
      · refine (vital_read _).bind fun waiting => (vital_stopHeld hnet _).bind fun _ => ?_
        split
        · exact vital_done ()
        · exact (vital_startHeld hnet _).bind fun _ => vital_each (vital_connectStarted _) waiting
      · exact (vital_change _).bind fun _ => (vital_stopHeld hnet _).bind fun _ => vital_change _

end Server

end LanguageClient
