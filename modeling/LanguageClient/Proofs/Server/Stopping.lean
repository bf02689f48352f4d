import LanguageClient.Proofs.Server.Driving
namespace LanguageClient

/-!
# Stopping a server

A server is stopped by the one task that has its lifecycle: sessions are closed, the connection is
taken out, and whoever initializes the server or reads from it is stopped. An initialized server is
asked to shut down and told to exit on a link that nobody else speaks on any more.
-/

open Function (update)
open Regime Courteous
open Scene (Leads Stays Rests Lasting Durable)

variable {E K : Type} {α β : Type} {given : String → Prop} {t : TaskId} {ρ : Role K}
  {P P' : Scene (Client E) (Job K) (Role K) → Prop}
  {Q Q' : α → Scene (Client E) (Job K) (Role K) → Prop}

/-! ## Who may be stopped -/

theorem Affairs.Locked.hold_eq_none {A : Affairs K} (h : A.Locked) {t : TaskId}
    (ht : ∀ s, ¬ (A.roles t).origin.Drives s) : (A.roles t).hold = none := by
  cases hold : (A.roles t).hold with
  | none => rfl
  | some held => exact absurd (h.drives hold).1 (ht held.1)

theorem Origin.not_drives_of_reading? {origin : Origin K} {l : LinkId}
    (h : origin.reading? = some l) (s : ServerId) : ¬ origin.Drives s := by
  cases origin with
  | hired job =>
    cases job with
    | readAll => exact id
    | _ => exact nomatch h
  | _ => exact nomatch h

theorem Origin.not_drives_of_logs {origin : Origin K} (h : origin.logs = true) (s : ServerId) :
    ¬ origin.Drives s := by
  cases origin with
  | hired job =>
    cases job with
    | errorLog => exact id
    | _ => exact nomatch h
  | _ => exact nomatch h

theorem Origin.eq_of_drives_of_greeting? {origin : Origin K} {o : LinkOwner} {l : LinkId}
    {s : ServerId} (h : origin.greeting? = some (o, l)) (hs : origin.Drives s) : o.server = s := by
  cases origin with
  | hired job =>
    cases job with
    | handshake owner l params =>
      obtain ⟨rfl, rfl⟩ := Prod.mk.inj (Option.some.inj h)
      exact hs
    | _ => exact nomatch h
  | _ => exact nomatch h

/-- While another task has the lifecycle of a server, the one that initializes it has none. -/
theorem Affairs.Sane.handshake_free {A : Affairs K} (h : A.Sane) {s : ServerId} {k : Connection}
    (hk : (A.server s).connection = some k) {t : TaskId} {phase : Phase}
    (ht : (A.roles t).hold = some (s, phase)) (hg : (A.roles t).origin.greeting? = none) :
    k.handshake ≠ t ∧ (A.roles k.handshake).hold = none := by
  obtain ⟨⟨o, l⟩, hgreets, heq⟩ := Option.map_eq_some_iff.1 (h.greeter hk)
  have hne : k.handshake ≠ t := by
    rintro rfl
    exact nomatch hgreets.symm.trans hg
  refine ⟨hne, ?_⟩
  cases hold : (A.roles k.handshake).hold with
  | none => rfl
  | some held =>
    obtain ⟨r, phase'⟩ := held
    have hserver := Origin.eq_of_drives_of_greeting? hgreets (h.drives hold).1
    obtain rfl : o.server = s := congrArg Prod.fst heq
    rw [← hserver] at hold
    exact absurd (h.alone hold ht) hne

/-! ## Links -/

namespace Link

/-- Whoever reads from a link can be stopped. -/
theorem always_stopReader (l : LinkId) : Always given t (stopReader l : Prog E K Unit) := by
  intro P hP
  have htake : Courteous given t P
      (Program.act (HasWiring.visit (takeReader l)) : Prog E K (Option TaskId))
      fun r s => P s ∧ ∀ task, r = some task → (s.roles task).hold = none := by
    refine courteous_act fun s hs hp γ k => ?_
    have hl : Leads given s (s.asked t ((Program.act (HasWiring.visit (takeReader l))).bind k)
        (HasWiring.visit (takeReader l) s.world).1) := by
      refine .one hs (.aside ?_)
      have hnew : (s.asked t ((Program.act (HasWiring.visit (takeReader l))).bind k)
          (HasWiring.visit (takeReader l) s.world).1).affairs =
            s.affairs.keep { s.world.ledger with readers := s.world.ledger.readers.set l none } :=
        congrArg (Affairs.mk s.roles) (s.world.ledger_setReader l none)
      rw [hnew]
      exact .lets
    refine ⟨hl, hP hs hp hl rfl, fun task htask => ?_⟩
    refine hs.hold_eq_none (Origin.not_drives_of_reading? (hs.reading (l := l) ?_))
    exact Wiring.readers_of_reader htask
  refine htake.bind fun r => ?_
  cases r with
  | none => exact courteous_done fun _ h => h.1
  | some task =>
    exact (courteous_stop hP).mono (fun s _ h => ⟨h.1, h.2 task rfl⟩) fun _ _ => id

theorem always_close (l : LinkId) : Always given t (close l : Prog E K Unit) := by
  intro P hP
  refine (courteous_wiring hP fun w => w.quiet_updateLink l ?_).bind fun _ => ?_
  · intro link
    rfl
  have hclose : Courteous given t P (Program.modify (HasWiring.modify (closeOutput l)) : Prog E K Unit)
      fun _ => P := courteous_wiring hP (Wiring.quiet_closeOutput l)
  refine (courteous_locked (ledger_writingLock l) hP (fun _ => hP) hclose).bind fun _ => ?_
  refine (always_stopReader l hP).bind fun _ => ?_
  exact courteous_wiring hP fun w => w.quiet_failPending l _

theorem always_discard (l : LinkId) : Always given t (discard l : Prog E K Unit) := by
  intro P hP
  refine (courteous_wiring hP fun w => ?_).bind fun _ => always_stopReader l hP
  refine Wiring.Quiet.trans (w.quiet_updateLink l ?_) (Wiring.quiet_closeOutput l _)
  intro link
  rfl

end Link

namespace Server

/-- A role with the lifecycle of a server. -/
abbrev at_ (ρ : Role K) (s : ServerId) (phase : Phase) : Role K :=
  { ρ with hold := some (s, phase) }

/-- The sessions of the server are for the task to close. -/
theorem handles_takeSessions {s : ServerId} {phase : Phase} (hdues : ρ.dues = []) :
    Handles given t (fun x => x.roles t = at_ ρ s phase)
      (Program.act (Client.visitServer s takeSessions) : Prog E K _)
      fun sessions x => ∃ dues : List (String × SessionId), sessions = dues.map (·.2) ∧
        x.roles t = { at_ ρ s phase with dues } := by
  refine handles_act fun x hx hrole => ?_
  let dues := (x.world.server s).connected
  refine ⟨{ at_ ρ s phase with dues }, ?_, fun _ => nofun, fun x' hself _ => ⟨dues, rfl, hself⟩⟩
  have hrole' : x.affairs.roles t = at_ ρ s phase := hrole
  have hconnected : (x.affairs.server s).connected = dues := by
    rw [Affairs.server, Scene.ledger_affairs, Client.server_ledger, connected_plain]
  have hact := Act.clears (A := x.affairs) (congrArg Role.hold hrole')
  rw [hrole', hdues, List.nil_append, hconnected] at hact
  rw [Client.ledger_visitServer_of_commutes _ s commutes_takeSessions]
  exact .act hact

theorem handles_closeSession {s : ServerId} {phase : Phase} {e : String × SessionId}
    {dues : List (String × SessionId)} :
    Handles given t (fun x => x.roles t = { at_ ρ s phase with dues := e :: dues })
      (closeSession e.2 : Prog E K Unit) fun _ x => x.roles t = { at_ ρ s phase with dues } := by
  refine Handles.bind (Q := fun _ x => x.roles t = { at_ ρ s phase with dues }) ?_ fun _ =>
    (Session.always_tellClosed e.2).handles (lasting_role _)
  refine handles_act fun x hx hrole =>
    ⟨{ at_ ρ s phase with dues }, ?_, fun _ => nofun, fun x' hself _ => hself⟩
  have hrole' : x.affairs.roles t = { at_ ρ s phase with dues := e :: dues } := hrole
  have hact := Act.strikes (A := x.affairs) (congrArg Role.dues hrole')
  rw [hrole'] at hact
  have huri : (x.world.session e.2).uri = e.1 := by
    refine Scene.uri_of_uris (hx.owing t e ?_)
    rw [hrole']
    exact List.mem_cons_self
  change Step _ given x.affairs ⟨_, { x.world.ledger with
    index := x.world.index.remove (x.world.session e.2).uri e.2 }⟩
  rw [huri]
  exact .act hact

theorem handles_closeSessions {s : ServerId} {phase : Phase} (dues : List (String × SessionId)) :
    Handles given t (fun x => x.roles t = { at_ ρ s phase with dues })
      (Program.each closeSession (dues.map (·.2)) : Prog E K Unit)
      fun _ x => x.roles t = { at_ ρ s phase with dues := [] } := by
  induction dues with
  | nil => exact handles_done fun _ hx => hx
  | cons e dues ih => exact handles_closeSession.bind fun _ => ih

/-- The live connection is taken out, and what is found can be stopped. -/
theorem handles_beginStop {s : ServerId} {phase : Phase} (hg : ρ.origin.greeting? = none)
    (hphase : phase = .idle ∨ phase = .counting ∨ phase = .failing) :
    Handles given t (fun x => x.roles t = at_ ρ s phase)
      (Program.act (Client.visitServer s beginStop) : Prog E K _)
      fun r x => x.roles t = { at_ ρ s .stopping with link := r.2.map fun a => (a.link, .ready) } ∧
        ∀ k, r.1 = some k → (∀ a, r.2 = some a → a.link = k.link) ∧
          (x.roles k.handshake).hold = none ∧
          ∀ task, k.errorLog = some task → (x.roles task).origin.logs = true := by
  refine handles_act fun x hx hrole => ?_
  refine ⟨{ at_ ρ s .stopping with link := (x.world.server s).access.map fun a => (a.link, .ready) },
    ?_, fun _ => nofun, fun x' hself hothers => ⟨hself, fun k hk => ?_⟩⟩
  · rw [Client.ledger_visitServer_of_commutes _ s commutes_beginStop]
    refine .act ?_
    have hrole' : x.affairs.roles t = at_ ρ s phase := hrole
    have hact := @Act.stops K x.affairs t s ((x.world.server s).access.map fun a => (a.link, .ready))
      ?_ ?_ ?_
    · rw [hrole'] at hact
      exact hact
    · rw [hrole']
      exact hg
    · rw [hrole']
      rcases hphase with rfl | rfl | rfl
      · exact .inl rfl
      · exact .inr (.inl rfl)
      · exact .inr (.inr rfl)
    · intro l stage hl
      obtain ⟨a, ha, heq⟩ := Option.map_eq_some_iff.1 hl
      obtain ⟨rfl, rfl⟩ := Prod.mk.inj heq
      refine ⟨a, ?_, rfl, rfl⟩
      rwa [Affairs.server, Scene.ledger_affairs, Client.server_ledger, Server.access_plain]
  · have hserver : x.affairs.server s = (x.world.server s).plain := x.world.server_ledger s
    have hconnection : (x.affairs.server s).connection = some k := by
      rw [hserver]
      exact hk
    obtain ⟨hne, hfree⟩ := hx.handshake_free hconnection (congrArg Role.hold hrole)
      ((congrArg (fun ρ : Role K => ρ.origin.greeting?) hrole).trans hg)
    refine ⟨fun a ha => ?_, ?_, fun task htask => ?_⟩
    · have haccess : (x.affairs.server s).access = some a := by
        rw [hserver]
        exact ha
      have hlink := (hx.access_eq haccess).2.2
      rw [hconnection] at hlink
      exact (Option.some.inj hlink).symm
    · rw [hothers _ hne]
      exact hfree
    · have hlogs := hx.logger hconnection htask
      by_cases heq : task = t
      · subst heq
        rw [Scene.roles_affairs, hrole] at hlogs
        rw [hself]
        exact hlogs
      · rw [hothers _ heq]
        exact hlogs

/-- What is stopping, however far its link has come. -/
def Stopping (t : TaskId) (ρ : Role K) (s : ServerId) (x : Scene (Client E) (Job K) (Role K)) :
    Prop := ∃ link, x.roles t = { at_ ρ s .stopping with link }

theorem lasting_stopping (s : ServerId) :
    Lasting given t fun x : Scene (Client E) (Job K) (Role K) => Stopping t ρ s x :=
  fun _ _ _ ⟨link, h⟩ _ hr => ⟨link, hr.trans h⟩

abbrev closing (ρ : Role K) (s : ServerId) (l : LinkId) (stage : Link.Stage) : Role K :=
  { at_ ρ s .stopping with link := some (l, stage) }

theorem attempts_shutdown {s : ServerId} (l : LinkId) :
    Attempts given t (fun x => x.roles t = closing ρ s l .ready)
      (Link.ask l "shutdown" .null : Prog E K _)
      (fun outcome x => x.roles t = closing ρ s l (if outcome.isOk then .closed else .closing))
      fun x => x.roles t = closing ρ s l .closing := by
  refine Attempts.bind (Q := fun _ x => x.roles t = closing ρ s l .closing)
    (attempts_act fun x hx hrole => ?_) fun _ => ?_
  · have hrole' : x.affairs.roles t = closing ρ s l .ready := hrole
    have hact := Act.closes (A := x.affairs) (congrArg Role.hold hrole') (congrArg Role.link hrole')
    rw [hrole'] at hact
    exact ⟨_, .act hact, fun _ => nofun, fun x' hself _ => hself⟩
  have hP : Lasting given t fun x : Scene (Client E) (Job K) (Role K) =>
      x.roles t = closing ρ s l .closing := lasting_role _
  refine Attempts.bind ((Link.courteous_request hP l "shutdown" .null).attempts hP) fun outcome => ?_
  refine Attempts.bind (Q := fun _ x =>
    x.roles t = closing ρ s l (if outcome.isOk then .closed else .closing)) ?_ fun _ => ?_
  · cases outcome with
    | error e => exact (Link.courteous_hear hP (.inr rfl)).attempts hP
    | ok answer =>
      refine attempts_act fun x hx hrole => ?_
      have hrole' : x.affairs.roles t = closing ρ s l .closing := hrole
      have hact := @Act.heeds K x.affairs t l (.ok answer) s (congrArg Role.hold hrole')
        (congrArg Role.link hrole') rfl
      rw [hrole'] at hact
      exact ⟨_, .act hact, fun _ => nofun, fun x' hself _ => hself⟩
  · exact attempts_done fun _ hx => hx

theorem handles_shutDown {s : ServerId} (l : LinkId) :
    Handles given t (fun x => x.roles t = closing ρ s l .ready) (shutDown l : Prog E K Unit)
      fun _ x => Stopping t ρ s x := by
  have hask := @attempts_shutdown E K given t ρ s l
  have hlimit := hask.limit .shutdown (lasting_role _) (fun _ => lasting_role _) (lasting_role _)
  refine hlimit.bind fun r => ?_
  rcases r with e | e | answer
  · exact handles_done fun x hx => ⟨_, hx⟩
  · exact handles_done fun x hx => ⟨_, hx⟩
  refine Handles.bind (Q := fun _ x => x.roles t = closing ρ s l .exited) ?_ fun told =>
    handles_done fun x hx => ⟨_, hx⟩
  refine Handles.bind (Q := fun _ x => x.roles t = closing ρ s l .exited) ?_ fun _ =>
    (Link.courteous_notify (lasting_role _) l "exit" .null).handles
  refine handles_act fun x hx hrole => ?_
  have hrole' : x.affairs.roles t = closing ρ s l .closed := hrole
  have hact := Act.exits (A := x.affairs) (congrArg Role.hold hrole') (congrArg Role.link hrole')
  rw [hrole'] at hact
  exact ⟨_, .act hact, fun _ => nofun, fun x' hself _ => hself⟩

theorem handles_disconnectLink {s : ServerId} (access : Option Access) (l : LinkId)
    (hl : ∀ a, access = some a → a.link = l) :
    Handles given t (fun x => x.roles t =
        { at_ ρ s .stopping with link := access.map fun a => (a.link, .ready) })
      (disconnectLink access l : Prog E K Unit) fun _ x => Stopping t ρ s x := by
  have hclose : Handles given t (fun x => Stopping t ρ s x) (Link.close l : Prog E K Unit)
      fun _ x => Stopping t ρ s x := (Link.always_close l).handles (lasting_stopping s)
  cases access with
  | none => exact hclose.of_imp fun x hx => ⟨_, hx⟩
  | some a =>
    obtain rfl := hl a rfl
    refine (courteous_look (lasting_role _)).handles.bind fun connected => ?_
    cases connected with
    | false => exact hclose.of_imp fun x hx => ⟨_, hx⟩
    | true => exact (handles_shutDown a.link).bind fun _ => hclose

theorem handles_endStop (s : ServerId) (hlink : ρ.link = none) :
    Handles given t (fun x => Stopping t ρ s x)
      (Program.modify (Client.updateServer s endStop) : Prog E K Unit)
      fun _ x => x.roles t = at_ ρ s .idle := by
  refine handles_act fun x hx ⟨link, hrole⟩ => ⟨at_ ρ s .idle, ?_, fun _ => nofun, fun x' hself _ => hself⟩
  have hrole' : x.affairs.roles t = { at_ ρ s .stopping with link } := hrole
  have hact := Act.ends (A := x.affairs) (congrArg Role.hold hrole')
  have hledger : (Client.updateServer s endStop x.world).ledger =
      x.world.ledger.put s (x.affairs.server s).endStop := by
    have hserver : x.affairs.server s = (x.world.server s).plain := x.world.server_ledger s
    rw [Client.ledger_updateServer, plain_endStop, hserver]
  have hidle : { at_ ρ s .idle with link := none } = at_ ρ s .idle := by rw [← hlink]
  rw [hrole'] at hact
  rw [← hidle]
  refine .act ?_
  exact (congrArg (fun L => Act x.affairs ⟨update x.roles t _, L⟩) hledger).mpr hact

/-- The task that logs has no lifecycle. -/
theorem durable_logs (errorLog : Option TaskId) :
    Durable given fun x : Scene (Client E) (Job K) (Role K) =>
      ∀ task, errorLog = some task → (x.roles task).origin.logs = true := by
  intro x x' hx h hl task htask
  have hlogs := h task htask
  rw [hl.origin hx]
  · exact hlogs
  · intro horigin
    rw [horigin] at hlogs
    exact nomatch hlogs

variable {net : Providers (Client E) (Job K)} (hnet : net.Aloof)

include hnet

theorem handles_stopHeld {s : ServerId} {phase : Phase} (hg : ρ.origin.greeting? = none)
    (hlink : ρ.link = none) (hdues : ρ.dues = []) (hphase : phase = .idle ∨ phase = .counting ∨ phase = .failing) :
    Handles given t (fun x => x.roles t = at_ ρ s phase) (stopHeld net s)
      fun _ x => x.roles t = at_ ρ s .idle := by
  have hclose (sessions : List SessionId) : Handles given t
      (fun x => ∃ dues : List (String × SessionId), sessions = dues.map (·.2) ∧
        x.roles t = { at_ ρ s phase with dues })
      (Program.each closeSession sessions : Prog E K Unit)
      fun _ x => x.roles t = at_ ρ s phase := by
    rintro o x ho hx ⟨dues, rfl, hrole⟩
    have hpaid : { at_ ρ s phase with dues := [] } = at_ ρ s phase := by rw [← hdues]
    rw [← hpaid]
    exact handles_closeSessions dues ho hx hrole
  refine (handles_takeSessions hdues).bind fun sessions => (hclose sessions).bind fun _ => ?_
  refine (handles_beginStop hg hphase).bind fun r => ?_
  obtain ⟨connection, access⟩ := r
  cases connection with
  | none => exact (handles_endStop s hlink).of_imp fun x hx => ⟨_, hx.1⟩
  | some k =>
    let logged (x : Scene (Client E) (Job K) (Role K)) : Prop :=
      ∀ task, k.errorLog = some task → (x.roles task).origin.logs = true
    have hlogged : Durable given logged := durable_logs k.errorLog
    have hlasts {P : Scene (Client E) (Job K) (Role K) → Prop} (hP : Lasting given t P) :
        Lasting given t fun x => P x ∧ logged x :=
      hP.and fun _ _ hs h hl _ => hlogged hs h hl
    by_cases hl : ∀ a, access = some a → a.link = k.link
    case neg =>
      exact fun o x _ _ hx => absurd (hx.2 k rfl).1 hl
    refine Handles.bind (Q := fun _ x => x.roles t =
      { at_ ρ s .stopping with link := access.map fun a => (a.link, .ready) } ∧ logged x) ?_
      fun _ => ?_
    · refine (courteous_stop (hlasts (lasting_role _))).handles.of_imp fun x hx => ?_
      obtain ⟨-, hfree, hlogs⟩ := hx.2 k rfl
      exact ⟨⟨hx.1, hlogs⟩, hfree⟩
    refine ((handles_disconnectLink access k.link hl).frame hlogged).bind fun _ => ?_
    refine ((hnet.stop k.provider).always.handles (hlasts (lasting_stopping s))).bind fun _ => ?_
    refine (courteous_look (hlasts (lasting_stopping s))).handles.bind fun r => ?_
    obtain ⟨definition, root⟩ := r
    refine ((hnet.release definition root).always.handles (hlasts (lasting_stopping s))).bind
      fun _ => ?_
    refine ((handles_endStop s hlink).frame hlogged).bind fun _ => ?_
    cases hlog : k.errorLog with
    | none => exact handles_done fun _ hx => hx.1
    | some task =>
      refine (courteous_stop (lasting_role _)).handles.mono (fun x hsane hx => ⟨hx.1, ?_⟩)
        fun _ _ hx => hx
      exact hsane.hold_eq_none (Origin.not_drives_of_logs (hx.2 task hlog))

end Server

end LanguageClient
