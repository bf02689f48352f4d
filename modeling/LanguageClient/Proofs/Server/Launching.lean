import LanguageClient.Proofs.Server.Stopping
namespace LanguageClient

/-!
# Starting a server
-/

open Function (update)
open Regime Courteous
open Scene (Leads Stays Rests Lasting Durable)

variable {E K : Type} {α β : Type} {given : String → Prop} {t : TaskId} {ρ : Role K}
  {P P' : Scene (Client E) (Job K) (Role K) → Prop}
  {Q Q' : α → Scene (Client E) (Job K) (Role K) → Prop}

namespace Server

/-- The role of a task that launches a generation of a server. -/
abbrev launching (ρ : Role K) (s : ServerId) (γ : Nat) : Role K :=
  { at_ ρ s .launching with generation := γ }

/-- The same once there is a link that nobody has spoken on. -/
abbrev linked (ρ : Role K) (s : ServerId) (γ : Nat) (l : LinkId) : Role K :=
  { launching ρ s γ with link := some (l, .fresh) }

theorem handles_beginStart {s : ServerId} (hg : ρ.origin.greeting? = none) :
    Handles given t (fun x => x.roles t = at_ ρ s .idle)
      (Program.act (Client.visitServer s beginStart) : Prog E K _)
      fun r x => match r with
        | none => x.roles t = at_ ρ s .idle
        | some γ => x.roles t = launching ρ s γ := by
  refine handles_act fun x hx hrole => ?_
  have hrole' : x.affairs.roles t = at_ ρ s .idle := hrole
  have hserver : x.affairs.server s = (x.world.server s).plain := x.world.server_ledger s
  rw [Client.ledger_visitServer_of_commutes _ s commutes_beginStart]
  rcases idle_or_runs (x.world.server s).status with hidle | hruns
  · have hact := Act.begins (A := x.affairs) (t := t) (s := s) (by rw [hrole']; exact hg)
      (congrArg Role.hold hrole') (by rw [hserver]; exact hidle)
    rw [hrole', hserver, generation_plain] at hact
    refine ⟨launching ρ s ((x.world.server s).generation + 1), .act ?_, fun _ => nofun,
      fun x' hself _ => ?_⟩
    · rw [← hserver] at hact
      exact hact
    · have hvalue : (Client.visitServer s beginStart x.world).2 =
          some ((x.world.server s).generation + 1) := by
        rw [← generation_move (x.world.server s) .starting]
        exact congrArg Prod.snd (beginStart_of_idle hidle)
      rw [hvalue]
      exact hself
  · refine ⟨x.roles t, .aside ?_, fun hold => hold, fun x' hself _ => ?_⟩
    · have hplain : (x.world.ledger.server s).status = .starting ∨
          (x.world.ledger.server s).status = .started := by
        rw [Client.server_ledger]
        exact hruns
      rw [beginStart_of_runs hplain, Ledger.put_server, Function.update_eq_self]
      exact .same
    · have hvalue : (Client.visitServer s beginStart x.world).2 = none :=
        congrArg Prod.snd (beginStart_of_runs hruns)
      rw [hvalue]
      exact hself.trans hrole

/-- The generation that a task launches has begun. -/
theorem begun_of_launching {A : Affairs K} (h : A.Sane) {s : ServerId} {γ : Nat}
    (ht : (A.roles t).hold = some (s, .launching)) (hγ : (A.roles t).generation = γ) :
    A.Begun ⟨s, γ⟩ := by
  have hγ : γ = (A.server s).generation := hγ ▸ h.launched ht
  refine ⟨(h.drives ht).2, Nat.le_of_eq hγ, fun _ => (h.launching ht).2, fun {u} _ hu => ?_⟩
  obtain rfl := h.alone ht hu
  rw [ht] at hu
  exact nomatch hu

/-- A new link has a reader from the start. -/
theorem handles_openLink {s : ServerId} {γ : Nat} (input output : PipeId) (hlink : ρ.link = none) :
    Handles given t (fun x => x.roles t = launching ρ s γ)
      (Link.start (Job.readAll ⟨s, γ⟩) input output : Prog E K LinkId)
      fun l x => x.roles t = linked ρ s γ l := by
  refine Handles.bind (Q := fun l x => x.roles t = linked ρ s γ l) ?_ fun l => ?_
  · refine handles_act fun x hx hrole => ?_
    have hrole' : x.affairs.roles t = launching ρ s γ := hrole
    have hact := Act.opens (A := x.affairs) (congrArg Role.hold hrole')
      ((congrArg Role.link hrole').trans hlink)
    have hlength : x.affairs.ledger.readers.length = x.world.wiring.links.entries.length :=
      List.length_map ..
    have hledger : (HasWiring.visit (·.addLink (Link.new input output)) x.world).1.ledger =
        { x.world.ledger with readers := x.world.ledger.readers ++ [none] } :=
      congrArg (fun readers => ({ x.world.ledger with readers } : Ledger)) List.map_append
    rw [hrole', hlength] at hact
    refine ⟨linked ρ s γ x.world.wiring.links.entries.length, .act ?_, fun _ => nofun, fun x' hself _ => hself⟩
    rw [hledger]
    exact hact
  have hrole : Lasting given t fun x : Scene (Client E) (Job K) (Role K) =>
      x.roles t = linked ρ s γ l := lasting_role _
  have hhire := courteous_hire (.readAll ⟨s, γ⟩ l) hrole
    (fun x hx hrole => ?_) rfl
  · refine Handles.bind hhire.handles fun task => ?_
    refine Handles.bind (Q := fun _ x => x.roles t = linked ρ s γ l) ?_ fun _ =>
      handles_done fun _ hx => hx
    refine (courteous_aside (F := fun x => (x.roles task).origin = .hired (.readAll ⟨s, γ⟩ l))
      (lasting_role _) fun x _ horigin => ?_).handles
    have hledger := x.world.ledger_setReader l (some task)
    refine (congrArg (fun L => Aside _ given x.affairs ⟨x.roles, L⟩) hledger).mpr ?_
    refine .reads (r := task) ?_
    rw [Scene.roles_affairs, horigin]
    rfl
  · have hrole' : x.affairs.roles t = linked ρ s γ l := hrole
    exact begun_of_launching hx (congrArg Role.hold hrole') (congrArg Role.generation hrole')

/-- The task that initializes the server gets the link. -/
theorem handles_launched {s : ServerId} {γ : Nat} {l : LinkId} {params : Json}
    {provider : ProviderId} {errorLog : Option TaskId} (hg : ρ.generation = 0)
    (hlink : ρ.link = none) (a : α) :
    Handles given t
      (fun x => x.roles t = linked ρ s γ l ∧
        ∀ task, errorLog = some task → (x.roles task).origin.logs = true)
      (show Prog E K α from do
        let handshake ← Program.start (Job.handshake ⟨s, γ⟩ l params)
        Program.modify fun c => c.updateServer s fun server =>
          { server with
            connection := some ⟨provider, l, errorLog, handshake, HasAgenda.now c⟩ }
        return a)
      fun b x => b = a ∧ x.roles t = at_ ρ s .idle := by
  rintro o x ho hx ⟨hrole, hlogs⟩
  refine From.bind (Q := fun u o' x' => o' = o ∧ u ≠ t ∧ x.roles u = .new .unborn ∧
    x' = (x.put (HasAgenda.wake u x.world)).become u (.ofJob (.handshake ⟨s, γ⟩ l params)))
    (from_start rfl fun u hu hr => ⟨rfl, hu, hr, rfl⟩) fun u o' x' h => ?_
  obtain ⟨rfl, hu, hr, rfl⟩ := h
  refine From.bind (Q := fun _ o' x' => Leads given o' x' ∧ Leads given x x' ∧
    x'.roles t = at_ ρ s .idle) (from_act_become fun k => ⟨at_ ρ s .idle, ?_⟩)
    fun _ o' x' h => from_done ⟨h.1, h.2.1, fun _ => h.2.2 ▸ nofun, rfl, h.2.2⟩
  let job : Job K := .handshake ⟨s, γ⟩ l params
  let x₁ := (x.put (HasAgenda.wake u x.world)).become u (.ofJob job)
  let connect (server : Server) : Server := { server with
    connection := some ⟨provider, l, errorLog, u, HasAgenda.now x₁.world⟩ }
  let p : Prog E K Unit := Program.modify fun c => Client.updateServer s (fun server => { server with
    connection := some ⟨provider, l, errorLog, u, HasAgenda.now c⟩ }) c
  let x₂ := (x₁.asked t (p.bind k) (Client.updateServer s connect x₁.world)).become t (at_ ρ s .idle)
  suffices hl : Leads given x x₂ from ⟨ho.trans hl, hl, Scene.roles_become_same _ t _⟩
  have hrole' : x.affairs.roles t = linked ρ s γ l := hrole
  have hγ : γ = (x.affairs.server s).generation := by
    have h := hx.launched (congrArg Role.hold hrole')
    rw [hrole'] at h
    exact h
  have hact := @Act.launches K x.affairs t u s l params
    ⟨provider, l, errorLog, u, HasAgenda.now x₁.world⟩
    (congrArg Role.hold hrole') (congrArg Role.link hrole') hr rfl rfl hlogs
  have hback : { at_ ρ s .idle with link := none, generation := 0 } = at_ ρ s .idle := by
    rw [← hg, ← hlink]
  have hledger : x₂.world.ledger = x.world.ledger.put s (connect (x.affairs.server s)) := by
    have hserver : x.affairs.server s = (x.world.server s).plain := x.world.server_ledger s
    rw [hserver]
    exact Client.ledger_updateServer (HasAgenda.wake u x.world) s connect
  refine .single ⟨[.asks t (p.bind k) x₁.world x₂.world], rfl, fun m hm v uri ht => ?_,
    .one (x.world.ledger_wake u) rfl, .act ?_⟩
  · obtain rfl := List.mem_singleton.1 hm
    exact Scene.not_lacks_of_takes ht hx.keyed (x.world.ledger_wake u)
  · rw [hrole', ← hγ] at hact
    have hroles : x₂.roles = update (update x.roles t (at_ ρ s .idle)) u (.ofJob job) :=
      Function.update_comm hu _ _ _
    have hx₂ : x₂.affairs = ((x.affairs.cast t (at_ ρ s .idle)).cast u (.ofJob job)).put s
        (connect (x.affairs.server s)) := by
      rw [Scene.affairs, hroles, hledger]
      rfl
    rw [hx₂, ← hback]
    exact hact

theorem ledger_showFailure (s : ServerId) (text : String) (c : Client E) :
    (showFailure s text c).ledger = c.ledger := by
  unfold showFailure
  split
  · rfl
  · exact c.ledger_updateServer_of_plain s rfl

/-- A server fails, and it is shown why. -/
theorem ledger_failed (s : ServerId) (text : String) (c : Client E) :
    ((showFailure s text c).updateServer s (·.move .failed)).ledger =
      c.ledger.put s ((c.ledger.server s).move .failed) := by
  rw [Client.ledger_updateServer_of_commutes _ s (commutes_move .failed), ledger_showFailure]

/-- The rest of a launch, over the pipes of a process. -/
def launchOver (owner : LinkOwner) (server : Server) (provider : ProviderId)
    (output input : PipeId) (errorLog : Option TaskId) : Prog E K (Except ClientError Unit) := do
  Program.modify (loadSettings owner.server)
  let link ← Link.start (Job.readAll owner) output input
  match ← Program.read fun c => server.initializeParams c.process c.directory with
  | .error e => do
    Link.discard link
    return .error e
  | .ok params => do
    let handshake ← Program.start (Job.handshake owner link params)
    Program.modify fun c => c.updateServer owner.server fun server =>
      { server with connection := some ⟨provider, link, errorLog, handshake, HasAgenda.now c⟩ }
    return .ok ()

theorem handles_launchOver {s : ServerId} {γ : Nat} (hg : ρ.generation = 0) (hlink : ρ.link = none)
    (server : Server) (provider : ProviderId) (output input : PipeId) (errorLog : Option TaskId) :
    Handles given t
      (fun x => x.roles t = launching ρ s γ ∧
        ∀ task, errorLog = some task → (x.roles task).origin.logs = true)
      (launchOver ⟨s, γ⟩ server provider output input errorLog : Prog E K _)
      fun r x => match r with
        | .ok _ => x.roles t = at_ ρ s .idle
        | .error _ => ∃ link, x.roles t = { launching ρ s γ with link } := by
  have hload : Always given t (Program.modify (loadSettings s) : Prog E K Unit) :=
    always_modify fun c => c.ledger_updateServer_of_plain s rfl
  refine ((hload.handles (lasting_role _)).frame (durable_logs errorLog)).bind fun _ => ?_
  refine ((handles_openLink _ _ hlink).frame (durable_logs errorLog)).bind fun l => ?_
  refine (((always_read _).handles (lasting_role _)).frame (durable_logs errorLog)).bind
    fun params => ?_
  rcases params with e | params
  · refine ((Link.always_discard l).handles (lasting_role _)).of_imp (fun x hx => hx.1) |>.bind
      fun _ => handles_done fun x hx => ⟨_, hx⟩
  · refine (handles_launched hg hlink (Except.ok ())).mono (fun _ _ hx => hx) fun r x hx => ?_
    rw [hx.1]
    exact hx.2

variable {net : Providers (Client E) (Job K)} (hnet : net.Aloof)

include hnet

theorem handles_launch {s : ServerId} {γ : Nat} (hg : ρ.generation = 0) (hlink : ρ.link = none) :
    Handles given t (fun x => x.roles t = launching ρ s γ) (launch net ⟨s, γ⟩)
      fun r x => match r with
        | .ok _ => x.roles t = at_ ρ s .idle
        | .error _ => ∃ link, x.roles t = { launching ρ s γ with link } := by
  refine (courteous_look (lasting_role _)).handles.bind fun server => ?_
  refine ((hnet.acquire _ _).always.handles (lasting_role _)).bind fun r => ?_
  rcases r with e | provider
  · exact handles_done fun x hx => ⟨_, hx⟩
  refine ((hnet.start provider).always.handles (lasting_role _)).bind fun r => ?_
  rcases r with e | streams
  · exact handles_done fun x hx => ⟨_, hx⟩
  obtain ⟨output, input, errors⟩ := streams
  cases errors with
  | none =>
    refine (handles_launchOver hg hlink server provider output input none).of_imp fun x hx => ⟨hx, ?_⟩
    rintro _ ⟨⟩
  | some pipe =>
    have hrole : Lasting given t fun x : Scene (Client E) (Job K) (Role K) =>
        x.roles t = launching ρ s γ := lasting_role _
    have hhire := courteous_hire (.errorLog server.id pipe) hrole (fun _ _ _ => trivial) rfl
    refine hhire.handles.bind fun task => ?_
    refine (handles_launchOver hg hlink server provider output input (some task)).of_imp
      fun x hx => ⟨hx.1, ?_⟩
    rintro _ ⟨⟩
    rw [hx.2]
    rfl

/-- A start that fails ends in a stop. -/
theorem handles_startHeld {s : ServerId} (hgreeting : ρ.origin.greeting? = none)
    (hg : ρ.generation = 0) (hlink : ρ.link = none) (hdues : ρ.dues = []) :
    Handles given t (fun x => x.roles t = at_ ρ s .idle) (startHeld net s)
      fun _ x => x.roles t = at_ ρ s .idle := by
  refine (handles_beginStart hgreeting).bind fun r => ?_
  cases r with
  | none => exact handles_done fun _ hx => hx
  | some γ =>
    refine (handles_launch hnet hg hlink).bind fun r => ?_
    rcases r with e | _
    · refine Handles.bind (Q := fun _ x => x.roles t = at_ ρ s .idle) ?_ fun _ =>
        handles_stopHeld hnet hgreeting hlink hdues (.inl rfl)
      refine handles_act fun x hx ⟨link, hrole⟩ => ⟨at_ ρ s .idle, .act ?_, fun _ => nofun, fun x' hself _ => hself⟩
      have hrole' : x.affairs.roles t = { launching ρ s γ with link } := hrole
      have hact := Act.misses (A := x.affairs) (congrArg Role.hold hrole')
      have hback : { at_ ρ s .idle with link := none, generation := 0 } = at_ ρ s .idle := by
        rw [← hg, ← hlink]
      rw [hrole'] at hact
      rw [← hback, ledger_failed]
      exact hact
    · exact handles_done fun _ hx => hx

end Server

end LanguageClient
