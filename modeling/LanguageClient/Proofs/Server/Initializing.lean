import LanguageClient.Proofs.Server.Locking
namespace LanguageClient

/-!
# Initializing a server

One task speaks on a new link until the server has answered. Then the server is started and told so
in one go, and everybody can reach it; or the task fails it and leaves the stop to another one. Once
it is started the task connects the documents that waited. Any task connects the documents that it
was given, and those that it has taken from a server or from the list of the editor before.
-/

open Function (update)
open Regime Courteous
open Scene (Leads Stays Rests Lasting Durable Holds)

variable {E K : Type} {α β : Type} {given : String → Prop} {t : TaskId} {ρ : Role K}

/-! ## Connecting documents -/

section Connecting

variable {P : Scene (Client E) (Job K) (Role K) → Prop}

namespace Scene

variable {s : Scene (Client E) (Job K) (Role K)} {uri : String}

theorem Knows.asked (h : s.Knows given t uri) {u : TaskId} {γ : Type} (p : Prog E K γ)
    (w : Client E) : (s.asked u p w).Knows given t uri := by
  rcases h with h | ⟨m, hm, h⟩
  · exact .inl h
  · exact .inr ⟨m, List.mem_append_left _ hm, h⟩

/-- What a task takes it knows. -/
theorem knows_of_takes {γ : Type} {p : Prog E K γ} {w : Client E}
    (h : Moment.Takes t uri (.asks t p s.world w)) : (s.asked t p w).Knows given t uri :=
  .inr ⟨_, List.mem_append_right _ (List.mem_singleton_self _), h⟩

/-- All of some documents are known. -/
def KnowsAll (given : String → Prop) (s : Scene (Client E) (Job K) (Role K)) (t : TaskId)
    (ds : List OpenDocument) : Prop := ∀ d ∈ ds, s.Knows given t d.uri

theorem lasting_knowsAll (ds : List OpenDocument) :
    Lasting given t fun s : Scene (Client E) (Job K) (Role K) => s.KnowsAll given t ds :=
  fun _ _ _ h hl _ d hd => hl.knows (h d hd)

end Scene

open Scene (KnowsAll)

namespace Server

/-! ## Taking documents -/

theorem courteous_documents (s : ServerId) (hP : Lasting given t P) :
    Courteous given t P (Program.read (documents s) : Prog E K _)
      fun ds x => P x ∧ x.KnowsAll given t ds := by
  refine courteous_act fun x hx hp γ k => ?_
  have hl : Leads given x (x.asked t ((Program.read (documents s)).bind k) x.world) :=
    .asked hx rfl
  exact ⟨hl, hP hx hp hl rfl, fun d hd => Scene.knows_of_takes (.documents ⟨d, hd, rfl⟩)⟩

theorem courteous_handled (s : ServerId) (hP : Lasting given t P) :
    Courteous given t P (Program.read (handled s) : Prog E K _)
      fun ds x => P x ∧ x.KnowsAll given t ds := by
  refine courteous_act fun x hx hp γ k => ?_
  have hl : Leads given x (x.asked t ((Program.read (handled s)).bind k) x.world) :=
    .asked hx rfl
  exact ⟨hl, hP hx hp hl rfl, fun d hd => Scene.knows_of_takes (.handled ⟨d, hd, rfl⟩)⟩

theorem courteous_takeQueue (s : ServerId) (hP : Lasting given t P) :
    Courteous given t P (Program.act (Client.visitServer s takeQueue) : Prog E K _)
      fun ds x => P x ∧ x.KnowsAll given t ds := by
  refine courteous_act fun x hx hp γ k => ?_
  have hl : Leads given x (x.asked t ((Program.act (Client.visitServer s takeQueue)).bind k)
      (Client.visitServer s takeQueue x.world).1) := by
    refine .one hx (.aside ?_)
    have hledger := x.world.ledger_visitServer_of_commutes s commutes_takeQueue
    exact (congrArg (fun L => Aside _ given x.affairs ⟨x.roles, L⟩) hledger).mpr .empties
  exact ⟨hl, hP hx hp hl rfl, fun d hd => Scene.knows_of_takes (.queue ⟨d, hd, rfl⟩)⟩

/-! ## Bringing them -/

theorem ledger_enter {c : Client E} {s : ServerId} {d : OpenDocument}
    (h : (c.server s).isConnectedTo d.uri = false) :
    (enter s d c).1.ledger = { c.ledger.put s { c.ledger.server s with
        connected := (c.ledger.server s).connected ++ [(d.uri, c.ledger.uris.length)] } with
      uris := c.ledger.uris ++ [d.uri]
      index := c.ledger.index.insert d.uri ⟨c.ledger.uris.length, s⟩ } := by
  have hsessions : (c.addSession (Session.new d (languageOf d) s)).1.ledger =
      { c.ledger with uris := c.ledger.uris ++ [d.uri] } :=
    congrArg (fun uris => ({ c.ledger with uris } : Ledger)) List.map_append
  have hlength : c.sessions.entries.length = c.ledger.uris.length := (List.length_map ..).symm
  have hserver := (c.addSession (Session.new d (languageOf d) s)).1.ledger_updateServer s
    fun server => { server with connected := server.connected ++ [(d.uri, c.ledger.uris.length)] }
  rw [hsessions] at hserver
  rw [enter, if_neg (Bool.eq_false_iff.1 h), c.server_ledger]
  simp only [Client.addSession, Store.add, hlength]
  exact congrArg (fun L : Ledger =>
    { L with index := L.index.insert d.uri ⟨c.ledger.uris.length, s⟩ }) hserver

variable {d : OpenDocument}

theorem courteous_openSession (s : ServerId) (hP : Lasting given t P)
    (hd : ∀ x, P x → x.Knows given t d.uri) :
    Courteous given t P (openSession s d : Prog E K Unit) fun _ => P := by
  refine Courteous.bind (Q := fun _ => P) (courteous_act fun x hx hp γ k => ?_) fun r => ?_
  · let x' := x.asked t ((Program.act (enter s d)).bind k) (enter s d x.world).1
    suffices hl : Leads given x x' from ⟨hl, hP hx hp hl rfl⟩
    cases hc : (x.world.server s).isConnectedTo d.uri with
    | true =>
      refine .asked hx ?_
      rw [enter, if_pos hc]
    | false =>
      refine .one hx (.aside ?_)
      have hc' : (x.affairs.server s).isConnectedTo d.uri = false := by
        rw [Affairs.server, Scene.ledger_affairs, Client.server_ledger]
        exact hc
      refine (congrArg (fun L => Aside _ given x.affairs ⟨x.roles, L⟩) (ledger_enter hc)).mpr ?_
      exact .enters (t := t) ⟨(hd x hp).asked _ _, .enters rfl⟩ hc'
  · cases r with
    | none => exact courteous_pure ()
    | some session => exact Session.always_tellOpened session hP

/-- A document that is to be connected is at most made to wait. -/
theorem takeIn_cases (s : ServerId) (d : OpenDocument) (c : Client E) :
    (takeIn s d c).1 = c ∨ (takeIn s d c).1 = c.updateServer s (·.enqueue d) := by
  unfold takeIn
  dsimp only
  split
  · exact .inl rfl
  · split
    · exact .inr rfl
    all_goals exact .inl rfl

theorem courteous_connectStarted (s : ServerId) (hP : Lasting given t P)
    (hd : ∀ x, P x → x.Knows given t d.uri) :
    Courteous given t P (connectStarted s d : Prog E K Unit) fun _ => P := by
  refine Courteous.bind (Q := fun _ => P) (courteous_act fun x hx hp γ k => ?_) fun r => ?_
  · let x' := x.asked t ((Program.act (takeIn s d)).bind k) (takeIn s d x.world).1
    suffices hl : Leads given x x' from ⟨hl, hP hx hp hl rfl⟩
    rcases takeIn_cases s d x.world with hquiet | henqueued
    · exact .asked hx (by rw [hquiet])
    · refine .one hx (.aside ?_)
      have hledger : (takeIn s d x.world).1.ledger =
          x.world.ledger.put s ((x.world.ledger.server s).enqueue d) := by
        rw [henqueued]
        exact x.world.ledger_updateServer_of_commutes s (commutes_enqueue d)
      refine (congrArg (fun L => Aside _ given x.affairs ⟨x.roles, L⟩) hledger).mpr ?_
      exact .enqueues (t := t) ⟨(hd x hp).asked _ _, .takesIn rfl⟩
  · cases r with
    | false => exact courteous_pure ()
    | true => exact courteous_openSession s hP hd

/-- All of them, one after another. -/
theorem courteous_bringAll {bring : OpenDocument → Prog E K Unit} (ds : List OpenDocument)
    (hP : Lasting given t P)
    (h : ∀ (d : OpenDocument) {P : Scene (Client E) (Job K) (Role K) → Prop}, Lasting given t P →
      (∀ x, P x → x.Knows given t d.uri) → Courteous given t P (bring d) fun _ => P) :
    Courteous given t (fun x => P x ∧ x.KnowsAll given t ds) (.each bring ds) fun _ => P := by
  refine (courteous_each ds fun d hd => ?_).mono (fun _ _ hx => hx) fun _ _ hx => hx.1
  exact h d (hP.and (Scene.lasting_knowsAll ds)) fun x hx => hx.2 d hd

end Server

end Connecting

/-! ## The greeting -/

open Scene (KnowsAll)

theorem Ledger.Lacks.put {L : Ledger} {uri : String} (h : L.Lacks uri) {s : ServerId} {x : Server}
    (hc : x.connected ⊆ (L.server s).connected) (hq : x.queue ⊆ (L.server s).queue) :
    (L.put s x).Lacks uri := by
  have hserver (r : ServerId) : ((L.put s x).server r).connected ⊆ (L.server r).connected ∧
      ((L.put s x).server r).queue ⊆ (L.server r).queue := by
    rcases eq_or_ne s r with rfl | hr
    · rcases Nat.lt_or_ge s L.servers.length with hs | hs
      · rw [Ledger.server_put_same _ _ hs]
        exact ⟨hc, hq⟩
      · rw [Ledger.put, List.set_eq_of_length_le hs]
        exact ⟨List.Subset.refl _, List.Subset.refl _⟩
    · rw [Ledger.server_put_ne _ _ hr]
      exact ⟨List.Subset.refl _, List.Subset.refl _⟩
  refine ⟨fun r => ?_, fun r => ?_, h.index, h.unlisted⟩
  · exact List.any_eq_false.2 fun e he => List.any_eq_false.1 (h.connected r) e ((hserver r).1 he)
  · exact List.any_eq_false.2 fun d hd => List.any_eq_false.1 (h.pending r) d ((hserver r).2 hd)

namespace Server

/-- The role of a task that speaks on its link, as far as it has come. -/
abbrev greeting (ρ : Role K) (l : LinkId) (stage : Link.Stage) : Role K :=
  { ρ with link := some (l, stage) }

theorem queue_becomeStarted (x : Server) (a : Access) : (x.becomeStarted a).queue = x.queue := by
  obtain ⟨_, _, _, h⟩ := exists_move { x with access := some a } .started
  rw [becomeStarted, h]

theorem attempts_greeting {owner : LinkOwner} {l : LinkId} {params : Json}
    (hg : ρ.origin.greeting? = some (owner, l)) :
    Attempts given t (fun x => x.roles t = greeting ρ l .fresh)
      (Link.ask l "initialize" params : Prog E K _)
      (fun _ x => x.roles t = greeting ρ l .initializing)
      fun x => x.roles t = greeting ρ l .initializing := by
  have hP : Lasting given t fun x : Scene (Client E) (Job K) (Role K) =>
      x.roles t = greeting ρ l .initializing := lasting_role _
  refine Attempts.bind (Q := fun _ x => x.roles t = greeting ρ l .initializing)
    (attempts_act fun x hx hrole => ?_) fun _ => Courteous.attempts ?_ hP
  · have hrole' : x.affairs.roles t = greeting ρ l .fresh := hrole
    have hact := @Act.asks K x.affairs t owner l params (by rwa [hrole']) (by rw [hrole'])
    rw [hrole'] at hact
    exact ⟨_, .act hact, fun h => by rwa [hrole] at h, fun x' hself _ => hself⟩
  · refine (Link.courteous_request hP l _ _).bind fun outcome => ?_
    exact (Link.courteous_hear hP (.inl (by decide))).bind fun _ => courteous_pure _

/-- The server is started and told so, with nothing in between. -/
theorem handles_greet {s : ServerId} {γ : Nat} {l : LinkId} {capabilities : Capabilities}
    (hg : ρ.origin.greeting? = some (⟨s, γ⟩, l)) {k : Prog E K α}
    {Q : α → Scene (Client E) (Job K) (Role K) → Prop}
    (hk : Handles given t (fun x => x.roles t = { at_ ρ s .idle with link := none } ∧
      x.affairs.Genuine ⟨s, γ, l, capabilities⟩) k Q) :
    Handles given t
      (fun x => x.roles t = at_ (greeting ρ l .initializing) s .idle ∧
        (x.affairs.server s).generation = γ ∧ (x.affairs.server s).status = .starting)
      (show Prog E K α from do
        Program.modify (Client.updateServer s (·.becomeStarted ⟨s, γ, l, capabilities⟩))
        let _ ← Link.tell l "initialized" (Json.object [])
        k) Q := by
  rintro o x ho hx ⟨hrole, hγ, hs⟩
  let a : Access := ⟨s, γ, l, capabilities⟩
  let P (x : Scene (Client E) (Job K) (Role K)) : Prop :=
    x.roles t = { at_ ρ s .idle with link := none } ∧ x.affairs.Genuine a
  have hP : Lasting given t P := (lasting_role _).and (Scene.lasting_genuine a)
  have hheld : (x.roles t).hold ≠ none := by
    rw [hrole]
    exact nofun
  let w := Client.updateServer s (·.becomeStarted a) x.world
  refine From.bind (p := Program.modify (Client.updateServer s (·.becomeStarted a)))
    (Q := fun _ o' x₁ => o = o' ∧ ∃ (δ : Type) (p : Prog E K δ), x₁ = x.asked t p w)
    (from_act fun _ => ⟨rfl, _, _, rfl⟩) fun _ o' x₁ ⟨ho', δ, p, hx₁⟩ => ?_
  subst ho' hx₁
  have hnote : (ofClient given).From t o (x.asked t p w)
      (Program.modify (HasWiring.modify (·.note l (.told "initialized" (Json.object [])))))
      (fun _ o' x' => Leads given o' x' ∧ Leads given x x' ∧ P x')
      fun o' x' => Holds t x o' ∧ (ofClient given).Spares t o' x' := by
    refine from_act_become fun k => ⟨{ at_ ρ s .idle with link := none }, ?_⟩
    let q := (Program.modify (HasWiring.modify (·.note l (.told "initialized" (Json.object [])))) :
      Prog E K Unit).bind k
    let w' := HasWiring.modify (·.note l (.told "initialized" (Json.object []))) w
    let x' := ((x.asked t p w).asked t q w').become t { at_ ρ s .idle with link := none }
    have hrole' : x.affairs.roles t = at_ (greeting ρ l .initializing) s .idle := hrole
    have hact := @Act.greets K x.affairs t s γ l capabilities (.object []) (by rwa [hrole'])
      (congrArg Role.hold hrole')
      (congrArg Role.link hrole') hγ hs
    have hledger : w.ledger = x.world.ledger.put s ((x.affairs.server s).becomeStarted a) :=
      x.world.ledger_updateServer_of_commutes s (commutes_becomeStarted a)
    have hact' : Act x.affairs x'.affairs := by
      rw [hrole'] at hact
      exact (congrArg (fun L : Ledger => Act x.affairs
        ⟨update x.roles t _, L.say l (.told "initialized" (Json.object []))⟩) hledger).mpr hact
    have hl : Leads given x x' := by
      have hlevel : x.world.ledger.Level w.ledger := by
        rw [hledger]
        exact .put (generation_becomeStarted ..) (crashes_becomeStarted ..)
      have hlevel' : x.world.ledger.Level w'.ledger := hlevel.say
      refine .single ⟨[.asks t p x.world w, .asks t q w w'], ?_, fun m hm u uri ht hlacks => ?_,
        .level hlevel' fun m hm => ?_, .act hact'⟩
      · exact List.append_assoc ..
      rotate_left
      · rcases List.mem_cons.1 hm with rfl | hm
        · exact ⟨.refl _, hlevel⟩
        · obtain rfl := List.mem_singleton.1 hm
          exact ⟨hlevel, hlevel'⟩
      rcases List.mem_cons.1 hm with rfl | hm
      · exact Scene.not_lacks_of_takes ht hx.keyed rfl hlacks
      · obtain rfl := List.mem_singleton.1 hm
        -- The start of a server brings no document.
        let A := x.affairs.put s ((x.affairs.server s).becomeStarted a)
        have hkeyed : A.Keyed := hx.keyed.put fun e he => by
          rwa [connected_becomeStarted] at he
        refine Scene.not_lacks_of_takes (A := A) ht hkeyed hledger ?_
        refine hlacks.put (fun e he => ?_) fun d hd => ?_
        · rwa [connected_becomeStarted] at he
        · rwa [queue_becomeStarted] at hd
    have hrole'' : x'.roles t = { at_ ρ s .idle with link := none } := Scene.roles_become_same ..
    refine ⟨ho.trans hl, hl, hrole'', ?_⟩
    refine (hl.sane hx).genuine (s := s) ?_
    have hserver : x'.affairs.server s = (x.affairs.server s).becomeStarted a := by
      refine (congrArg (fun L : Ledger => L.server s) hledger).trans ?_
      exact Ledger.server_put_same _ _ (hx.drives (congrArg Role.hold hrole')).2
    rw [hserver, access_becomeStarted]
  refine From.bind (p := Link.tell l "initialized" (Json.object []))
    (Q := fun _ o' x' => Leads given o' x' ∧ Leads given x x' ∧ P x') ?_
    fun _ o' x' ⟨howed, hsince, hp⟩ => ?_
  · refine hnote.bind fun _ o' x' ⟨howed, hsince, hp⟩ => ?_
    refine (Link.courteous_notify hP l _ _ howed (hsince.sane hx) hp).mono ?_ ?_
    · exact fun _ o'' x'' hq => ⟨hq.1.owed, hsince.trans hq.1.since, hq.2⟩
    · refine fun o'' x'' hr => ⟨fun _ => ?_, hr.spares⟩
      rw [hr.paused, hp.1]
      exact nofun
  · refine (hk howed (hsince.sane hx) hp).mono ?_ ?_
    · refine fun b o'' x'' hq => ⟨hq.1, hsince.trans hq.2.1, fun _ => hq.2.2.1 ?_, hq.2.2.2⟩
      rw [hp.1]
      exact nofun
    · refine fun o'' x'' hl => ⟨fun _ => hl.1 ?_, hl.2⟩
      rw [hp.1]
      exact nofun

theorem durable_founded (job : Job K) :
    Durable given fun x : Scene (Client E) (Job K) (Role K) => x.affairs.Founded job :=
  fun _ _ hx h hl => hl.founded hx h

theorem handles_initialized {owner : LinkOwner} {l : LinkId} {capabilities : Capabilities}
    (hg : ρ.origin.greeting? = some (owner, l)) (hd : ρ.origin.Drives owner.server)
    (hold : ρ.hold = none) (hdues : ρ.dues = []) :
    Handles given t
      (fun x => x.roles t = greeting ρ l .initializing ∧ owner.server < x.world.ledger.servers.length)
      (initialized owner l capabilities : Prog E K Unit) fun _ _ => True := by
  have hg' : ρ.origin.greeting? ≠ none := by
    rw [hg]
    exact nofun
  refine handles_locked (ρ := greeting ρ l .initializing) (C := fun _ => True)
    (durable_founded (.abandon owner)) (fun _ h => h) hold hd (.inl hg') ?_
  let P (x : Scene (Client E) (Job K) (Role K)) : Prop :=
    x.roles t = at_ (greeting ρ l .initializing) owner.server .idle
  have hread : Courteous given t P (Program.read (·.server owner.server) : Prog E K Server)
      fun server x => P x ∧ (x.affairs.server owner.server).generation = server.generation ∧
        (x.affairs.server owner.server).status = server.status := by
    refine courteous_read (lasting_role _) fun x _ _ x' heq hp => ⟨hp, ?_⟩
    rw [heq, Affairs.server, Scene.ledger_affairs, Client.server_ledger]
    exact ⟨rfl, rfl⟩
  refine hread.handles.of_imp (fun _ hx => hx.1) |>.bind fun server => ?_
  split
  · exact handles_done fun x hx => ⟨greeting ρ l .initializing, trivial, hold, hdues, hx.1⟩
  rename_i hne
  simp only [ne_eq, not_or, not_not] at hne
  obtain ⟨hγ, hs⟩ := hne
  refine (handles_greet (s := owner.server) (γ := owner.generation) hg ?_).of_imp
    fun x hx => ⟨hx.1, hx.2.1.trans hγ, hx.2.2.trans hs⟩
  have hrole : Lasting given t fun x : Scene (Client E) (Job K) (Role K) =>
      x.roles t = { at_ ρ owner.server .idle with link := none } := lasting_role _
  refine ((using_pushSettings owner.server _).handles hrole).bind fun _ => ?_
  refine (courteous_takeQueue owner.server hrole).handles.bind fun waiting => ?_
  refine (courteous_bringAll waiting hrole fun d {_} => courteous_openSession _).handles.mono
    (fun _ _ hx => hx) fun _ x hx => ⟨{ ρ with link := none }, trivial, hold, hdues, hx⟩

/-- Initializing ends with a server that is started, or one that has failed. -/
theorem handles_handshake {owner : LinkOwner} {l : LinkId} {params : Json} :
    Handles given t (fun x => x.roles t = .ofJob (.handshake owner l params) ∧
        x.affairs.Founded (.handshake owner l params))
      (handshake owner l params : Prog E K Unit) fun _ _ => True := by
  let ρ : Role K := .new (.hired (.handshake owner l params))
  have hask := @attempts_greeting E K given t ρ owner l params rfl
  have hask := hask.limit .handshake (lasting_role _) (fun _ => lasting_role _) (lasting_role _)
  have hanswer : Handles given t
      (fun x => x.roles t = greeting ρ l .fresh ∧ x.affairs.Founded (.abandon owner))
      (Prog.limit .handshake (Link.ask l "initialize" params) : Prog E K _)
      fun _ x => x.roles t = greeting ρ l .initializing ∧ x.affairs.Founded (.abandon owner) := by
    refine (hask.frame (durable_founded _)).mono (fun _ _ hx => hx) fun r x hx => ?_
    cases r <;> exact hx
  refine (hanswer.of_imp fun x hx => ⟨hx.1, hx.2.lt⟩).bind fun r => ?_
  cases capabilitiesOf? r with
  | ok capabilities => exact handles_initialized rfl rfl rfl rfl
  | error e =>
    let P (x : Scene (Client E) (Job K) (Role K)) : Prop :=
      x.roles t = greeting ρ l .initializing ∧ x.affairs.Founded (.abandon owner)
    have hP : Lasting given t P := (lasting_role _).and (Scene.lasting_founded _)
    have hread : Courteous given t P (Program.read (·.server owner.server) : Prog E K Server)
        fun server x => P x ∧ (x.affairs.server owner.server).generation = server.generation := by
      refine courteous_read hP fun x _ _ x' heq hp => ⟨hp, ?_⟩
      rw [heq, Affairs.server, Scene.ledger_affairs, Client.server_ledger]
      rfl
    refine hread.handles.bind fun server => ?_
    split
    · exact handles_done fun _ _ => trivial
    rename_i hγ
    rw [ne_eq, not_not] at hγ
    refine Handles.bind (Q := fun _ x => x.roles t = { ρ with link := none } ∧
      x.affairs.Founded (.abandon owner)) ?_ fun _ => ?_
    · refine Handles.mono (Handles.frame (P := fun x => x.roles t = greeting ρ l .initializing ∧
          (x.affairs.server owner.server).generation = owner.generation)
        (Q := fun _ x => x.roles t = { ρ with link := none }) ?_ (durable_founded (.abandon owner)))
        (fun x _ hx => ⟨⟨hx.1.1, hx.2.trans hγ⟩, hx.1.2⟩) fun _ _ hx => hx
      refine handles_act fun x hx hp => ?_
      obtain ⟨hrole, hγ⟩ := hp
      refine ⟨{ ρ with link := none }, .act ?_, fun h => ?_, fun x' hself _ => hself⟩
      · have hrole' : x.affairs.roles t = greeting ρ l .initializing := hrole
        have hact := Act.breaks (A := x.affairs) (t := t) (l := l) (by rw [hrole']; rfl)
          (congrArg Role.hold hrole') (congrArg Role.link hrole') hγ
        rw [hrole'] at hact
        rw [ledger_failed]
        exact hact
      · exact absurd (congrArg Role.hold hrole) h
    · refine (courteous_start (.abandon owner)
        ((lasting_role _).and (Scene.lasting_founded (.abandon owner))) (fun _ _ hx => hx.2)
        rfl).handles.bind fun _ => handles_done fun _ _ => trivial

end Server

end LanguageClient
