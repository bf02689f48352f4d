import LanguageClient.Proofs.Server.Initializing
namespace LanguageClient

/-!
# What can be asked of a server

Starts, stops, restarts, crashes, and the documents that come and go. Each takes the lifecycle of the
server for as long as it starts or stops it.
-/

open Function (update)
open Regime Courteous
open Scene (Leads Stays Rests Lasting Durable Holds KnowsAll)

variable {E K : Type} {α β : Type} {given : String → Prop} {t : TaskId} {ρ : Role K}
  {net : Providers (Client E) (Job K)} (hnet : net.Aloof)

namespace Server

theorem handles_fail {s : ServerId} (hg : ρ.origin.greeting? = none) :
    Handles given t (fun x => x.roles t = at_ ρ s .counting)
      (Program.modify (Client.updateServer s (·.move .failed)) : Prog E K Unit)
      fun _ x => x.roles t = at_ ρ s .failing := by
  refine handles_act fun x hx hrole => ⟨at_ ρ s .failing, .act ?_, fun _ => nofun, fun x' hself _ => hself⟩
  have hrole' : x.affairs.roles t = at_ ρ s .counting := hrole
  have hact := Act.fails (A := x.affairs) (t := t) (by rwa [hrole']) (congrArg Role.hold hrole')
  rw [hrole'] at hact
  have hledger := x.world.ledger_updateServer_of_commutes s (commutes_move .failed)
  exact (congrArg (fun L => Act x.affairs ⟨update x.roles t _, L⟩) hledger).mpr hact

theorem handles_count {s : ServerId} (hg : ρ.origin.greeting? = none) :
    Handles given t
      (fun x => x.roles t = at_ ρ s .idle ∧ (x.affairs.server s).status ≠ .stopped)
      (Program.act (Client.visitServer s countCrash) : Prog E K Nat)
      fun _ x => x.roles t = at_ ρ s .counting := by
  refine handles_act fun x hx hp => ⟨at_ ρ s .counting, .act ?_, fun _ => nofun, fun x' hself _ => hself⟩
  obtain ⟨hrole, hs⟩ := hp
  have hrole' : x.affairs.roles t = at_ ρ s .idle := hrole
  have hact := Act.counts (A := x.affairs) (t := t) (by rwa [hrole']) (congrArg Role.hold hrole') hs
  rw [hrole'] at hact
  have hledger := x.world.ledger_visitServer_of_commutes s (f := countCrash) fun _ => rfl
  exact (congrArg (fun L => Act x.affairs ⟨update x.roles t _, L⟩) hledger).mpr hact

theorem handles_forgive {s : ServerId} :
    Handles given t (fun x => x.roles t = at_ ρ s .idle)
      (Program.modify (Client.updateServer s forgive) : Prog E K Unit)
      fun _ x => x.roles t = at_ ρ s .idle := by
  refine handles_act fun x hx hrole => ⟨at_ ρ s .idle, .act ?_, fun _ => nofun, fun x' hself _ => hself⟩
  have hrole' : x.affairs.roles t = at_ ρ s .idle := hrole
  have hact := Act.forgives (A := x.affairs) (t := t) (congrArg Role.hold hrole')
  have hserver : x.affairs.server s = (x.world.server s).plain := x.world.server_ledger s
  have hledger : (Client.updateServer s forgive x.world).ledger =
      x.world.ledger.put s { x.affairs.server s with crashes := 0 } := by
    rw [hserver]
    exact x.world.ledger_updateServer s forgive
  have hroles : update x.roles t (at_ ρ s .idle) = x.roles := by
    rw [← hrole, Function.update_eq_self]
  rw [hroles]
  exact (congrArg (fun L => Act x.affairs ⟨x.roles, L⟩) hledger).mpr hact

theorem ledger_showCrash (s : ServerId) (e : ClientError) (c : Client E) :
    (showCrash s e c).ledger = c.ledger := by
  unfold showCrash
  dsimp only
  split
  · rfl
  · exact c.ledger_updateServer_of_plain s rfl

/-- The lifecycle is held for a while, and then given back. -/
theorem handles_held {s : ServerId} {p : Prog E K Unit}
    {F : Scene (Client E) (Job K) (Role K) → Prop} (hF : Durable given F)
    (hs : ∀ x, F x → s < x.world.ledger.servers.length) (hold : ρ.hold = none)
    (hd : ρ.origin.Drives s) (hlink : ρ.link = none) (hdues : ρ.dues = [])
    (h : Handles given t (fun x => x.roles t = at_ ρ s .idle ∧ F x) p
      fun _ x => x.roles t = at_ ρ s .idle) :
    Handles given t (fun x => x.roles t = ρ ∧ F x) (Program.locked (Client.lifecycleLock s) p)
      fun _ x => x.roles t = ρ := by
  refine handles_locked (C := (· = ρ)) hF hs hold hd (.inr hlink) ?_
  exact h.mono (fun _ _ hx => hx) fun _ _ hx => ⟨ρ, rfl, hold, hdues, hx⟩

/-! ## Documents -/

section Taken

variable {s : ServerId} {uri : String} {x : Scene (Client E) (Job K) (Role K)} (hx : x.Sane)
  {γ : Type} (p : Prog E K γ)

theorem ledger_take (s : ServerId) (uri : String) (c : Client E) :
    (Client.visitServer s (takeDocument uri) c).1.ledger =
      c.ledger.put s ((c.ledger.server s).remove uri) :=
  c.ledger_visitServer_of_commutes s (commutes_remove uri)

theorem mem_of_session? {x : Server} {session : SessionId} (h : x.session? uri = some session) :
    (uri, session) ∈ x.connected := by
  obtain ⟨l₁, l₂, heq, -⟩ := List.lookup_eq_some_iff.1 h
  rw [heq]
  exact List.mem_append_right _ List.mem_cons_self

theorem session?_ledger (c : Client E) (s : ServerId) (uri : String) :
    (c.ledger.server s).session? uri = (c.server s).session? uri := by
  rw [Client.server_ledger]
  rfl

/-- Only a server that there is had the document. -/
theorem here_of_took (h : (takeDocument uri (x.world.server s)).2.2.1 = true) :
    s < x.world.ledger.servers.length := by
  by_contra hs
  have hlength : x.world.servers.entries.length ≤ s := by
    rw [← List.length_map (f := plain)]
    exact Nat.le_of_not_lt hs
  have hserver : x.world.server s = default := by
    rw [Client.server, Store.get, Store.get?, List.getElem?_eq_none hlength]
    rfl
  rw [hserver] at h
  cases h

include hx

/-- A document that has no session is taken off a server. -/
theorem leads_removed (h : (x.world.server s).session? uri = none) :
    Leads given x (x.asked t p (Client.visitServer s (takeDocument uri) x.world).1) := by
  refine .one hx (.aside ?_)
  exact (congrArg (fun L => Aside _ given x.affairs ⟨x.roles, L⟩) (ledger_take s uri x.world)).mpr
    (.removes ((session?_ledger x.world s uri).trans h))

/-- A document is taken off a server and its session out of the index, with nothing in between. -/
theorem leads_dropped {session : SessionId} (h : (x.world.server s).session? uri = some session)
    {δ : Type} (q : Prog E K δ) :
    let w := (Client.visitServer s (takeDocument uri) x.world).1
    Leads given x ((x.asked t p w).asked t q
      (w.updateIndex (·.remove (w.session session).uri session))) := by
  intro w
  have hledger : w.ledger = x.world.ledger.put s ((x.affairs.server s).remove uri) :=
    ledger_take s uri x.world
  have hcut : ((x.affairs.server s).remove uri).connected ⊆ (x.affairs.server s).connected :=
    List.filter_subset_self _
  have hsession : (x.affairs.server s).session? uri = some session :=
    (session?_ledger x.world s uri).trans h
  have huri : (w.session session).uri = uri := by
    refine Scene.uri_of_uris (hledger ▸ hx.keyed s (uri, session) ?_)
    exact mem_of_session? hsession
  rw [huri]
  let w' := w.updateIndex (·.remove uri session)
  have hlevel : x.world.ledger.Level w.ledger := by
    rw [hledger]
    exact .put rfl rfl
  have hlevel' : x.world.ledger.Level w'.ledger :=
    ⟨hlevel.length_eq, hlevel.generation, hlevel.crashes⟩
  refine .single ⟨[.asks t p x.world w, .asks t q w w'], ?_, fun m hm u uri' ht hlacks => ?_,
    .level hlevel' fun m hm => ?_, .aside ?_⟩
  · exact List.append_assoc ..
  · rcases List.mem_cons.1 hm with rfl | hm
    · exact Scene.not_lacks_of_takes ht hx.keyed rfl hlacks
    · obtain rfl := List.mem_singleton.1 hm
      -- What is left on the server was there before.
      let A := x.affairs.put s ((x.affairs.server s).remove uri)
      have hkeyed : A.Keyed := hx.keyed.put fun e he => hcut he
      refine Scene.not_lacks_of_takes (A := A) ht hkeyed hledger (hlacks.put hcut ?_)
      exact List.filter_subset_self _
  · rcases List.mem_cons.1 hm with rfl | hm
    · exact ⟨.refl _, hlevel⟩
    · obtain rfl := List.mem_singleton.1 hm
      exact ⟨hlevel, hlevel'⟩
  · exact (congrArg (fun L : Ledger => Aside _ given x.affairs
      ⟨x.roles, { L with index := L.index.remove uri session }⟩) hledger).mpr (.drops hsession)

end Taken

/-- There is such a server. -/
abbrev Here (s : ServerId) (x : Scene (Client E) (Job K) (Role K)) : Prop :=
  s < x.world.ledger.servers.length

theorem durable_here (s : ServerId) :
    Durable given fun x : Scene (Client E) (Job K) (Role K) => Here s x :=
  durable_founded (.abandon ⟨s, 0⟩)

theorem durable_knowsAll (ds : List OpenDocument) :
    Durable given fun x : Scene (Client E) (Job K) (Role K) => x.KnowsAll given t ds :=
  fun _ _ _ h hl d hd => hl.knows (h d hd)

include hnet

theorem handles_abandon {owner : LinkOwner} :
    Handles given t (fun x => x.roles t = .ofJob (.abandon owner) ∧
        x.affairs.Founded (.abandon owner))
      (abandon net owner) fun _ _ => True := by
  have hbody : Handles given t
      (fun x => x.roles t = at_ (.new (.hired (.abandon owner))) owner.server .idle ∧
        Here owner.server x)
      (show Prog E K Unit from do
        if ← Program.read fun c => (c.server owner.server).generation == owner.generation then
          stopHeld net owner.server)
      fun _ x => x.roles t = at_ (.new (.hired (.abandon owner))) owner.server .idle := by
    refine ((courteous_look (lasting_role _)).handles.of_imp fun _ hx => hx.1).bind fun b => ?_
    cases b with
    | false => exact handles_done fun _ hx => hx
    | true => exact handles_stopHeld hnet rfl rfl rfl (.inl rfl)
  exact (handles_held (ρ := .new (.hired (.abandon owner))) (s := owner.server) (durable_here _)
    (fun _ hx => hx) rfl rfl rfl rfl hbody).mono
    (fun _ _ hx => hx) fun _ _ _ => trivial

theorem handles_stop {s : ServerId} (hg : ρ.origin.greeting? = none) (hold : ρ.hold = none)
    (hd : ρ.origin.Drives s) (hlink : ρ.link = none) (hdues : ρ.dues = []) :
    Handles given t (fun x => x.roles t = ρ ∧ Here s x) (stop net s) fun _ x => x.roles t = ρ := by
  refine handles_held (durable_here s) (fun _ hx => hx) hold hd hlink hdues ?_
  exact (handles_stopHeld hnet hg hlink hdues (.inl rfl)).of_imp fun _ hx => hx.1

theorem handles_start {s : ServerId} (hgreeting : ρ.origin.greeting? = none)
    (hg : ρ.generation = 0) (hold : ρ.hold = none) (hd : ρ.origin.Drives s)
    (hlink : ρ.link = none) (hdues : ρ.dues = []) :
    Handles given t (fun x => x.roles t = ρ ∧ Here s x) (start net s) fun _ x => x.roles t = ρ := by
  refine handles_held (durable_here s) (fun _ hx => hx) hold hd hlink hdues ?_
  exact (handles_startHeld hnet hgreeting hg hlink hdues).of_imp fun _ hx => hx.1

theorem handles_crashed {owner : LinkOwner} {e : ClientError}
    (hgreeting : ρ.origin.greeting? = none) (hg : ρ.generation = 0) (hold : ρ.hold = none)
    (hd : ρ.origin.Drives owner.server) (hlink : ρ.link = none) (hdues : ρ.dues = []) :
    Handles given t (fun x => x.roles t = ρ ∧ x.affairs.Founded (.crash owner e))
      (crashed net owner e) fun _ x => x.roles t = ρ := by
  refine handles_held (durable_founded (.crash owner e)) (fun _ hx => hx.lt) hold hd hlink hdues ?_
  let s := owner.server
  let P (x : Scene (Client E) (Job K) (Role K)) : Prop := x.roles t = at_ ρ s .idle
  have hP : Lasting given t P := lasting_role _
  -- The generation that broke has been begun and is not being stopped, so it runs.
  let Runs (A : Affairs K) : Prop := A.roles t = at_ ρ s .idle ∧ (A.server s).status ≠ .stopped
  have hread : Courteous given t (fun x => P x ∧ x.affairs.Founded (.crash owner e))
      (Program.read fun c => (c.server s).generation != owner.generation : Prog E K Bool)
      fun b x => P x ∧ (b = false → Runs x.affairs) := by
    refine courteous_read (hP.and (Scene.lasting_founded _)) fun x hx hp x' heq hp' =>
      ⟨hp'.1, fun hb => ⟨hp'.1, ?_⟩⟩
    rw [heq]
    refine hp.2.ne_stopped (Eq.symm ?_)
    rw [Affairs.server, Scene.ledger_affairs, Client.server_ledger, generation_plain]
    exact of_not_not (bne_eq_false_iff_eq.1 hb ▸ not_not_intro rfl)
  refine hread.handles.bind fun b => ?_
  cases b with
  | true => exact handles_done fun _ hx => hx.1
  | false =>
    refine ((handles_count hgreeting).of_imp fun _ hx => hx.2 rfl).bind fun count => ?_
    refine (courteous_look (lasting_role _)).handles.bind fun threshold => ?_
    split
    · have hcounting : Lasting given t fun x : Scene (Client E) (Job K) (Role K) =>
          x.roles t = at_ ρ s .counting := lasting_role _
      refine (courteous_documents s hcounting).handles.bind fun waiting => ?_
      have hknows : Durable given fun x : Scene (Client E) (Job K) (Role K) =>
          x.KnowsAll given t waiting := durable_knowsAll waiting
      refine ((handles_stopHeld hnet hgreeting hlink hdues (.inr (.inl rfl))).frame hknows).bind
        fun _ => ?_
      split
      · exact handles_done fun _ hx => hx.1
      refine ((handles_startHeld hnet hgreeting hg hlink hdues).frame hknows).bind fun _ => ?_
      exact (courteous_bringAll waiting hP fun d {_} => courteous_connectStarted s).handles
    · refine (handles_fail hgreeting).bind fun _ => ?_
      refine (handles_stopHeld hnet hgreeting hlink hdues (.inr (.inr rfl))).bind fun _ => ?_
      exact (courteous_modify hP (ledger_showCrash s e)).handles

section Called

variable (hgreeting : ρ.origin.greeting? = none) (hg : ρ.generation = 0) (hold : ρ.hold = none)
  (hlink : ρ.link = none) (hdues : ρ.dues = [])

include hgreeting hold hlink hdues

theorem handles_restart {s : ServerId} (hg : ρ.generation = 0) (hd : ρ.origin.Drives s) :
    Handles given t (fun x => x.roles t = ρ ∧ Here s x) (restart net s)
      fun _ x => x.roles t = ρ := by
  have hP : Lasting given t fun x : Scene (Client E) (Job K) (Role K) =>
      x.roles t = at_ ρ s .idle := lasting_role _
  refine Handles.bind (Q := fun _ x => x.roles t = ρ ∧ Here s x) ?_ fun _ => ?_
  · refine ((handles_held (durable_here s) (fun _ hx => hx) hold hd hlink hdues ?_).frame
      (durable_here s)).of_imp fun _ hx => ⟨hx, hx.2⟩
    refine ((courteous_look hP).handles.of_imp fun _ hx => hx.1).bind fun status => ?_
    have hstop : Handles given t (fun x => x.roles t = at_ ρ s .idle) (stopHeld net s)
        fun _ x => x.roles t = at_ ρ s .idle := handles_stopHeld hnet hgreeting hlink hdues (.inl rfl)
    cases status with
    | started => exact hstop.bind fun _ => handles_forgive
    | starting => exact hstop.bind fun _ => handles_forgive
    | _ => exact handles_forgive
  · have hhere : Lasting given t fun x : Scene (Client E) (Job K) (Role K) =>
        x.roles t = ρ ∧ Here s x := (lasting_role ρ).and fun _ _ hx h hl _ => durable_here s hx h hl
    refine (courteous_handled s hhere).handles.bind fun waiting => ?_
    split
    · exact handles_done fun _ hx => hx.1.1
    have hknows : Durable given fun x : Scene (Client E) (Job K) (Role K) =>
        x.KnowsAll given t waiting := durable_knowsAll waiting
    refine ((handles_start hnet hgreeting hg hold hd hlink hdues).frame hknows).bind fun _ => ?_
    exact (courteous_bringAll waiting (lasting_role ρ)
      fun d {_} => courteous_connectStarted s).handles

theorem handles_connect {s : ServerId} {d : OpenDocument} (hg : ρ.generation = 0)
    (hd : ρ.origin.Drives s) (hgiven : given d.uri) :
    Handles given t (fun x => x.roles t = ρ ∧ Here s x) (connect net s d)
      fun _ x => x.roles t = ρ := by
  have hhere : Lasting given t fun x : Scene (Client E) (Job K) (Role K) =>
      x.roles t = ρ ∧ Here s x := (lasting_role ρ).and fun _ _ hx h hl _ => durable_here s hx h hl
  refine (courteous_look hhere).handles.bind fun failed => ?_
  split
  · exact handles_done fun _ hx => hx.1
  refine (handles_start hnet hgreeting hg hold hd hlink hdues).bind fun _ => ?_
  exact (courteous_connectStarted s (lasting_role ρ) fun _ _ => .inl hgiven).handles

theorem handles_disconnect {s : ServerId} {uri : String} (hd : ρ.origin.Drives s) :
    Handles given t (fun x => x.roles t = ρ) (disconnect net s uri) fun _ x => x.roles t = ρ := by
  rintro o x ho hx hrole
  let w := (Client.visitServer s (takeDocument uri) x.world).1
  let P (x' : Scene (Client E) (Job K) (Role K)) : Prop := x'.roles t = ρ ∧ Leads given x x'
  have hP : Lasting given t P :=
    (lasting_role ρ).and fun _ _ _ hsince hl _ => hsince.trans hl
  refine From.bind (p := Program.act (Client.visitServer s (takeDocument uri)))
    (Q := fun r o' x₁ => r = (takeDocument uri (x.world.server s)).2 ∧ o = o' ∧
      ∃ (δ : Type) (p : Prog E K δ), x₁ = x.asked t p w)
    (from_act fun _ => ⟨rfl, rfl, _, _, rfl⟩) fun r o' x₁ ⟨hr, ho', δ, p, hx₁⟩ => ?_
  subst hr ho' hx₁
  have hstop : Handles given t P
      (if ((takeDocument uri (x.world.server s)).2.2.1 &&
        (takeDocument uri (x.world.server s)).2.2.2) = true then stop net s else pure ())
      fun _ x' => x'.roles t = ρ := by
    split
    · rename_i hb
      have hhere : Here s x := here_of_took (Bool.and_eq_true_iff.1 hb).1
      refine (handles_stop hnet hgreeting hold hd hlink hdues).of_imp fun x' hx' => ⟨hx'.1, ?_⟩
      exact durable_here s hx hhere hx'.2
    · exact handles_done fun _ hx' => hx'.1
  have hfree : (x.roles t).hold = none := (congrArg Role.hold hrole).trans hold
  cases hsession : (x.world.server s).session? uri with
  | none =>
    have hl : Leads given x (x.asked t p w) := leads_removed hx p hsession
    simp only [takeDocument, hsession]
    exact hstop.since (ho.trans hl) hx hfree hl ⟨hrole, hl⟩
  | some session =>
    simp only [takeDocument, hsession]
    refine From.bind (p := closeSession session)
      (Q := fun _ o' x' => Leads given o' x' ∧ P x') ?_ fun _ o' x' hq => ?_
    · let w' := w.updateIndex (·.remove (w.session session).uri session)
      refine From.bind (p := Program.modify fun c => c.updateIndex (·.remove (c.session session).uri session))
        (Q := fun _ o' x' => o = o' ∧ ∃ (ε : Type) (q : Prog E K ε), x' = (x.asked t p w).asked t q w')
        (from_act fun _ => ⟨rfl, _, _, rfl⟩) fun _ o' x' ⟨ho', ε, q, hx'⟩ => ?_
      subst ho' hx'
      have hl : Leads given x ((x.asked t p w).asked t q w') := leads_dropped hx p hsession q
      exact (((Session.always_tellClosed session).handles hP).since (ho.trans hl) hx hfree hl ⟨hrole, hl⟩).mono
        (fun _ _ _ hq => ⟨hq.1, hq.2.2.2⟩) fun _ _ h => h
    · exact hstop.since hq.1 hx hfree hq.2.2 hq.2

end Called

end Server

/-- Whoever is called may take a document off whatever server it is on. -/
theorem Routing.handles_disconnect {net : Providers (Client E) (Job K)} (hnet : net.Aloof)
    (uri : String) :
    Handles given t (fun x => x.roles t = .new .called) (disconnect net uri) fun _ _ => True := by
  refine (courteous_look (lasting_role _)).handles.bind fun server => ?_
  cases server with
  | none => exact handles_done fun _ _ => trivial
  | some s =>
    refine (Server.handles_disconnect (ρ := .new .called) (s := s) hnet rfl rfl rfl rfl trivial).bind
      fun _ => ?_
    exact (courteous_modify (f := prune) (lasting_role (.new .called)) fun _ => rfl).handles.mono
      (fun _ _ hx => hx) fun _ _ _ => trivial

end LanguageClient
