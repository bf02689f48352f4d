import LanguageClient.Proofs.Server.Gist
import LanguageClient.Proofs.Server.Locking
namespace LanguageClient

/-!
# Work on one server alone

What a task makes of the gist of a client when it opens and closes sessions, stops a server or starts
it, and nobody else changes anything of the gist meanwhile.
-/

open Program

variable {E K : Type} {t : TaskId} {g : Gist}

/-! ## Speaking through the gate -/

namespace Access

variable {a : Access}

/-- The server is started, at the generation of the access. -/
def Reaches (a : Access) (g : Gist) : Prop :=
  (g.server a.server).generation = a.generation ∧ (g.server a.server).status = .started

instance (a : Access) (g : Gist) : Decidable (a.Reaches g) := inferInstanceAs (Decidable (_ ∧ _))

theorem reaches_iff {c : Client E} : a.Reaches c.gist ↔ a.status c = .started := by
  rw [Reaches, Client.server_gist, status]
  by_cases hgeneration : (c.server a.server).generation = a.generation <;> simp [hgeneration]

/-- The gate admits what the server takes, as long as it is reached. -/
theorem admits_iff {f : Feature} {params : Json} {c : Client E} :
    (a.gate (K := K)).admits f params c = true ↔ a.Reaches c.gist ∧
      f.isSupported a.capabilities (c.server a.server).isRegistered params = true := by
  have hadmits : (a.gate (K := K)).admits f params c = (a.status c == .started &&
      f.isSupported a.capabilities (c.server a.server).isRegistered params) := rfl
  rw [hadmits, Bool.and_eq_true, beq_iff_eq, reaches_iff]

theorem still_report {G : Type} {view : View (Client E) G} (f : Feature) (e : ClientError) :
    Program.Still view t (a.gate.report f e : Prog E K Unit) := by
  unfold Gate.report
  split
  · refine (still_read _).bind fun there => ?_
    cases there with
    | true => exact (still_start _).bind fun _ => still_done ()
    | false => exact still_done ()
  · exact still_done ()

/-- A notification that the gate admits is handed to the link, another one is not. -/
theorem solo_tell {G : Type} {view : View (Client E) G} (hview : view.Overlooks) {g : G}
    {f : Feature} {params : Json} {Q : Unit → G → Prop} (hf : f.isNotification = true)
    (hsay : ∀ c d, view.see c = g → (a.gate (K := K)).admits f params c = true → view.see d = g →
      Q () (view.see (HasWiring.modify (·.note a.link (.told f.method params)) d)))
    (hnot : ∀ c, view.see c = g → (a.gate (K := K)).admits f params c = false → Q () g) :
    (a.tell f params : Prog E K Unit).Solo view t g Q fun _ => True := by
  refine Solo.bind (Solo.bind (solo_read fun c hc => ?_))
  cases h : (a.gate (K := K)).admits f params c with
  | true =>
      simp only [if_true, hf]
      refine Solo.bind (Solo.bind (solo_modify fun d hd => ?_))
      have hQ := hsay c d hc h hd
      refine (hview.notify a.link f.method params).solo (fun r => ?_) trivial
      cases r with
      | ok _ => exact solo_done (solo_done hQ)
      | error e =>
          refine Solo.bind ((still_report f e).solo (fun _ => ?_) trivial)
          exact solo_done (solo_done hQ)
  | false => exact solo_done (solo_done (hnot c hc h))

/-- A notification goes through the gate, or nothing happens. -/
theorem alone_tell {f : Feature} {params : Json} {Q : Unit → Gist → Prop}
    (hf : f.isNotification = true)
    (hsay : ∀ r, f.isSupported a.capabilities r params = true →
      Q () (g.say a.link (.told f.method params)))
    (hnot : ¬ (a.Reaches g ∧ ∀ r, f.isSupported a.capabilities r params = true) → Q () g) :
    Prog.Alone t (a.tell f params : Prog E K Unit) g Q := by
  refine solo_tell Client.overlooks_gist hf (fun c d _ hadmits hd => ?_) fun c hc hadmits => ?_
  · obtain rfl : d.gist = g := hd
    exact hsay _ (admits_iff.1 hadmits).2
  · refine hnot fun ⟨hreaches, hsupported⟩ => ?_
    obtain rfl : c.gist = g := hc
    rw [admits_iff.2 ⟨hreaches, hsupported _⟩] at hadmits
    cases hadmits

end Access

namespace Client

theorem gist_writeSession (x : SessionId) (lock : Lock) (c : Client E) :
    ((sessionLock x).write lock c).gist = c.gist :=
  c.gist_updateSession_of_unlocked x fun _ => rfl

end Client

/-! ## Closing -/

section

variable {G : Type} {view : View (Client E) G} {part : G → Gist} {put : Gist → G → G} {k : G}

/-- What a server is told of a session that is closed. -/
def Session.closing (x : Session) : Link.Event :=
  .told Feature.didClose.method (Params.about x.uri [])

namespace Gist

variable (x : SessionId) (g : Gist)

/-- What becomes of the gist when a session is closed: the server hears of it if the document was
open and the server can be reached. -/
def close : Gist :=
  let y := g.session x
  let closed : Gist := { g with sessions := g.sessions.modify x fun y => { y with closed := true } }
  if y.closed then g
  else if y.opened then
    (g.server y.server).access.elim closed fun a =>
      if a.Reaches g ∧ a.capabilities.openClose = true then closed.say a.link y.closing else closed
  else closed

/-- What becomes of it when the session is taken out of the index before. -/
def dismiss : Gist :=
  close x { g with ledger := { g.ledger with
    index := g.ledger.index.remove (g.session x).uri x } }

end Gist

theorem Session.solo_tellClosed (hview : view.Shows part put) (x : SessionId) :
    (tellClosed x : Prog E K Unit).Solo view t k (fun _ k' => k' = put ((part k).close x) k)
      fun _ => True := by
  let mark (y : Session) : Session := { y with closed := true }
  let g : Gist := part k
  let y : Session := g.session x
  let closed : Gist := { g with sessions := g.sessions.modify x mark }
  have hclose : g.close x = if y.closed then g else if y.opened then
      (g.server y.server).access.elim closed fun a =>
        if a.Reaches g ∧ a.capabilities.openClose = true then closed.say a.link y.closing else closed
      else closed := rfl
  have hlock (lock : Lock) (c : Client E) :
      view.see ((Client.sessionLock x).write lock c) = view.see c :=
    hview.see_eq_of_gist rfl rfl (c.gist_writeSession x lock)
  refine Solo.locked hlock (Solo.bind (solo_read fun c hc => ?_)) trivial
  have hy : (c.session x).unlocked = y := by rw [← c.session_gist, hview.gist_eq hc]
  have hclosed : (c.session x).closed = y.closed := (congrArg Session.closed hy :)
  have hopened : (c.session x).opened = y.opened := (congrArg Session.opened hy :)
  have huri : (c.session x).uri = y.uri := (congrArg Session.uri hy :)
  rw [hclose, hclosed, hopened, huri]
  split
  · exact solo_done (hview.put_part k).symm
  refine Solo.bind (solo_modify fun d hd => ?_)
  have hmarked : view.see (d.updateSession x mark) = put closed k := by
    refine hview.see_of_gist hd rfl rfl ?_
    rw [d.gist_updateSession x (f := mark) (k := mark) (fun _ => rfl) fun _ => rfl,
      hview.gist_eq hd]
  rw [hmarked]
  split
  · refine Solo.bind (solo_read fun e he => ?_)
    have hgist {e : Client E} (he : view.see e = put closed k) : e.gist = closed := by
      rw [hview.gist_eq he, hview.part_put]
    have haccess : e.access? x = (g.server y.server).access := by
      have hserver : (e.session x).unlocked.server = y.server := by
        rw [← e.session_gist, hgist he]
        exact Gist.session_modify_of_eq x (f := mark) Session.server fun _ => rfl
      have hplain : (e.server (e.session x).unlocked.server).plain = g.server (e.session x).server := by
        rw [← e.server_gist, hgist he]
        rfl
      rw [← hserver]
      exact (congrArg Server.access hplain :)
    rw [haccess]
    cases (g.server y.server).access with
    | none => exact solo_done rfl
    | some a =>
        have hadmitted {f : Client E} (hf : view.see f = put closed k) :
            (a.gate (K := K)).admits .didClose (Params.about y.uri []) f = true ↔
              a.Reaches g ∧ a.capabilities.openClose = true := by
          rw [Access.admits_iff, hgist hf]
          rfl
        refine Access.solo_tell hview.overlooks rfl (fun f d hf hadmits hd => ?_)
          fun f hf hadmits => ?_
        · rw [Option.elim_some, if_pos ((hadmitted hf).1 hadmits), ← hview.put_put _ closed]
          refine hview.see_of_gist hd rfl rfl ?_
          rw [← hgist hd]
          rfl
        · rw [Option.elim_some, if_neg fun h => ?_]
          rw [(hadmitted hf).2 h] at hadmits
          cases hadmits
  · exact solo_done rfl

theorem Server.solo_closeSession (hview : view.Shows part put) (x : SessionId) :
    (closeSession x : Prog E K Unit).Solo view t k (fun _ k' => k' = put ((part k).dismiss x) k)
      fun _ => True := by
  let g : Gist := part k
  let struck : Gist := { g with ledger := { g.ledger with
    index := g.ledger.index.remove (g.session x).uri x } }
  refine Solo.bind (solo_modify fun c hc => ?_)
  have hstruck : view.see (c.updateIndex (·.remove (c.session x).uri x)) = put struck k := by
    have hsession : g.session x = (c.session x).unlocked := by
      rw [← c.session_gist, hview.gist_eq hc]
    have huri : (g.session x).uri = (c.session x).uri := (congrArg Session.uri hsession :)
    refine hview.see_of_gist hc rfl rfl ?_
    have hgist : c.gist = g := hview.gist_eq hc
    rw [← huri]
    simp only [struck, ← hgist]
    rfl
  rw [hstruck]
  refine (Session.solo_tellClosed hview x).mono ?_ fun _ h => h
  rintro _ _ rfl
  rw [hview.part_put, hview.put_put]
  rfl

theorem Server.solo_closeSessions (hview : view.Shows part put) (xs : List SessionId) :
    (Program.each closeSession xs : Prog E K Unit).Solo view t k
      (fun _ k' => k' = put (xs.foldl (fun g x => g.dismiss x) (part k)) k) fun _ => True := by
  -- What is left to close leads to the same end.
  let P (left : List SessionId) (k' : G) : Prop :=
    put (left.foldl (fun g x => g.dismiss x) (part k')) k' =
      put (xs.foldl (fun g x => g.dismiss x) (part k)) k
  refine (solo_each (P := P) (fun x left k' h => ?_) xs rfl).mono (fun _ k' h => ?_)
    fun _ h => h
  · refine (solo_closeSession hview x).mono ?_ fun _ h => h
    rintro _ _ rfl
    change put _ _ = _
    rw [hview.part_put, hview.put_put]
    exact h
  · rw [← hview.put_part k']
    exact h

/-! ## Shutting down -/

/-- All that can pass when a server is asked to shut down, if it is. -/
inductive Link.Parting : List Link.Event → Prop where
  | unasked : Parting []
  | unanswered : Parting [.asked "shutdown" .null]
  | refused (e : ClientError) :
    Parting [.asked "shutdown" .null, .answered "shutdown" (.error e)]
  | granted (answer : Json) : Parting
    [.asked "shutdown" .null, .answered "shutdown" (.ok answer), .told "exit" .null]

theorem Server.solo_shutDown (hview : view.Shows part put) (l : LinkId) :
    (shutDown l : Prog E K Unit).Solo view t k
      (fun _ k' => ∃ events, Link.Parting events ∧ k' = put ((part k).sayAll l events) k)
      fun _ => True := by
  have hsay {c : Client E} {events : List Link.Event} (e : Link.Event)
      (hc : view.see c = put ((part k).sayAll l events) k) :
      view.see (HasWiring.modify (·.note l e) c) = put ((part k).sayAll l (events ++ [e])) k := by
    have hgist : c.gist = (part k).sayAll l events := by rw [hview.gist_eq hc, hview.part_put]
    rw [← hview.put_put _ ((part k).sayAll l events)]
    refine hview.see_of_gist hc rfl rfl ?_
    rw [Gist.sayAll_append, ← hgist]
    rfl
  have hnothing {c : Client E} (hc : view.see c = k) :
      view.see c = put ((part k).sayAll l []) k := by
    rw [Gist.sayAll_nil, hview.put_part]
    exact hc
  refine Solo.bind (View.Overlooks.limit _ (fun c _ => hview.see_eq_of_gist rfl rfl rfl)
    (hview.overlooks.solo_ask l _ _ fun c hc => ⟨?_, fun outcome d hd => ?_⟩))
  · exact solo_done ⟨_, .unanswered, hsay _ (hnothing hc)⟩
  · have hd := hsay (.answered "shutdown" outcome) (hd.trans (hsay _ (hnothing hc)))
    cases outcome with
    | error e => exact solo_done ⟨_, .refused e, hd⟩
    | ok answer =>
        refine Solo.bind (hview.overlooks.solo_tell l _ _ fun f hf => ⟨trivial, fun _ => ?_⟩)
        exact solo_done ⟨_, .granted answer, hsay _ (hf.trans hd)⟩

/-- A server is asked to shut down at most before its link is closed. -/
theorem Server.solo_disconnectLink (hview : view.Shows part put) {C : G → G → Prop} {l : LinkId}
    {access : Option Access}
    (hclose : ∀ k, (Link.close l : Prog E K Unit).Solo view t k (fun _ => C k) fun _ => True) :
    (disconnectLink access l : Prog E K Unit).Solo view t k
      (fun _ k' => ∃ events, Link.Parting events ∧ C (put ((part k).sayAll l events) k) k')
      fun _ => True := by
  have hsilent : (Link.close l : Prog E K Unit).Solo view t k
      (fun _ k' => ∃ events, Link.Parting events ∧ C (put ((part k).sayAll l events) k) k')
      fun _ => True := by
    refine (hclose k).mono (fun _ k' h => ⟨[], .unasked, ?_⟩) fun _ h => h
    rwa [Gist.sayAll_nil, hview.put_part]
  cases access with
  | none => exact hsilent
  | some a =>
      refine Solo.bind (solo_read fun c hc => ?_)
      cases ((HasWiring.wiring c).link l).connected with
      | false => exact hsilent
      | true =>
          refine Solo.bind ((solo_shutDown hview l).mono ?_ fun _ h => h)
          rintro _ _ ⟨events, hevents, rfl⟩
          exact (hclose _).mono (fun _ k' h => ⟨events, hevents, h⟩) fun _ h => h

end

/-- Only links below `N` are spoken on, and sessions change. -/
structure Gist.Below (N : LinkId) (g g' : Gist) : Prop where
  servers : g'.ledger.servers = g.ledger.servers
  links : g'.links = g.links
  said : ∀ l, N ≤ l → g'.said l = g.said l
  length : g'.sessions.length = g.sessions.length
  text : g'.text = g.text
  crashThreshold : g'.crashThreshold = g.crashThreshold

/-- All links through which servers can be reached are below `N`. -/
def Gist.Reached (N : LinkId) (g : Gist) : Prop :=
  ∀ s a, (g.server s).access = some a → a.link < N

namespace Gist.Below

variable {N : LinkId} {g' g'' : Gist}

theorem refl (N : LinkId) (g : Gist) : g.Below N g := ⟨rfl, rfl, fun _ _ => rfl, rfl, rfl, rfl⟩

theorem trans (h : g.Below N g') (k : g'.Below N g'') : g.Below N g'' where
  servers := k.servers.trans h.servers
  links := k.links.trans h.links
  said l hl := (k.said l hl).trans (h.said l hl)
  length := k.length.trans h.length
  text := k.text.trans h.text
  crashThreshold := k.crashThreshold.trans h.crashThreshold

theorem server_eq (h : g.Below N g') (s : ServerId) : g'.server s = g.server s := by
  rw [Gist.server, Gist.server, Ledger.server, Ledger.server, h.servers]

theorem reached (h : g.Below N g') (hN : g.Reached N) : g'.Reached N := by
  intro s a ha
  rw [h.server_eq] at ha
  exact hN s a ha

theorem put (h : g.Below N g') (s : ServerId) (x : Server) : (g.put s x).Below N (g'.put s x) where
  servers := congrArg (fun servers : List Server => servers.set s x) h.servers
  links := h.links
  said := h.said
  length := h.length
  text := h.text
  crashThreshold := h.crashThreshold

/-- One server is changed again. -/
theorem put_put {s : ServerId} {x : Server} (h : (g.put s x).Below N g') (y : Server) :
    (g.put s y).Below N (g'.put s y) := by
  rw [← g.put_put x y]
  exact h.put s y

theorem server_put {s : ServerId} {x : Server} (h : (g.put s x).Below N g')
    (hs : s < g.ledger.servers.length) : g'.server s = x :=
  (h.server_eq s).trans (Gist.server_put_same hs)

theorem say {l : LinkId} (hl : l < N) (e : Link.Event) : g.Below N (g.say l e) where
  servers := rfl
  links := rfl
  said _ hr := g.said_say_ne e (Nat.ne_of_lt (Nat.lt_of_lt_of_le hl hr))
  length := rfl
  text := rfl
  crashThreshold := rfl

end Gist.Below

theorem Gist.Reached.put {N : LinkId} (h : g.Reached N) {s : ServerId} {x : Server}
    (hx : ∀ a, x.access = some a → a.link < N) : (g.put s x).Reached N := by
  intro r a ha
  by_cases hr : s = r
  · subst hr
    by_cases hs : s < g.ledger.servers.length
    · rw [Gist.server_put_same hs] at ha
      exact hx a ha
    · have hsame : (g.put s x).server s = g.server s := by
        simp [Gist.server, Gist.put, Ledger.server, Ledger.put, hs]
      rw [hsame] at ha
      exact h s a ha
  · rw [Gist.server_put_ne x hr] at ha
    exact h r a ha

namespace Gist

variable {N : LinkId}

theorem below_close (hN : g.Reached N) (x : SessionId) : g.Below N (g.close x) := by
  let closed : Gist := { g with sessions := g.sessions.modify x fun y => { y with closed := true } }
  have hclosed : g.Below N closed :=
    ⟨rfl, rfl, fun _ _ => rfl, List.length_modify .., rfl, rfl⟩
  unfold close
  dsimp only
  split
  · exact .refl N g
  split
  · cases ha : (g.server (g.session x).server).access with
    | none => exact hclosed
    | some a =>
        rw [Option.elim_some]
        split
        · exact hclosed.trans (.say (hN _ a ha) _)
        · exact hclosed
  · exact hclosed

theorem below_dismiss (hN : g.Reached N) (x : SessionId) : g.Below N (g.dismiss x) := by
  let struck : Gist := { g with ledger := { g.ledger with
    index := g.ledger.index.remove (g.session x).uri x } }
  have hstruck : g.Below N struck := ⟨rfl, rfl, fun _ _ => rfl, rfl, rfl, rfl⟩
  exact hstruck.trans (below_close (hstruck.reached hN) x)

theorem below_dismissAll (hN : g.Reached N) (xs : List SessionId) :
    g.Below N (xs.foldl (fun g x => g.dismiss x) g) := by
  induction xs generalizing g with
  | nil => exact .refl N g
  | cons x xs ih =>
      have hx := below_dismiss hN x
      exact hx.trans (ih (hx.reached hN))

theorem below_sayAll {l : LinkId} (hl : l < N) (events : List Link.Event) :
    g.Below N (g.sayAll l events) where
  servers := rfl
  links := rfl
  said _ hr := g.said_sayAll_ne events (Nat.ne_of_lt (Nat.lt_of_lt_of_le hl hr))
  length := rfl
  text := rfl
  crashThreshold := rfl

end Gist

namespace Server

variable {N : LinkId}

theorem alone_closeSessions (xs : List SessionId) (hN : g.Reached N) :
    Prog.Alone t (Program.each closeSession xs : Prog E K Unit) g fun _ g' => g.Below N g' := by
  refine (solo_closeSessions Client.shows_gist xs).mono ?_ fun _ h => h
  rintro _ _ rfl
  exact Gist.below_dismissAll hN xs

theorem alone_disconnectLink {access : Option Access} {l : LinkId} (hl : l < N) :
    Prog.Alone t (disconnectLink access l : Prog E K Unit) g fun _ g' => g.Below N g' := by
  refine (solo_disconnectLink Client.shows_gist (C := fun g g' => g' = g)
    fun g => (Link.still_close l).solo (fun _ => rfl) trivial).mono ?_ fun _ h => h
  rintro _ _ ⟨events, -, rfl⟩
  exact Gist.below_sayAll hl events

/-- A server once it has been stopped. -/
def halted (x : Server) : Server := x.takeSessions.1.beginStop.1.endStop

end Server

/-- The providers leave the gist of the client alone. -/
structure Providers.Still (net : Providers (Client E) (Job K)) : Prop where
  acquire {t : TaskId} (definition : ServerDefinition) (root : Path) :
    Prog.Still t (net.acquire definition root)
  start {t : TaskId} (provider : ProviderId) : Prog.Still t (net.start provider)
  stop {t : TaskId} (provider : ProviderId) : Prog.Still t (net.stop provider)
  release {t : TaskId} (definition : ServerDefinition) (root : Path) :
    Prog.Still t (net.release definition root)

namespace Server

variable {N : LinkId} {s : ServerId} {net : Providers (Client E) (Job K)}

theorem alone_stopHeld (hnet : net.Still) (hs : s < g.ledger.servers.length) (hN : g.Reached N)
    (hlink : ∀ k, (g.server s).connection = some k → k.link < N) :
    Prog.Alone t (stopHeld net s) g fun _ g' => (g.put s (g.server s).halted).Below N g' := by
  let x := (g.server s).takeSessions.1
  let y := x.beginStop.1
  have hend {g' : Gist} (h : (g.put s y).Below N g') :
      Prog.Alone t (Program.modify (Client.updateServer s endStop) : Prog E K Unit) g'
        fun _ g'' => (g.put s (g.server s).halted).Below N g'' := by
    refine solo_modify fun c hc => ?_
    obtain rfl : c.gist = g' := hc
    have hgist : Client.gistView.see (c.updateServer s endStop) = c.gist.put s y.endStop := by
      have hserver : (c.server s).plain = y := by rw [← c.server_gist, h.server_put hs]
      refine (c.gist_visitServer s fun z => (z.endStop, ())).trans ?_
      rw [plain_endStop, hserver]
    rw [hgist]
    exact h.put_put _
  refine Solo.bind (solo_act fun c hc => ?_)
  obtain rfl : c.gist = g := hc
  have htaken : Client.gistView.see (c.visitServer s takeSessions).1 = c.gist.put s x :=
    c.gist_visitServer_of_commutes s commutes_takeSessions
  rw [htaken]
  have hreached : (c.gist.put s x).Reached N := hN.put (hN s)
  refine Solo.bind ((alone_closeSessions _ hreached).mono fun _ g₁ h₁ => ?_)
  refine Solo.bind (solo_act fun d hd => ?_)
  obtain rfl : d.gist = g₁ := hd
  have hx : d.gist.server s = x := h₁.server_put hs
  have hbegun : Client.gistView.see (d.visitServer s beginStop).1 = d.gist.put s y := by
    refine (d.gist_visitServer_of_commutes s commutes_beginStop).trans ?_
    rw [hx]
  have h₂ : (c.gist.put s y).Below N (d.gist.put s y) := h₁.put_put y
  rw [hbegun]
  have hconnection : (d.server s).connection = (c.server s).connection := by
    have hplain : (d.server s).plain.connection = (c.server s).plain.takeSessions.1.connection := by
      rw [← d.server_gist, ← c.server_gist, hx]
    exact hplain
  have htook : (d.visitServer s beginStop).2 = ((c.server s).connection, (d.server s).access) := by
    rw [← hconnection]
    rfl
  rw [htook]
  cases hk : (c.server s).connection with
  | none => exact hend h₂
  | some k =>
      have hl : k.link < N := hlink k (by rw [c.server_gist]; exact hk)
      refine Solo.bind (solo_stop ?_)
      refine Solo.bind ((alone_disconnectLink hl).mono fun _ g₃ h₃ => ?_)
      have h₃ := h₂.trans h₃
      refine Solo.bind ((hnet.stop k.provider).solo (fun _ => ?_) trivial)
      refine Solo.bind (solo_read fun _ _ => ?_)
      refine Solo.bind ((hnet.release _ _).solo (fun _ => ?_) trivial)
      refine Solo.bind ((hend h₃).mono fun _ g₄ h₄ => ?_)
      cases k.errorLog with
      | none => exact solo_done h₄
      | some task => exact solo_stop h₄

/-! ## Starting -/

/-- Whatever is shown of a failure, it is the status that changes. -/
theorem gist_failed (text : String) (c : Client E) :
    ((showFailure s text c).updateServer s (·.move .failed)).gist =
      c.gist.put s ((c.gist.server s).move .failed) := by
  have hshown : (showFailure s text c).gist = c.gist := by
    unfold showFailure
    split
    · rfl
    · exact c.gist_updateServer_of_plain s rfl
  rw [Client.gist_updateServer_of_commutes _ s (commutes_move .failed), hshown]

@[simp] theorem definition_halted (x : Server) : x.halted.definition = x.definition := by
  obtain ⟨_, _, _, _, h⟩ := x.takeSessions.1.beginStop.1.exists_endStop
  rw [halted, h]
  rfl

@[simp] theorem root_halted (x : Server) : x.halted.root = x.root := by
  obtain ⟨_, _, _, _, h⟩ := x.takeSessions.1.beginStop.1.exists_endStop
  rw [halted, h]
  rfl

theorem definition_beginStart (x : Server) : x.beginStart.1.definition = x.definition := by
  obtain ⟨_, _, _, _, h⟩ := x.exists_beginStart
  rw [h]

theorem root_beginStart (x : Server) : x.beginStart.1.root = x.root := by
  obtain ⟨_, _, _, _, h⟩ := x.exists_beginStart
  rw [h]

end Server

/-- The providers launch servers for this project, which can be told where it is. -/
structure Providers.Launches (net : Providers (Client E) (Job K)) (definition : ServerDefinition)
    (root : Path) : Prop where
  acquire {t : TaskId} {g : Gist} : Prog.Alone t (net.acquire definition root) g fun r g' =>
    g' = g ∧ ∃ provider, r = .ok provider
  start {t : TaskId} {g : Gist} (provider : ProviderId) :
    Prog.Alone t (net.start provider) g fun r g' => g' = g ∧ ∃ streams, r = .ok streams
  uri (directory : Path) : ∃ uri, Uri.ofPath directory root = .ok uri

/-- The task that was started with a connection, to initialize the server over it. -/
def Runtime.Greets (owner : LinkOwner) (k : Connection) (rt : Runtime (Client E) (Job K)) : Prop :=
  ∃ params, ⟨k.handshake, Server.handshake owner k.link params, [], false⟩ ∈ rt.tasks

/-- A server has been given a connection over a new link, and is being initialized. -/
structure Launched (s : ServerId) (γ : Nat) (g : Gist) (k : Connection)
    (rt : Runtime (Client E) (Job K)) : Prop where
  link : k.link = g.links
  gist : rt.world.gist = (g.put s { g.server s with connection := some k }).addLink
  greets : rt.Greets ⟨s, γ⟩ k

namespace Server

variable {s : ServerId} {net : Providers (Client E) (Job K)} {outside : K → Prog E K Unit}
  {rt : Runtime (Client E) (Job K)} (hperform : rt.perform = Job.perform net outside)

include hperform

theorem brings_launchOver (γ : Nat) {x : Server}
    (hx : ∀ directory, ∃ uri, Uri.ofPath directory x.root = .ok uri) (provider : ProviderId)
    (output input : PipeId) (errorLog : Option TaskId) :
    (launchOver ⟨s, γ⟩ x provider output input errorLog : Prog E K _).Brings Client.gistView.Same t rt
      fun r rt' => r = .ok () ∧ ∃ k, Launched s γ rt.world.gist k rt' := by
  have hload : Prog.Still t (Program.modify (loadSettings s) : Prog E K Unit) :=
    still_modify fun c => c.gist_updateServer_of_plain s rfl
  refine Brings.bind ((hload _).brings.mono ?_)
  rintro _ rt₁ ⟨hgist₁, hperform₁⟩
  refine Brings.bind ((Link.alone_start (Q := fun l g' =>
    l = rt.world.gist.links ∧ g' = rt.world.gist.addLink) _ _ _ ?_).brings.mono ?_)
  · rw [hgist₁]
    exact ⟨rfl, rfl⟩
  rintro l rt₂ ⟨⟨rfl, hgist₂⟩, hperform₂⟩
  obtain ⟨params, hparams⟩ :
      ∃ params, x.initializeParams rt₂.world.process rt₂.world.directory = .ok params := by
    obtain ⟨uri, huri⟩ := hx rt₂.world.directory
    exact ⟨_, by simp only [initializeParams, huri]; rfl⟩
  refine Brings.bind (brings_read ?_)
  rw [hparams]
  -- The new task is the handshake.
  refine Brings.bind (brings_start (Brings.bind (brings_modify (brings_done ⟨rfl, ?_⟩))))
  let k : Connection := ⟨provider, rt.world.gist.links, errorLog, rt₂.nextId,
    HasAgenda.now (HasAgenda.wake rt₂.nextId rt₂.world)⟩
  refine ⟨k, rfl, ?_, params, ?_⟩
  · have hgist := (HasAgenda.wake rt₂.nextId rt₂.world).gist_updateServer_of_commutes s
      (f := fun server => { server with connection := some k }) fun _ => rfl
    have hgist₂ : (HasAgenda.wake rt₂.nextId rt₂.world).gist = rt.world.gist.addLink := hgist₂
    rw [hgist₂] at hgist
    exact hgist
  · refine List.mem_append_right _ (List.mem_singleton.2 ?_)
    rw [hperform₂, hperform₁, hperform]
    rfl

theorem brings_launch (γ : Nat)
    (hnet : net.Launches (rt.world.gist.server s).definition (rt.world.gist.server s).root) :
    (launch net ⟨s, γ⟩).Brings Client.gistView.Same t rt
      fun r rt' => r = .ok () ∧ ∃ k, Launched s γ rt.world.gist k rt' := by
  rw [rt.world.server_gist] at hnet
  refine Brings.bind (brings_read (Brings.bind (hnet.acquire.brings.mono ?_)))
  rintro _ rt₁ ⟨⟨hgist₁, provider, rfl⟩, hperform₁⟩
  refine Brings.bind ((hnet.start provider).brings.mono ?_)
  rintro _ rt₂ ⟨⟨hgist₂, ⟨output, input, errors⟩, rfl⟩, hperform₂⟩
  have hover {rt₃ : Runtime (Client E) (Job K)} (errorLog : Option TaskId)
      (hgist : rt₃.world.gist = rt₂.world.gist) (h : rt₃.perform = rt₂.perform) :
      (launchOver ⟨s, γ⟩ (rt.world.server s) provider output input errorLog : Prog E K _).Brings
        Client.gistView.Same t rt₃ fun r rt' => r = .ok () ∧ ∃ k, Launched s γ rt.world.gist k rt' := by
    have hgist : rt₃.world.gist = rt.world.gist := hgist.trans (hgist₂.trans hgist₁)
    have hperform : rt₃.perform = Job.perform net outside := by
      rw [h, hperform₂, hperform₁, hperform]
    rw [← hgist]
    exact brings_launchOver hperform γ hnet.uri provider output input errorLog
  cases errors with
  | none => exact hover none rfl rfl
  | some pipe => exact Brings.bind (Brings.bind (brings_start (brings_done (hover _ rfl rfl))))

/-- A start of a server that does not run. -/
theorem brings_startHeld (hs : s < rt.world.gist.ledger.servers.length)
    (hidle : (rt.world.gist.server s).status = .stopped ∨ (rt.world.gist.server s).status = .failed)
    (hnet : net.Launches (rt.world.gist.server s).definition (rt.world.gist.server s).root) :
    (startHeld net s).Brings Client.gistView.Same t rt fun _ rt' => ∃ k,
      Launched s ((rt.world.gist.server s).generation + 1)
        (rt.world.gist.put s (rt.world.gist.server s).beginStart.1) k rt' := by
  have hbegun : (rt.world.visitServer s beginStart).1.gist =
      rt.world.gist.put s (rt.world.gist.server s).beginStart.1 :=
    rt.world.gist_visitServer_of_commutes s commutes_beginStart
  have hserver : (rt.world.visitServer s beginStart).1.gist.server s =
      (rt.world.gist.server s).beginStart.1 := by
    rw [hbegun, Gist.server_put_same hs]
  rw [← (rt.world.gist.server s).definition_beginStart,
    ← (rt.world.gist.server s).root_beginStart, ← hserver] at hnet
  have hidle' : (rt.world.server s).status = .stopped ∨ (rt.world.server s).status = .failed := by
    rwa [rt.world.server_gist] at hidle
  have hsome : (rt.world.visitServer s beginStart).2 =
      some ((rt.world.gist.server s).generation + 1) := by
    rw [rt.world.server_gist, generation_plain, ← generation_move _ .starting]
    exact congrArg Prod.snd (beginStart_of_idle hidle')
  let rt₁ : Runtime (Client E) (Job K) := { rt with world := (rt.world.visitServer s beginStart).1 }
  have hperform₁ : rt₁.perform = Job.perform net outside := hperform
  refine Brings.bind (brings_act ?_)
  rw [hsome]
  refine Brings.bind ((brings_launch hperform₁ _ hnet).mono ?_)
  rintro _ rt₂ ⟨rfl, k, hk⟩
  have hgist₁ : rt₁.world.gist = rt.world.gist.put s (rt.world.gist.server s).beginStart.1 := hbegun
  rw [hgist₁] at hk
  exact brings_done ⟨k, hk⟩

end Server

end LanguageClient
