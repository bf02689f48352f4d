import LanguageClient.Proofs.Server.Sane
import Mathlib.Data.List.Basic
namespace LanguageClient

/-!
# Why affairs stay sane
-/

variable {K : Type} {A B : Affairs K}

/-- What a task initializes it does for ever. -/
theorem Act.greeting (hAB : Act A B) {t : TaskId} {g : LinkOwner × LinkId}
    (h : (A.roles t).origin.greeting? = some g) : (B.roles t).origin.greeting? = some g := by
  cases hAB <;> grind

theorem Act.origin (hAB : Act A B) {t : TaskId} (h : (A.roles t).origin ≠ .unborn) :
    (B.roles t).origin = (A.roles t).origin := by
  cases hAB <;> grind

namespace Affairs

theorem Locked.act (h : A.Locked) (hAB : Act A B) : B.Locked := by
  have taken := @h.taken
  have alone := @h.alone
  have drives := @h.drives
  have greeting := @h.greeting
  cases hAB <;> exact ⟨by grind, by grind, by grind, by grind⟩

theorem Lined.act (h : A.Lined) (ho : A.Owned) (hb : A.Bound) (hAB : Act A B) : B.Lined := by
  have orderly := h.orderly
  have unspoken := @h.unspoken
  have reading := @h.reading
  have hand := @h.hand
  have hand_lt := @h.hand_lt
  have stage := @ho.stage
  have lt := @ho.lt
  have unread := @hb.unread
  cases hAB <;> exact ⟨by grind, by grind, by grind, by grind, by grind⟩

section Owned

variable (h : A.Owned) (hAB : Act A B)

include h hAB

theorem Owned.stage_act (hn : A.Lined) {t : TaskId} {l : LinkId} {stage : Link.Stage}
    (ht : (B.roles t).link = some (l, stage)) : B.stage? l = some stage := by
  have stage := @h.stage
  have apart := @h.apart
  have ready := @h.ready
  have unspoken := @hn.unspoken
  cases hAB <;> grind

theorem Owned.lt_act {t : TaskId} {l : LinkId} {stage : Link.Stage}
    (ht : (B.roles t).link = some (l, stage)) : l < B.ledger.readers.length := by
  have lt := @h.lt
  have access_lt := @h.access_lt
  cases hAB <;> grind

theorem Owned.apart_act {t u : TaskId} {l : LinkId} {stage stage' : Link.Stage}
    (ht : (B.roles t).link = some (l, stage)) (hu : (B.roles u).link = some (l, stage')) :
    t = u := by
  have lt := @h.lt
  have apart := @h.apart
  have unshared := @h.unshared
  cases hAB <;> grind

theorem Owned.unshared_act (hl : A.Locked) {t : TaskId} {s : ServerId} {a : Access} {l : LinkId}
    {stage : Link.Stage} (ha : (B.server s).access = some a)
    (ht : (B.roles t).link = some (l, stage)) : l ≠ a.link := by
  have apart := @h.apart
  have unshared := @h.unshared
  have access_lt := @h.access_lt
  have own := @h.own
  have drives := @hl.drives
  cases hAB <;> grind

theorem Owned.busy_act {t : TaskId} (ht : (B.roles t).link ≠ none) :
    (B.roles t).origin.greeting? ≠ none ∨ (B.roles t).phase? = some .launching ∨
      (B.roles t).phase? = some .stopping := by
  have busy := @h.busy
  cases hAB <;> grind [Role.phase?]

theorem Owned.ready_act (hl : A.Locked) {s : ServerId} {a : Access}
    (ha : (B.server s).access = some a) : B.stage? a.link = some .ready := by
  have stage := @h.stage
  have unshared := @h.unshared
  have ready := @h.ready
  have drives := @hl.drives
  cases hAB <;> grind

theorem Owned.access_lt_act {s : ServerId} {a : Access} (ha : (B.server s).access = some a) :
    a.link < B.ledger.readers.length := by
  have lt := @h.lt
  have access_lt := @h.access_lt
  cases hAB <;> grind

theorem Owned.own_act {s r : ServerId} {a b : Access} (ha : (B.server s).access = some a)
    (hb : (B.server r).access = some b) (hab : a.link = b.link) : s = r := by
  have unshared := @h.unshared
  have own := @h.own
  cases hAB <;> grind

end Owned

/-- A server that is held is closed unless it is started or fails. -/
theorem Bound.access_eq_none (h : A.Bound) (hl : A.Locked) {t : TaskId} {s : ServerId}
    {phase : Phase} (ht : (A.roles t).hold = some (s, phase)) (hphase : phase ≠ .failing)
    (hs : (A.server s).status ≠ .started) : (A.server s).access = none := by
  cases ha : (A.server s).access with
  | none => rfl
  | some a =>
    obtain ⟨u, hu⟩ := (h.started ha).resolve_left hs
    obtain rfl := hl.alone ht hu
    rw [ht] at hu
    exact absurd (congrArg Prod.snd (Option.some.inj hu)) hphase

section Bound

variable (h : A.Bound) (hAB : Act A B)

include h hAB

theorem Bound.traced_act (s : ServerId) : (B.server s).Traced := by
  have traced := h.traced
  cases hAB with
  | called | hired | opens | asks | strikes | closes | heeds | exits => exact traced s
  | takes | returns | launches | counts | forgives | clears | stops =>
    refine traced_put traced ?_ s
    exact (traced _).of_eq rfl rfl rfl
  | begins _ _ hidle => exact traced_put traced ((traced _).beginStart hidle) s
  | misses hold =>
    exact traced_put traced ((traced _).move (Server.canMove_failed (h.launching hold).2)) s
  | greets ht hold hlink hγ hs => exact traced_put traced ((traced _).becomeStarted hs _) s
  | breaks ht hold hlink hγ =>
    exact traced_put traced
      ((traced _).move (Server.canMove_failed ((h.begun ht).ne_stopped hγ.symm))) s
  | fails ht hold =>
    exact traced_put traced ((traced _).move (Server.canMove_failed (h.counting hold))) s
  | ends hold => exact traced_put traced (traced _).endStop s

theorem Bound.access_eq_act (hl : A.Locked) {s : ServerId} {a : Access}
    (ha : (B.server s).access = some a) : a.server = s ∧ a.generation = (B.server s).generation ∧
      (B.server s).connection.map Connection.link = some a.link := by
  have access_eq := @h.access_eq
  have started := @h.started
  have launching := @h.launching
  have alone := @hl.alone
  have drives := @hl.drives
  cases hAB with
  | greets ht _ hlink hγ _ =>
    obtain ⟨k, hk, hkl⟩ := Option.map_eq_some_iff.1 ((h.token ht hlink).2 hγ.symm).2
    grind
  | _ => grind

theorem Bound.started_act (hl : A.Locked) {s : ServerId} {a : Access}
    (ha : (B.server s).access = some a) :
    (B.server s).status = .started ∨ ∃ t, (B.roles t).hold = some (s, .failing) := by
  have started := @h.started
  have launching := @h.launching
  have stopping := @h.stopping
  have token := @h.token
  have alone := @hl.alone
  have drives := @hl.drives
  by_contra hn
  obtain ⟨hne, hno⟩ := not_or.1 hn
  have hno t := not_exists.1 hno t
  cases hAB <;> simp only [roles_put, roles_cast, roles_say, roles_strike, roles_addLink] at hno <;> grind

theorem Bound.greeted_act (hl : A.Locked) {s : ServerId} {a : Access}
    (ha : (B.server s).access = some a) :
    ∃ t, (B.roles t).origin.greeting? = some (⟨s, a.generation⟩, a.link) := by
  have greeted := @h.greeted
  have drives := @hl.drives
  by_contra hn
  have hno t (ht : (A.roles t).origin.greeting? = some (⟨s, a.generation⟩, a.link)) : False :=
    hn ⟨t, hAB.greeting ht⟩
  cases hAB <;> grind

theorem Bound.greeter_act (hl : A.Locked) {s : ServerId} {k : Connection}
    (hk : (B.server s).connection = some k) :
    (B.roles k.handshake).origin.greeting?.map (fun g => (g.1.server, g.2)) = some (s, k.link) := by
  have greeter := @h.greeter
  have drives := @hl.drives
  cases hAB <;> grind

theorem Bound.logger_act (hl : A.Locked) {s : ServerId} {k : Connection} {t : TaskId}
    (hk : (B.server s).connection = some k) (ht : k.errorLog = some t) :
    (B.roles t).origin.logs = true := by
  have logger := @h.logger
  have drives := @hl.drives
  cases hAB <;> grind

theorem Bound.token_act (hl : A.Locked) {t : TaskId} {o : LinkOwner} {l m : LinkId} {stage : Link.Stage}
    (ht : (B.roles t).origin.greeting? = some (o, l)) (hm : (B.roles t).link = some (m, stage)) :
    m = l ∧ (o.generation = (B.server o.server).generation →
      (B.server o.server).access = none ∧
      (B.server o.server).connection.map (fun k => (k.link, k.handshake)) = some (l, t)) := by
  have token := @h.token
  have unbegun := @h.unbegun
  have launching := @h.launching
  have le {t : TaskId} {o : LinkOwner} {l : LinkId}
      (ht : (A.roles t).origin.greeting? = some (o, l)) := (h.begun ht).le
  have alone := @hl.alone
  have drives := @hl.drives
  have greeting := @hl.greeting
  cases hAB <;> grind

theorem Bound.launching_act (hl : A.Locked) {t : TaskId} {s : ServerId}
    (ht : (B.roles t).hold = some (s, .launching)) :
    (B.server s).access = none ∧ (B.server s).status ≠ .stopped := by
  have launching := @h.launching
  have closed := @Bound.access_eq_none K A h hl
  have unbegun := @h.unbegun
  have alone := @hl.alone
  have drives := @hl.drives
  cases hAB <;> grind

theorem Bound.counting_act (hl : A.Locked) {t : TaskId} {s : ServerId}
    (ht : (B.roles t).hold = some (s, .counting)) : (B.server s).status ≠ .stopped := by
  have counting := @h.counting
  have ne_stopped {t : TaskId} {o : LinkOwner} {l : LinkId}
      (ht : (A.roles t).origin.greeting? = some (o, l)) := (h.begun ht).ne_stopped
  have alone := @hl.alone
  have drives := @hl.drives
  cases hAB <;> grind

theorem Bound.failing_act (hl : A.Locked) {t : TaskId} {s : ServerId}
    (ht : (B.roles t).hold = some (s, .failing)) : (B.server s).status ≠ .stopped := by
  have failing := @h.failing
  have counting := @h.counting
  have ne_stopped {t : TaskId} {o : LinkOwner} {l : LinkId}
      (ht : (A.roles t).origin.greeting? = some (o, l)) := (h.begun ht).ne_stopped
  have alone := @hl.alone
  have drives := @hl.drives
  cases hAB <;> grind

theorem Bound.launched_act (hl : A.Locked) {t : TaskId} {s : ServerId}
    (ht : (B.roles t).hold = some (s, .launching)) :
    (B.roles t).generation = (B.server s).generation := by
  have launched := @h.launched
  have alone := @hl.alone
  have drives := @hl.drives
  cases hAB <;> grind

theorem Bound.unbegun_act (hl : A.Locked) {t u : TaskId} {s : ServerId} {o : LinkOwner} {l : LinkId}
    (ht : (B.roles t).hold = some (s, .launching)) (hu : (B.roles u).origin.greeting? = some (o, l))
    (ho : o.server = s) : o.generation < (B.server s).generation := by
  have unbegun := @h.unbegun
  have le {t : TaskId} {o : LinkOwner} {l : LinkId}
      (ht : (A.roles t).origin.greeting? = some (o, l)) := (h.begun ht).le
  have alone := @hl.alone
  have drives := @hl.drives
  cases hAB <;> grind

theorem Bound.unsent_act (hl : A.Locked) (hw : A.Owned) {t : TaskId} {s : ServerId} {l : LinkId}
    {stage : Link.Stage}
    (ht : (B.roles t).hold = some (s, .launching)) (hlink : (B.roles t).link = some (l, stage)) :
    stage = .fresh := by
  have unsent := @h.unsent
  have busy := @hw.busy
  have alone := @hl.alone
  have greeting := @hl.greeting
  cases hAB <;> grind [Role.phase?]

theorem Bound.unread_act (hl : A.Locked) (hn : A.Lined) (hw : A.Owned) {t u : TaskId}
    {s : ServerId} {o : LinkOwner} {l : LinkId} {stage : Link.Stage}
    (ht : (B.roles t).hold = some (s, .launching)) (hlink : (B.roles t).link = some (l, stage)) :
    (B.roles u).origin.greeting? ≠ some (o, l) := by
  have unread := @h.unread
  have hand_lt := @hn.hand_lt
  have busy := @hw.busy
  have apart := @hw.apart
  have alone := @hl.alone
  have greeting := @hl.greeting
  cases hAB <;> grind [Role.phase?]

theorem Bound.stopping_act (hl : A.Locked) {t : TaskId} {s : ServerId}
    (ht : (B.roles t).hold = some (s, .stopping)) :
    (B.server s).access = none := by
  have stopping := @h.stopping
  have alone := @hl.alone
  have drives := @hl.drives
  cases hAB <;> grind

theorem Bound.begin_act (hl : A.Locked) {o : LinkOwner} (ho : A.Begun o) : B.Begun o := by
  have lt := ho.lt
  have le := ho.le
  have ne_stopped := ho.ne_stopped
  have not_stopping := @ho.not_stopping
  have launching := @h.launching
  have alone := @hl.alone
  have drives := @hl.drives
  cases hAB <;> exact ⟨by grind, by grind, by grind, by grind⟩

theorem Bound.begun_act (hl : A.Locked) {t : TaskId} {o : LinkOwner} {l : LinkId}
    (ht : (B.roles t).origin.greeting? = some (o, l)) : B.Begun o := by
  by_cases hA : (A.roles t).origin.greeting? = some (o, l)
  · exact h.begin_act hAB hl (h.begun hA)
  have launching := @h.launching
  have alone := @hl.alone
  have drives := @hl.drives
  cases hAB <;> exact ⟨by grind, by grind, by grind, by grind⟩

end Bound

theorem Bound.act (h : A.Bound) (hl : A.Locked) (hn : A.Lined) (hw : A.Owned) (hAB : Act A B) :
    B.Bound where
  traced := h.traced_act hAB
  access_eq := h.access_eq_act hAB hl
  started := h.started_act hAB hl
  greeted := h.greeted_act hAB hl
  greeter := h.greeter_act hAB hl
  logger := h.logger_act hAB hl
  token := h.token_act hAB hl
  begun := h.begun_act hAB hl
  launching := h.launching_act hAB hl
  counting := h.counting_act hAB hl
  failing := h.failing_act hAB hl
  launched := h.launched_act hAB hl
  unbegun := h.unbegun_act hAB hl
  unsent := h.unsent_act hAB hl hw
  unread := h.unread_act hAB hl hn hw
  stopping := h.stopping_act hAB hl

theorem lt_of_access {s : ServerId} {a : Access} (h : (A.server s).access = some a) :
    s < A.ledger.servers.length := by
  by_contra hs
  rw [server, Ledger.server, List.getElem?_eq_none (Nat.le_of_not_lt hs)] at h
  cases h

theorem Bound.genuine (h : A.Bound) {s : ServerId} {a : Access}
    (ha : (A.server s).access = some a) : A.Genuine a := by
  obtain ⟨rfl, hg, -⟩ := h.access_eq ha
  exact ⟨lt_of_access ha, Nat.le_of_eq hg, fun _ => ha, h.greeted ha⟩

theorem Bound.begun_of_genuine (h : A.Bound) {a : Access} (ha : A.Genuine a) :
    A.Begun ⟨a.server, a.generation⟩ where
  lt := ha.lt
  le := ha.le
  ne_stopped hg := by
    rcases h.started (ha.eq hg) with hs | ⟨t, ht⟩
    · rw [hs]
      exact nofun
    · exact h.failing ht
  not_stopping hg ht := by
    have hnone := h.stopping ht
    rw [ha.eq hg] at hnone
    exact nomatch hnone

theorem Bound.genuine_act (h : A.Bound) (hAB : Act A B) (hl : A.Locked) {a : Access}
    (ha : A.Genuine a) : B.Genuine a := by
  obtain ⟨t, ht⟩ := ha.greeted
  have lt := ha.lt
  have le := ha.le
  have eq := ha.eq
  have token := @h.token
  have launching := @h.launching
  have drives := @hl.drives
  refine ⟨?_, ?_, ?_, t, hAB.greeting ht⟩
  · cases hAB <;> grind
  · cases hAB <;> grind
  · cases hAB <;> grind

theorem length_act (hAB : Act A B) : B.ledger.servers.length = A.ledger.servers.length := by
  cases hAB <;> grind

theorem Bound.founded_act (h : A.Bound) (hAB : Act A B) (hl : A.Locked) {job : Job K}
    (hj : A.Founded job) : B.Founded job := by
  cases job with
  | readAll | answer | handshake | crash => exact h.begin_act hAB hl hj
  | abandon => exact Nat.lt_of_lt_of_eq hj (length_act hAB).symm
  | search => exact h.genuine_act hAB hl hj
  | errorLog | outside => trivial

theorem uris_act (hAB : Act A B) : B.ledger.uris = A.ledger.uris := by
  cases hAB <;> grind

theorem connected_act (hAB : Act A B) (s : ServerId) :
    (B.server s).connected = (A.server s).connected ∨ (B.server s).connected = [] := by
  cases hAB <;> grind

theorem keyed_act (h : A.Keyed) (hAB : Act A B) : B.Keyed := by
  intro s e he
  rw [uris_act hAB]
  rcases connected_act hAB s with hsame | hnone
  · exact h s e (hsame ▸ he)
  · rw [hnone] at he
    cases he

theorem owing_act (h : A.Owing) (hk : A.Keyed) (hAB : Act A B) : B.Owing := by
  intro t e he
  rw [uris_act hAB]
  by_cases hold : e ∈ (A.roles t).dues
  · exact h t e hold
  · have hkeyed (s : ServerId) := hk s e
    cases hAB <;> grind

theorem Owned.act (h : A.Owned) (hl : A.Locked) (hn : A.Lined) (hAB : Act A B) : B.Owned where
  stage := h.stage_act hAB hn
  lt := h.lt_act hAB
  apart := h.apart_act hAB
  unshared := h.unshared_act hAB hl
  busy := h.busy_act hAB
  ready := h.ready_act hAB hl
  access_lt := h.access_lt_act hAB
  own := h.own_act hAB

theorem Sane.act (h : A.Sane) (hAB : Act A B) : B.Sane where
  toLocked := h.toLocked.act hAB
  toLined := h.toLined.act h.toOwned h.toBound hAB
  toOwned := h.toOwned.act h.toLocked h.toLined hAB
  toBound := h.toBound.act h.toLocked h.toLined h.toOwned hAB
  keyed := keyed_act h.keyed hAB
  owing := owing_act h.owing h.keyed hAB
  founded := by
    intro t job ht
    by_cases hA : (A.roles t).origin = .hired job
    · exact h.founded_act hAB h.toLocked (h.founded hA)
    cases job with
    | handshake o l params =>
      exact h.begun_act hAB h.toLocked (by rw [ht]; rfl)
    | _ =>
      -- Only the task itself can be new.
      refine h.founded_act hAB h.toLocked ?_
      cases hAB <;> grind

/-! ## What is left alone -/

theorem still_keep {L : Ledger} (hs : L.servers = A.ledger.servers)
    (hr : L.readers.length = A.ledger.readers.length) (ht : L.transcript = A.ledger.transcript) :
    A.Still (A.keep L) where
  roles := rfl
  servers s := by
    have h : L.server s = A.server s := by simp only [server, Ledger.server, hs]
    rw [server_keep, h]
    exact .refl _
  length_eq := congrArg List.length hs
  readers_eq := hr
  stage_eq l := by simp only [stage?, Ledger.said, ledger_keep, ht]

theorem still_put {s : ServerId} {x : Server} (h : (A.server s).Shelves x) :
    A.Still (A.put s x) where
  roles := rfl
  servers r := by
    rw [server_put]
    split
    · rename_i hr
      rw [hr.1]
      exact h
    · exact .refl _
  length_eq := A.ledger.length_put s x
  readers_eq := rfl
  stage_eq _ := rfl

theorem still_say {l : LinkId} {e : Link.Event}
    (h : ∀ stage, A.stage? l = some stage → stage.next e = some stage) (hl : (A.stage? l).isSome) :
    A.Still (A.say l e) where
  roles := rfl
  servers _ := .refl _
  length_eq := rfl
  readers_eq := rfl
  stage_eq m := by
    rw [stage?_say]
    split
    · rename_i hm
      obtain ⟨stage, hstage⟩ := Option.isSome_iff_exists.1 hl
      rw [hm, hstage]
      exact h stage hstage
    · rfl

theorem Still.trans {C : Affairs K} (h : A.Still B) (k : B.Still C) : A.Still C where
  roles := k.roles.trans h.roles
  servers s :=
    { status := (k.servers s).status.trans (h.servers s).status
      moves := (k.servers s).moves.trans (h.servers s).moves
      refused := (k.servers s).refused.trans (h.servers s).refused
      generation := (k.servers s).generation.trans (h.servers s).generation
      crashes := (k.servers s).crashes.trans (h.servers s).crashes
      lifecycle := (k.servers s).lifecycle.trans (h.servers s).lifecycle
      connection := (k.servers s).connection.trans (h.servers s).connection
      access := (k.servers s).access.trans (h.servers s).access }
  length_eq := k.length_eq.trans h.length_eq
  readers_eq := k.readers_eq.trans h.readers_eq
  stage_eq l := (k.stage_eq l).trans (h.stage_eq l)

variable {may : TaskId → String → Prop} {given : String → Prop}

theorem Sane.still (h : A.Sane) (hAB : Aside may given A B) : A.Still B := by
  cases hAB with
  | same => exact still_keep rfl rfl rfl
  | lists => exact still_keep rfl rfl rfl
  | reads | lets => exact still_keep rfl (List.length_set ..) rfl
  | hears hm =>
    exact still_say (fun _ _ => congrArg some (Link.Stage.hear_eq_self (.inr hm))) (h.orderly _)
  | talks ha he hu =>
    refine still_say (fun stage hstage => ?_) (h.orderly _)
    obtain rfl : Link.Stage.ready = stage := Option.some.inj ((h.ready ha).symm.trans hstage)
    rw [Link.Stage.next_eq_say he]
    exact Link.Stage.say_ready hu
  | empties | removes => exact still_put ⟨rfl, rfl, rfl, rfl, rfl, rfl, rfl, rfl⟩
  | @drops s uri =>
    have hput : A.Still (A.put s ((A.server s).remove uri)) :=
      still_put ⟨rfl, rfl, rfl, rfl, rfl, rfl, rfl, rfl⟩
    exact hput.trans (still_keep rfl rfl rfl)
  | enqueues => exact still_put (Server.shelves_enqueue _ _)
  | @enters _ s d =>
    have hput : A.Still (A.put s { A.server s with
        connected := (A.server s).connected ++ [(d.uri, A.ledger.uris.length)] }) :=
      still_put ⟨rfl, rfl, rfl, rfl, rfl, rfl, rfl, rfl⟩
    exact hput.trans (still_keep rfl rfl rfl)

theorem Lined.aside (h : A.Lined) (c : A.Still B) (hAB : Aside may given A B) : B.Lined where
  orderly l := by
    rw [c.stage_eq]
    exact h.orderly l
  unspoken := by
    intro l
    rw [c.readers_eq, c.stage_eq]
    exact h.unspoken
  reading := by
    intro l r
    have reading := @h.reading
    cases hAB <;> grind
  hand := by rw [c.roles]; exact h.hand
  hand_lt := by rw [c.roles, c.readers_eq]; exact h.hand_lt

theorem Still.founded (c : A.Still B) {job : Job K} (h : A.Founded job) : B.Founded job := by
  cases job with
  | readAll | answer | handshake | crash => exact c.begun h
  | abandon => exact Nat.lt_of_lt_of_eq h c.length_eq.symm
  | search => exact c.genuine h
  | errorLog | outside => trivial

theorem Keyed.keep (h : A.Keyed) {L : Ledger} (hs : L.servers = A.ledger.servers)
    (hu : L.uris = A.ledger.uris) : (A.keep L).Keyed := by
  intro s e
  have heq : L.server s = A.server s := by simp only [server, Ledger.server, hs]
  rw [server_keep, ledger_keep, heq, hu]
  exact h s e

theorem Keyed.put (h : A.Keyed) {s : ServerId} {x : Server}
    (hx : ∀ e ∈ x.connected, e ∈ (A.server s).connected) : (A.put s x).Keyed := by
  intro r e he
  rw [server_put] at he
  split at he
  · rename_i hr
    exact h s e (hx e he)
  · exact h r e he

/-- Sessions keep their documents. -/
theorem uris_aside (hAB : Aside may given A B) {i : Nat} {uri : String}
    (h : A.ledger.uris[i]? = some uri) : B.ledger.uris[i]? = some uri := by
  cases hAB with
  | enters => exact (List.getElem?_append_left (List.getElem?_eq_some_iff.1 h).1).trans h
  | _ => exact h

theorem keyed_aside (h : A.Keyed) (hAB : Aside may given A B) : B.Keyed := by
  have grown {i : Nat} {uri : String} := @uris_aside K A B may given hAB i uri
  cases hAB with
  | same | lists | reads | lets => exact h.keep rfl rfl
  | hears | talks => exact h
  | empties => exact h.put fun _ => id
  | removes => exact h.put fun _ he => (List.mem_filter.1 he).1
  | drops => exact (h.put fun _ he => (List.mem_filter.1 he).1).keep rfl rfl
  | enqueues =>
    refine h.put fun e he => ?_
    rwa [Server.connected_enqueue] at he
  | @enters _ s d =>
    intro r e he
    change e ∈ ((A.put s { A.server s with
      connected := (A.server s).connected ++ [(d.uri, A.ledger.uris.length)] }).server r).connected
      at he
    rw [server_put] at he
    split at he
    · rcases List.mem_append.1 he with he | he
      · exact grown (h s e he)
      · obtain rfl := List.mem_singleton.1 he
        exact List.getElem?_concat_length
    · exact grown (h r e he)

theorem Sane.aside (h : A.Sane) (hAB : Aside may given A B) : B.Sane :=
  have c := h.still hAB
  { toLocked := c.locked h.toLocked
    toLined := h.toLined.aside c hAB
    toOwned := c.owned h.toOwned
    toBound := c.bound h.toBound
    keyed := keyed_aside h.keyed hAB
    owing := fun t e he => by
      rw [c.roles] at he
      exact uris_aside hAB (h.owing t e he)
    founded := by
      intro t job
      rw [c.roles]
      exact fun ht => c.founded (h.founded ht) }

theorem Sane.step (h : A.Sane) (hAB : Step may given A B) : B.Sane := by
  cases hAB with
  | aside hAB => exact h.aside hAB
  | act hAB => exact h.act hAB

theorem Sane.founded_step (h : A.Sane) (hAB : Step may given A B) {job : Job K}
    (hj : A.Founded job) : B.Founded job := by
  cases hAB with
  | aside hAB => exact (h.still hAB).founded hj
  | act hAB => exact h.founded_act hAB h.toLocked hj

theorem Sane.genuine_step (h : A.Sane) (hAB : Step may given A B) {a : Access}
    (ha : A.Genuine a) : B.Genuine a := by
  cases hAB with
  | aside hAB => exact (h.still hAB).genuine ha
  | act hAB => exact h.genuine_act hAB h.toLocked ha

theorem Sane.origin_step (h : A.Sane) (hAB : Step may given A B) {t : TaskId}
    (ht : (A.roles t).origin ≠ .unborn) : (B.roles t).origin = (A.roles t).origin := by
  cases hAB with
  | aside hAB => rw [(h.still hAB).roles]
  | act hAB => exact hAB.origin ht

theorem Sane.length_step (h : A.Sane) (hAB : Step may given A B) :
    B.ledger.servers.length = A.ledger.servers.length := by
  cases hAB with
  | aside hAB => exact (h.still hAB).length_eq
  | act hAB => exact length_act hAB

end Affairs

end LanguageClient
