import LanguageClient.Proofs.Transport.Sending
namespace LanguageClient

/-!
# Requesting and closing

A task that has entered a request has it at stake until it comes to its outcome or is given up. A
task that closes the link fails what is still at stake.
-/

open Function (update)

namespace Wiring

/-- The wiring with a new request. -/
def entered (w : Wiring) (l : LinkId) : Wiring :=
  { w.newPromise.1 with
    links := w.links.update l fun x => (x.enter w.promises.entries.length).1 }

theorem enterRequest_of_connected {w : Wiring} {l : LinkId} (h : (w.link l).connected = true) :
    w.enterRequest l =
      (w.entered l, some (((w.link l).nextId : Int), w.promises.entries.length)) := by
  unfold enterRequest
  rw [if_pos h]
  refine Prod.ext ?_ rfl
  exact congrArg (fun links => { w.newPromise.1 with links })
    (Store.update_const w.links l fun x => (x.enter w.promises.entries.length).1)

theorem enterRequest_of_not_connected {w : Wiring} {l : LinkId}
    (h : (w.link l).connected = false) : w.enterRequest l = (w, none) := by
  unfold enterRequest
  rw [h]
  rfl

/-- Waiting for a promise keeps none. -/
theorem outcome_await (w : Wiring) (p q : PromiseId) (t : TaskId) :
    Wiring.outcome { w with promises := (w.promises.visit p (·.await t)).1 } q = w.outcome q := by
  have hawait (a : Promise) : (a.await t).1.outcome = a.outcome := by
    unfold Promise.await
    split <;> simp_all
  unfold outcome Store.visit
  dsimp only
  by_cases hq : p = q
  · subst hq
    rw [Store.get?_update_same]
    cases hp : w.promises.get? p with
    | none => rfl
    | some a => simp [Store.get, hp, hawait]
  · rw [Store.get?_update_ne _ _ hq]

theorem outcome_of_await {w : Wiring} {p : PromiseId} {t : TaskId} {o : Except ClientError Json}
    (h : (w.promises.visit p (·.await t)).2 = some o) : w.outcome p = some o := by
  have hawait (a : Promise) (ha : (a.await t).2 = some o) : a.outcome = some o := by
    unfold Promise.await at ha
    split at ha <;> simp_all
  have hget := hawait _ h
  unfold outcome
  unfold Store.get at hget
  cases hp : w.promises.get? p with
  | none =>
      rw [hp] at hget
      exact nomatch hget
  | some a =>
      rw [hp] at hget
      exact hget

/-- Closing one end of a pipe opens none. -/
theorem takes_of_closeWriter {w : Wiring} {p q : PipeId} (h : (w.closeWriter p).takes q = true) :
    w.takes q = true := by
  have hpipes : (w.closeWriter p).pipes =
      w.pipes.update p fun _ => ((w.pipes.get p).closeWriter).1 := rfl
  unfold takes at h ⊢
  rw [hpipes] at h
  rcases Store.get_update w.pipes p q fun _ => ((w.pipes.get p).closeWriter).1 with hq | ⟨rfl, hq⟩
  · rwa [hq] at h
  · rw [hq] at h
    simp [Pipe.closeWriter] at h

end Wiring

namespace Link.Setting

variable {W J : Type} [HasWiring W] [LawfulWiring W] {S : Setting W J} {hS : S.Lawful}
  {past : List (Moment W J)} {g : TaskId → Local W J} {w u : W} {t : TaskId} {ℓ ℓ' : Local W J}
  {m : Moment W J} {α : Type}

omit [LawfulWiring W] in
theorem Verdict.append {o : Except ClientError Json} (h : S.Verdict t past o)
    (later : List (Moment W J)) : S.Verdict t (past ++ later) o := by
  cases h with
  | refused hm h => exact .refused (List.mem_append_left _ hm) h
  | unsent hm h => exact .unsent (List.mem_append_left _ hm) h
  | settled hm h hm' h' =>
      exact .settled (List.mem_append_left _ hm) h (List.mem_append_left _ hm') h'

variable [Nonempty W]

/-! ## Requests -/

/-- A task enters its request, if the link is connected. -/
theorem fine_enter (hhand : ℓ.hand = .away) (hstake : ℓ.stake = none) :
    (S.discipline hS).Fine t (Local.Learns ℓ)
      (fun ℓ' r => (∃ e, r = some e ∧ ℓ' = { ℓ with stake := some e }) ∨
        r = none ∧ ℓ' = ℓ.learn fun past => ∃ m ∈ past, S.Refuses t m)
      ℓ (.act (HasWiring.visit (·.enterRequest S.link))) := by
  have hcarried (w : Wiring) : (w.enterRequest S.link).1.carried S.output = w.carried S.output := by
    cases hc : (w.link S.link).connected with
    | true => rw [Wiring.enterRequest_of_connected hc]; rfl
    | false => rw [Wiring.enterRequest_of_not_connected hc]
  refine fine_act (fun ⟨m, rest, hm⟩ => nomatch hhand.symm.trans hm) (fun w => ?_) ?_
  · rw [HasWiring.wiring_visit]
    exact hcarried _
  · intro γ k past g w hg h
    subst hg
    cases hc : (S.state w).connected with
    | true =>
        have henter := Wiring.enterRequest_of_connected hc
        refine ⟨{ g t with stake := some (((S.state w).nextId : Int),
          (HasWiring.wiring w).promises.entries.length) }, ?_, .inl ⟨_, ?_, rfl⟩⟩
        · have hworld := congrArg (fun r => HasWiring.setWiring r.1 w) henter
          have hlink : ((HasWiring.wiring w).entered S.link).link S.link = _ :=
            state_updateLink h.present
              fun x => (x.enter (HasWiring.wiring w).promises.entries.length).1
          have hm : S.Enters t (S.state w).nextId (.asks t
              ((Program.act (HasWiring.visit (·.enterRequest S.link))).bind k) w
              (HasWiring.visit (·.enterRequest S.link) w).1) := ⟨γ, k, w, _, rfl, hc, rfl⟩
          rw [show (HasWiring.visit (·.enterRequest S.link) w).1 = _ from hworld] at hm ⊢
          refine h.rewire hS rfl (.inr rfl) (isSome_updateLink h.present _) ?_ ?_ ?_ ?_ rfl
            fun later => h.knows t _
          all_goals
            dsimp only
            rw [hlink]
          · rfl
          · exact .enter hc _
          · rw [Function.update_eq_self]
            exact h.writing.same _ (.inr rfl) .rfl rfl id
          · exact (h.books.enter hstake hm).congr rfl rfl rfl
        · exact congrArg Prod.snd henter
    | false =>
        have henter := Wiring.enterRequest_of_not_connected hc
        have hsame : (HasWiring.visit (·.enterRequest S.link) w).1 = w :=
          (congrArg (fun r => HasWiring.setWiring r.1 w) henter).trans
            (LawfulWiring.setWiring_wiring w)
        refine ⟨_, ?_, .inr ⟨congrArg Prod.snd henter, rfl⟩⟩
        rw [hsame]
        refine h.mark rfl rfl (.learn _ _) fun later => ⟨h.knows t _, ?_⟩
        exact ⟨_, List.mem_append_right _ List.mem_cons_self, γ, k, w, w, rfl, hc⟩

omit [Nonempty W] in
/-- A request is forgotten when its task is done with it or gives it up. -/
theorem releases_forget {e : Int × PromiseId} (hℓ : ℓ.stake = some e) :
    (S.discipline hS).Releases t (HasWiring.modify (·.updateLink S.link (·.forget e.1))) ℓ
      { ℓ with stake := none } where
  holds {past g w} hg h := by
    have h : S.Holds past g w := h
    obtain rfl := hg
    have hw := HasWiring.wiring_modify (·.updateLink S.link (·.forget e.1)) w
    have hstate : S.state (HasWiring.modify (·.updateLink S.link (·.forget e.1)) w) =
        (S.state w).forget e.1 := by
      unfold state
      rw [hw, state_updateLink h.present]
    refine h.released ?_ ?_ ?_ ?_ ?_ ?_ id
    · rw [hstate]
      exact .of_subset rfl id id fun f hf => (Books.mem_forget.1 hf).1
    · rw [hw]
      exact isSome_updateLink h.present _
    · rw [hstate]
      rfl
    · rw [hstate, hw, Function.update_eq_self]
      have := h.writing.same [] (y := (S.state w).forget e.1) (v := HasWiring.wiring w) (.inr rfl)
        .rfl rfl id
      rw [List.append_nil] at this
      exact this.congr rfl rfl
    · rw [hstate, hw]
      exact (h.books.forget hℓ).congr rfl rfl rfl
    · rw [Function.update_eq_self]
      exact h.reading.congr (hS.reports_setWiring _ w)
  view_eq w := by
    have hw := HasWiring.wiring_modify (·.updateLink S.link (·.forget e.1)) w
    exact Prod.ext (congrArg (·.carried S.output) hw) (congrArg (·.takes S.output) hw)

/-- The outcome of a request is what it came to. -/
theorem fine_outcome {e : Int × PromiseId} (hhand : ℓ.hand = .away) (hℓ : ℓ.stake = some e) :
    (S.discipline hS).Fine t (Local.Learns ℓ)
      (fun ℓ' o => Local.Learns ℓ ℓ' ∧ ∀ past, ℓ'.knows past → S.Verdict t past o) ℓ
      (Program.outcome e.2) := by
  have haside (s : TaskId) (w : W) : S.Aside w (HasWiring.setWiring
      { HasWiring.wiring w with
        promises := ((HasWiring.wiring w).promises.visit e.2 (·.await s)).1 } w) := by
    have hw : HasWiring.wiring (HasWiring.setWiring
        { HasWiring.wiring w with
          promises := ((HasWiring.wiring w).promises.visit e.2 (·.await s)).1 } w) = _ :=
      LawfulWiring.wiring_setWiring _ w
    have houtcome (q : PromiseId) := (HasWiring.wiring w).outcome_await e.2 q s
    refine ⟨by rw [hw], by rw [hw]; rfl, fun h => by rw [hw] at h; exact h, ?_, fun _ => ?_,
      fun h => ?_, hS.reports_setWiring _ w⟩
    · rw [hw]
      exact Nat.le_of_eq (List.length_modify ..).symm
    · rw [hw, houtcome]
    · rw [hw, houtcome]
      exact h
  refine (fine_wait (fun ⟨m, rest, hm⟩ => nomatch hhand.symm.trans hm) haside
    (fun _ => Unseen.refl) (fun o past => S.Verdict t past o) ?_).mono (fun _ => id) ?_
  · intro γ k past g w o hg h ho
    obtain rfl := hg
    have hkept := Wiring.outcome_of_await ho
    obtain ⟨m, hm, hsettles⟩ : ∃ m ∈ past, S.Settles e.1 o m := by
      rcases h.books.stake hℓ with he | ⟨o', ho', m, hm, hs⟩
      · exact nomatch (h.books.unkept he).symm.trans hkept
      · obtain rfl := Option.some.inj (ho'.symm.trans hkept)
        exact ⟨m, hm, hs⟩
    obtain ⟨m', hm', henters⟩ := h.books.entered hℓ
    have hverdict : S.Verdict t past o := .settled hm' henters hm hsettles
    exact fun later => hverdict.append _
  · rintro ℓ' o rfl
    exact ⟨.learn _ _, fun past hpast => hpast.2⟩

/-- What a request does once it is entered. -/
theorem fine_entered (hS : S.Lawful) (ℓ : Local W J) (e : Int × PromiseId) (method : String)
    (params : Json) (hhand : ℓ.hand = .away) (hstake : ℓ.stake = some e) :
    (S.discipline hS).Fine t (Local.Learns ℓ)
      (fun ℓ' o => Local.Learns ℓ ℓ' ∧ ∀ past, ℓ'.knows past → S.Verdict t past o) ℓ
      ((Link.send S.link (.request (.number e.1) method (some params))).bind fun r =>
        match r with
        | .error err => .done (.error err)
        | .ok () => Program.outcome e.2) := by
  refine (fine_send _ hhand).bind fun ℓ₂ sent h₂ => ?_
  cases sent with
  | error err =>
      refine Discipline.fine_done ⟨h₂.1, fun past hpast => ?_⟩
      obtain ⟨m, hm, hmisses⟩ := h₂.2 err rfl past hpast
      exact .unsent hm hmisses
  | ok _ =>
      refine (fine_outcome (h₂.1.hand_eq.trans hhand) (h₂.1.stake_eq.trans hstake)).mono ?_ ?_
      · exact fun ℓ' hl => h₂.1.trans hl
      · exact fun ℓ' o hl => ⟨h₂.1.trans hl.1, hl.2⟩

/-- A request comes to an outcome for one of the reasons that there are. -/
theorem fine_request (method : String) (params : Json) (hhand : ℓ.hand = .away)
    (hstake : ℓ.stake = none) :
    (S.discipline hS).Fine t (Local.Learns ℓ)
      (fun ℓ' o => Local.Learns ℓ ℓ' ∧ ∀ past, ℓ'.knows past → S.Verdict t past o) ℓ
      (Link.request S.link method params) := by
  refine (fine_enter hhand hstake).bind fun ℓ₁ r h₁ => ?_
  rcases h₁ with ⟨e, rfl, rfl⟩ | ⟨rfl, rfl⟩
  · have hback {ℓ' : Local W J} (hl : Local.Learns { ℓ with stake := some e } ℓ') :
        Local.Learns ℓ { ℓ' with stake := none } :=
      ⟨hl.hand_eq, hstake.symm, hl.quiet_eq, hl.knows⟩
    have hplain {ℓ' : Local W J} (hl : Local.Learns { ℓ with stake := some e } ℓ') :
        (S.discipline hS).Plain ℓ' :=
      plain_of_not_writes fun ⟨m, rest, hm⟩ => nomatch (hl.hand_eq.trans hhand).symm.trans hm
    have hbody := fine_entered (t := t) hS { ℓ with stake := some e } e method params hhand rfl
    exact hbody.holding (hplain (.refl _))
      (fun ℓ' hl => ⟨_, releases_forget hl.stake_eq, hback hl⟩)
      fun ℓ' o hl => ⟨hplain hl.1, _, releases_forget hl.1.stake_eq, hback hl.1, hl.2⟩
  · refine Discipline.fine_done ⟨.learn _ _, fun past hpast => ?_⟩
    obtain ⟨m, hm, hrefuses⟩ := hpast.2
    exact .refused hm hrefuses

/-! ## Closing -/

/-- A change of the link's record that the line and the books do not notice. -/
theorem fine_updateLink {f : Link → Link} (hhand : ℓ.hand = .away)
    (hf : ∀ x, (f x).input = x.input ∧ (f x).output = x.output ∧ (f x).writing = x.writing ∧
      (f x).pending = x.pending ∧ (f x).nextId = x.nextId)
    (honward : ∀ x, Link.Onward x (f x)) {β : Type} (read : Wiring → β) :
    (S.discipline hS).Fine t (Local.Learns ℓ)
      (fun ℓ' _ => ℓ' = ℓ.learn fun past => ∃ m ∈ past, ∃ x, S.state m.after = f x) ℓ
      (.act (HasWiring.visit fun w => (w.updateLink S.link f, read w))) := by
  refine fine_act (fun ⟨m, rest, hm⟩ => nomatch hhand.symm.trans hm) (fun w => ?_) ?_
  · rw [HasWiring.wiring_visit]
    rfl
  · intro γ k past g w hg h
    subst hg
    have hlink := state_updateLink h.present f
    refine ⟨_, ?_, rfl⟩
    refine h.rewire hS rfl (.inr rfl) (isSome_updateLink h.present f) ?_ ?_ ?_ ?_ rfl
      fun later => ⟨h.knows t _, ?_⟩
    · exact (congrArg Link.input hlink).trans (hf _).1
    · exact hlink ▸ honward (S.state w)
    · rw [show Wiring.link _ S.link = _ from hlink]
      simp only [Local.learn, Function.update_eq_self]
      exact h.writing.same _ (.inr (hf _).2.1) (by rw [(hf _).2.2.1]; rfl) rfl id
    · rw [show Wiring.link _ S.link = _ from hlink]
      simp only [Local.learn, Function.update_eq_self]
      exact h.books.same _ (hf _).2.2.2.1 (hf _).2.2.2.2 (Nat.le_refl _) (fun _ _ => rfl)
        fun _ _ => id
    · refine ⟨_, List.mem_append_right _ List.mem_cons_self, S.state w, ?_⟩
      unfold state Moment.after
      rw [HasWiring.wiring_visit]
      exact hlink

omit [Nonempty W] in
/-- All requests that waited have failed. The record may have changed besides, as `v` has it. -/
theorem Holds.failAll (h : S.Holds past g w) (hS : S.Lawful) {v : Wiring} {reason : String}
    (hbefore : m.before = w)
    (hafter : m.after = HasWiring.setWiring (v.failPending S.link reason) w)
    (hpresent : (v.links.get? S.link).isSome)
    (hpromises : v.promises = (HasWiring.wiring w).promises)
    (hpipes : v.pipes = (HasWiring.wiring w).pipes)
    (htraffic : v.traffic = (HasWiring.wiring w).traffic)
    (hlink : v.link S.link = { S.state w with connected := (v.link S.link).connected })
    (hconnected : (S.state w).connected = false → (v.link S.link).connected = false)
    (hsettles : ∀ id, S.Pending id w → S.Settles id (.error (.disconnected reason)) m)
    (hlearns : Local.Learns (g t) ℓ) (hknows : ∀ later, ℓ.knows (past ++ m :: later)) :
    S.Holds (past ++ [m]) (update g t ℓ) (HasWiring.setWiring (v.failPending S.link reason) w) := by
  obtain ⟨hlinks', hpipes', htraffic'⟩ := Wiring.keepAll_rest
    (v.updateLink S.link fun x => { x with pending := [] }) (.error (.disconnected reason))
    (v.link S.link).pending
  have hpending : (v.link S.link).pending = (S.state w).pending := by rw [hlink]
  have hlink' : (v.failPending S.link reason).link S.link =
      { v.link S.link with pending := [] } := by
    rw [Wiring.failPending_eq, Wiring.link, hlinks']
    exact state_updateLink hpresent _
  refine h.rewire hS hbefore (.inr hafter) ?_ ?_ ?_ ?_ ?_ hlearns.quiet_eq hknows
  · rw [Wiring.failPending_eq, hlinks']
    exact isSome_updateLink hpresent _
  · rw [hlink', hlink]
  · rw [hlink']
    exact .of_subset (by rw [hlink]) hconnected (by rw [hlink]; exact id) (List.nil_subset _)
  · rw [hlink', hlearns.hand_eq, Function.update_eq_self]
    refine h.writing.same [m] (.inr (by rw [hlink])) (by rw [hlink]) ?_ ?_
    · exact Wiring.carried_of_traffic (htraffic'.trans htraffic) _
    · unfold Wiring.takes
      rw [Wiring.failPending_eq, hpipes']
      exact fun ht => hpipes ▸ ht
  · rw [hlink', hlearns.stake_eq, Function.update_eq_self]
    have hsame : S.Books past (fun t => (g t).stake) (S.state w)
        (v.updateLink S.link fun x => { x with pending := [] }) :=
      h.books.congr rfl rfl hpromises
    rw [Wiring.failPending_eq, hpending]
    refine hsame.settle (List.nil_sublist _) (by rw [hlink]) (Wiring.length_keepAll ..) nofun
      (fun p o ho => Wiring.outcome_keepAll_of_some ho _) fun e he _ => ⟨?_, hsettles e.1 ⟨e.2, he⟩⟩
    exact Wiring.outcome_keepAll he (hsame.lt_length he) (hsame.unkept he)

omit [Nonempty W] in
theorem state_failPending (v : Wiring) (reason : String) (w : W) :
    S.state (HasWiring.setWiring (v.failPending S.link reason) w) =
      { v.link S.link with pending := [] } := by
  unfold state
  rw [LawfulWiring.wiring_setWiring, Wiring.failPending_eq, Wiring.link,
    (Wiring.keepAll_rest ..).1]
  exact state_updateLink_of_closed v S.link rfl

/-- The link is closed for good: it is not connected, and no request waits. -/
def Closed (S : Setting W J) (w : W) : Prop :=
  (S.state w).connected = false ∧ (S.state w).pending = []

/-- With the lock in hand a task closes the output, if nobody did before. -/
theorem fine_closeOutput (hℓ : ℓ.hand = .holds) :
    (S.discipline hS).Fine t (Local.Learns ℓ) (fun ℓ' _ => ℓ' = ℓ) ℓ
      (.modify (HasWiring.modify (closeOutput S.link))) := by
  have hcarried (w : Wiring) : (closeOutput S.link w).carried S.output = w.carried S.output := by
    unfold closeOutput
    split <;> rfl
  refine fine_act (fun ⟨m, rest, hm⟩ => nomatch hℓ.symm.trans hm) (fun w => ?_) ?_
  · rw [HasWiring.wiring_modify]
    exact hcarried _
  · intro γ k past g w hg h
    obtain rfl := hg
    refine ⟨g t, ?_, rfl⟩
    cases ho : (S.state w).output with
    | none =>
        have hsame : HasWiring.modify (closeOutput S.link) w = w :=
          HasWiring.modify_of_eq (by
            unfold closeOutput
            rw [show ((HasWiring.wiring w).link S.link).output = none from ho])
        rw [hsame, Function.update_eq_self]
        exact h.mark_same rfl rfl
    | some p =>
        have hclose : closeOutput S.link (HasWiring.wiring w) =
            ((HasWiring.wiring w).updateLink S.link fun x =>
              { x with output := none }).closeWriter p := by
          unfold closeOutput
          rw [show ((HasWiring.wiring w).link S.link).output = some p from ho]
        have hlink : (closeOutput S.link (HasWiring.wiring w)).link S.link =
            { S.state w with output := none } := by
          rw [hclose]
          exact state_updateLink h.present _
        refine h.rewire hS rfl (.inr rfl) ?_ (by rw [hlink]) ?_ ?_ ?_ rfl fun later => h.knows t _
        · rw [hclose]
          exact isSome_updateLink h.present _
        · rw [hlink]
          exact .of_subset rfl id id (List.Subset.refl _)
        · rw [hlink, Function.update_eq_self]
          refine h.writing.same _ (.inl rfl) .rfl (hcarried _) fun ht => ?_
          rw [hclose] at ht
          exact Wiring.takes_of_closeWriter ht
        · rw [hlink, Function.update_eq_self]
          exact (h.books.same _ rfl rfl (Nat.le_refl _) (fun _ _ => rfl) fun _ _ => id).congr rfl rfl
            (by rw [hclose]; rfl)

/-- A task that knows that the link is not connected any more fails what waits. -/
theorem fine_shut (hhand : ℓ.hand = .away)
    (hℓ : ∀ past, ℓ.knows past → ∃ m ∈ past, (S.state m.after).connected = false) :
    (S.discipline hS).Fine t (Local.Learns ℓ)
      (fun ℓ' _ => ℓ' = ℓ.learn fun past => ∃ m ∈ past, S.Closed m.after) ℓ
      (.modify (HasWiring.modify (·.failPending S.link "Transport closed"))) := by
  refine fine_act (fun ⟨m, rest, hm⟩ => nomatch hhand.symm.trans hm) (fun w => ?_) ?_
  · rw [HasWiring.wiring_modify, Wiring.failPending_eq]
    exact Wiring.carried_of_traffic (Wiring.keepAll_rest ..).2.2 _
  · intro γ k past g w hg h
    obtain rfl := hg
    have hconnected : (S.state w).connected = false := by
      obtain ⟨m, hm, hc⟩ := hℓ _ (h.knows t [])
      exact (h.onward m (by simpa using hm)).connected hc
    refine ⟨_, ?_, rfl⟩
    refine h.failAll hS rfl rfl h.present rfl rfl rfl rfl id (fun id hid => ?_) (.learn _ _)
      fun later => ⟨h.knows t _, _, List.mem_append_right _ List.mem_cons_self, ?_⟩
    · exact ⟨hid, .inr (.inr ⟨⟨t, γ, k, w, _, rfl⟩, rfl⟩)⟩
    · have hstate := state_failPending (S := S) (HasWiring.wiring w) "Transport closed" w
      exact ⟨(congrArg Link.connected hstate).trans hconnected, congrArg Link.pending hstate⟩

/-- The first thing that a closing task does, without a wait, is to disconnect the link. -/
theorem fine_disconnect (hhand : ℓ.hand = .away) :
    (S.discipline hS).Fine t (Local.Learns ℓ)
      (fun ℓ' _ => Local.Learns ℓ ℓ' ∧
        ∀ past, ℓ'.knows past → ∃ m ∈ past, (S.state m.after).connected = false) ℓ
      (.modify (HasWiring.modify (·.updateLink S.link fun x =>
        { x with closing := true, connected := false }))) := by
  have hupdate : (S.discipline hS).Fine t (Local.Learns ℓ) _ ℓ
      (.modify (HasWiring.modify (·.updateLink S.link fun x =>
        { x with closing := true, connected := false }))) :=
    fine_updateLink (f := fun x => { x with closing := true, connected := false }) hhand
      (fun _ => ⟨rfl, rfl, rfl, rfl, rfl⟩)
      (fun x => .of_subset rfl (fun _ => rfl) (fun _ => rfl) (List.Subset.refl _)) fun _ => ()
  refine hupdate.mono (fun _ => id) ?_
  rintro ℓ' _ rfl
  refine ⟨.learn _ _, fun past hpast => ?_⟩
  obtain ⟨m, hm, x, hx⟩ := hpast.2
  exact ⟨m, hm, congrArg Link.connected hx⟩

theorem fine_closeLocked (hhand : ℓ.hand = .away) :
    (S.discipline hS).Fine t (Local.Learns ℓ) (fun ℓ' _ => Local.Learns ℓ ℓ') ℓ
      (.locked (writingLock S.link) (.modify (HasWiring.modify (closeOutput S.link)))) := by
  refine fine_locked hhand ((fine_closeOutput rfl).mono (fun _ => id) ?_)
  rintro ℓ' _ rfl
  exact ⟨rfl, hhand.symm, rfl, rfl, id⟩

theorem fine_stopReader (hhand : ℓ.hand = .away) :
    (S.discipline hS).Fine t (Local.Learns ℓ) (fun ℓ' _ => Local.Learns ℓ ℓ') ℓ
      (Link.stopReader S.link) := by
  have htake : (S.discipline hS).Fine t (Local.Learns ℓ) _ ℓ
      (.act (HasWiring.visit (takeReader S.link))) :=
    fine_updateLink (f := fun x => { x with reader := none }) hhand
      (fun _ => ⟨rfl, rfl, rfl, rfl, rfl⟩) (fun x => .of_subset rfl id id (List.Subset.refl _))
      fun w => (w.link S.link).reader
  refine Discipline.Fine.bind htake fun ℓ' task h => ?_
  subst h
  cases task with
  | none => exact Discipline.fine_done (.learn _ _)
  | some task =>
      refine Discipline.fine_stop (plain_of_not_writes ?_) (.learn _ _)
      exact fun ⟨m, rest, hm⟩ => nomatch hhand.symm.trans hm

/-- When a task has closed the link it is closed for good. -/
theorem fine_close (hhand : ℓ.hand = .away) :
    (S.discipline hS).Fine t (Local.Learns ℓ)
      (fun ℓ' _ => Local.Learns ℓ ℓ' ∧ ∀ past, ℓ'.knows past → ∃ m ∈ past, S.Closed m.after) ℓ
      (Link.close S.link) := by
  refine Discipline.Fine.bind (fine_disconnect hhand) fun ℓ₁ _ h₁ => ?_
  have hhand₁ := h₁.1.hand_eq.trans hhand
  refine Discipline.Fine.bind ((fine_closeLocked hhand₁).mono (fun _ => h₁.1.trans) fun _ _ => id)
    fun ℓ₂ _ h₂ => ?_
  have hhand₂ := h₂.hand_eq.trans hhand₁
  refine Discipline.Fine.bind ((fine_stopReader hhand₂).mono (fun _ => (h₁.1.trans h₂).trans)
    fun _ _ => id) fun ℓ₃ _ h₃ => ?_
  have hall := (h₁.1.trans h₂).trans h₃
  refine (fine_shut (h₃.hand_eq.trans hhand₂) fun past hpast =>
    h₁.2 past (h₂.knows (h₃.knows hpast))).mono (fun _ => hall.trans) ?_
  rintro ℓ' _ rfl
  exact ⟨hall.trans (.learn _ _), fun past hpast => hpast.2⟩

end Link.Setting

end LanguageClient
