import LanguageClient.Proofs.Transport.Stage
namespace LanguageClient

/-!
# Matching

Requests and responses of a link are matched by their ids: no two requests have the same, a response
settles the request that waits under its id, once, and other responses change nothing. After the end
nothing waits and nothing is sent any more.
-/

theorem Moment.Faithful.act {W J α β : Type} {t : TaskId} {f : W → W × β}
    {k : β → Program W J α} {w u : W}
    (h : (Moment.asks t ((Program.act f).bind k) w u).Faithful) : u = (f w).1 :=
  h _ _ _ _ rfl

namespace Link.Setting

variable {W J : Type} [HasWiring W] {S : Setting W J} {past : List (Moment W J)}
  {c d : Hall W J Call.Out} {m : Moment W J} {t : TaskId} {id : Int} {w u : W}

/-- A request was entered under an id and does not wait any more. -/
def Over (S : Setting W J) (id : Int) (w : W) : Prop :=
  id < (S.state w).nextId ∧ ¬ S.Pending id w

theorem Over.onward (h : S.Over id w) (ho : Link.Onward (S.state w) (S.state u)) : S.Over id u :=
  ⟨Int.lt_of_lt_of_le h.1 (Int.ofNat_le.2 ho.nextId_le),
    fun ⟨promise, hp⟩ => h.2 ⟨promise, ho.pending hp h.1⟩⟩

theorem Closed.onward (h : S.Closed w) (ho : Link.Onward (S.state w) (S.state u)) : S.Closed u := by
  refine ⟨ho.connected h.1, List.eq_nil_iff_forall_not_mem.2 fun e he => ?_⟩
  have := ho.settled h.1 he
  rw [h.2] at this
  exact nomatch this

theorem isSome_of_connected (h : (S.state w).connected = true) :
    ((HasWiring.wiring w).links.get? S.link).isSome := by
  cases hl : (HasWiring.wiring w).links.get? S.link with
  | some x => rfl
  | none =>
      unfold state Wiring.link Store.get at h
      rw [hl] at h
      exact nomatch h

variable [LawfulWiring W]

/-! ## Moments -/

theorem Enters.lt_nextId (h : S.Enters t id m) (hm : m.Faithful) :
    id < (S.state m.after).nextId := by
  obtain ⟨α, k, w, u, rfl, hc, rfl⟩ := h
  obtain rfl := hm.act
  have henter := Wiring.enterRequest_of_connected hc
  have hstate : S.state (HasWiring.visit (·.enterRequest S.link) w).1 =
      ((S.state w).enter (HasWiring.wiring w).promises.entries.length).1 := by
    unfold state
    rw [HasWiring.wiring_visit, henter]
    exact state_updateLink (isSome_of_connected hc) _
  change _ < ((S.state (HasWiring.visit (·.enterRequest S.link) w).1).nextId : Int)
  rw [hstate]
  exact Int.lt_succ _

omit [LawfulWiring W] in
theorem Answers.after_eq {o : RpcOutcome} (h : S.Answers id o m) (hm : m.Faithful) :
    m.after = HasWiring.modify
      (·.complete S.link id (o.mapError RpcError.toClientError)) m.before := by
  obtain ⟨t, body, α, k, w, u, rfl, hparse⟩ := h
  rw [accept_number hparse] at hm
  exact hm.act

omit [LawfulWiring W] in
theorem Ends.after_eq (h : S.Ends m) (hm : m.Faithful) :
    m.after = HasWiring.modify (hangUp S.link) m.before := by
  obtain ⟨t, α, k, w, u, rfl⟩ := h
  exact hm.act

omit [LawfulWiring W] in
theorem Shuts.after_eq (h : S.Shuts m) (hm : m.Faithful) :
    m.after = HasWiring.modify (·.failPending S.link "Transport closed") m.before := by
  obtain ⟨t, α, k, w, u, rfl⟩ := h
  exact hm.act

theorem Ends.closed (h : S.Ends m) (hm : m.Faithful) : S.Closed m.after := by
  rw [h.after_eq hm]
  have hlink := state_updateLink_of_closed (HasWiring.wiring m.before) S.link
    (f := fun x => { x with connected := false }) rfl
  have hstate := state_failPending (S := S) ((HasWiring.wiring m.before).updateLink S.link fun x =>
    { x with connected := false }) "Server closed connection" m.before
  exact ⟨(congrArg Link.connected hstate).trans (congrArg Link.connected hlink),
    congrArg Link.pending hstate⟩

/-- A response to a request that does not wait changes nothing. -/
theorem Answers.after_eq_before {o : RpcOutcome} (h : S.Answers id o m) (hm : m.Faithful)
    (hid : ¬ S.Pending id m.before) : m.after = m.before := by
  rw [h.after_eq hm]
  refine HasWiring.modify_of_eq (Wiring.complete_of_none ?_ _)
  cases hl : (S.state m.before).pending.lookup id with
  | none => exact hl
  | some promise =>
      obtain ⟨l₁, l₂, heq, -⟩ := List.lookup_eq_some_iff.1 hl
      exact absurd ⟨promise, by simp [heq]⟩ hid

/-- A response leaves nothing that waits under its id. -/
theorem Answers.not_pending {o : RpcOutcome} (h : S.Answers id o m) (hm : m.Faithful) :
    ¬ S.Pending id m.after := by
  rw [h.after_eq hm]
  rintro ⟨promise, hp⟩
  unfold state at hp
  rw [HasWiring.wiring_modify] at hp
  cases hl : ((HasWiring.wiring m.before).link S.link).pending.lookup id with
  | none =>
      rw [Wiring.complete_of_none hl] at hp
      simpa using List.lookup_eq_none_iff.1 hl _ hp
  | some q =>
      rw [Wiring.complete_of_some hl] at hp
      have hlink := state_updateLink_of_closed (HasWiring.wiring m.before) S.link
        (f := fun x => x.forget id) rfl
      have hp : (id, promise) ∈ (((HasWiring.wiring m.before).updateLink S.link fun x =>
        x.forget id).link S.link).pending := hp
      rw [hlink] at hp
      exact (Books.mem_forget.1 hp).2 rfl

/-- A request that has come to its outcome is over. -/
theorem Settles.over {o : Except ClientError Json} (h : S.Settles id o m) (hm : m.Faithful)
    (hregular : S.Regular m) : S.Over id m.after := by
  obtain ⟨⟨promise, hp⟩, hwhy⟩ := h
  refine ⟨Int.lt_of_lt_of_le (hregular.lt_nextId hp)
    (Int.ofNat_le.2 hregular.onward.nextId_le), ?_⟩
  rcases hwhy with ⟨r, ha, -⟩ | ⟨he, -⟩ | ⟨hs, -⟩
  · exact ha.not_pending hm
  · rintro ⟨q, hq⟩
    rw [(he.closed hm).2] at hq
    exact nomatch hq
  · rintro ⟨q, hq⟩
    have hstate := state_failPending (S := S) (HasWiring.wiring m.before) "Transport closed" m.before
    rw [hs.after_eq hm] at hq
    exact nomatch (congrArg Link.pending hstate).subst hq

/-! ## After the end -/

/-- Wherever the program comes next it fails with the error of a closed link, before it has done
anything. -/
def TurnsAway {β : Type} (w : W) (p : Program W J (Except ClientError β)) : Prop :=
  ∀ {α : Type} (rt : Runtime W J) (task : Task W J α) (k : Except ClientError β → Program W J α),
    rt.world = w → task.program = p.bind k →
      rt.stride task = (rt, .going { task with program := k (.error closedError) })

omit [LawfulWiring W] in
theorem turnsAway_of_act {β γ : Type} {f : W → W × γ} {next : γ → Program W J (Except ClientError β)}
    {c : γ} (hf : f w = (w, c)) (hnext : next c = .done (.error closedError)) :
    TurnsAway w ((Program.act f).bind next) := by
  intro α rt task k hrt hp
  have hstride : rt.stride task = ({ rt with world := (f rt.world).1 },
      .going { task with program := (next (f rt.world).2).bind k }) := by
    unfold Runtime.stride
    rw [hp]
    rfl
  rw [hstride, hrt, hf, hnext, ← hrt]
  rfl

theorem Closed.turnsAway_request (h : S.Closed w) (method : String) (params : Json) :
    TurnsAway (J := J) w (Link.request S.link method params) := by
  refine turnsAway_of_act (c := none) ?_ rfl
  have henter := Wiring.enterRequest_of_not_connected h.1
  exact (congrArg (fun r => (HasWiring.setWiring r.1 w, r.2)) henter).trans
    (congrArg (·, none) (LawfulWiring.setWiring_wiring w))

omit [LawfulWiring W] in
theorem Closed.turnsAway_notify (h : S.Closed w) (method : String) (params : Json) :
    TurnsAway (J := J) w (Link.notify S.link method params) :=
  turnsAway_of_act (c := false) (congrArg (Prod.mk w) h.1) rfl

/-! ## Runs -/

/-- What a run has come to: everything that happened, the halls on the way and the hall it is in. -/
structure Matched (S : Setting W J) (past : List (Moment W J)) (halls : List (Hall W J Call.Out))
    (d : Hall W J Call.Out) : Prop where
  /-- No two requests get the same id. -/
  entered : past.Pairwise fun m m' => ∀ t u id, S.Enters t id m → ¬ S.Enters u id m'
  /-- What has come to an outcome does not wait any more, so that only the first response counts. -/
  settled : past.Pairwise fun m m' => ∀ id o, S.Settles id o m → ¬ S.Pending id m'.before
  /-- A request that ended has its own outcome. -/
  verdict {method : String} {params : Json} {task : Task W J (Except ClientError Json)}
    {o : Except ClientError Json} : (⟨.request method params, task⟩ : Hall.Call W J Call.Out) ∈
      d.calls → task.program = .done o → S.Verdict task.id past o
  /-- A request that waits is of a task that has entered it and has not ended. -/
  live {id : Int} : S.Pending id d.world →
    d.Has fun task => (∀ a, task.program ≠ .done a) ∧ ∃ m ∈ past, S.Enters task.id id m
  /-- Other responses change nothing. -/
  ignored : ∀ m ∈ past, ∀ id o, S.Answers id o m → ¬ S.Pending id m.before → m.after = m.before
  /-- Nor do responses with a text for an id, and what is no message. -/
  mute {body : Text} : (∃ id o, IncomingMessage.parse body = .ok (.response (.string id) o)) ∨
      (∃ e, IncomingMessage.parse body = .error e) →
    Link.accept S.handler S.job S.link body = .done ()
  /-- After the end of the stream, and when a task has closed the link, it is closed for good. -/
  closed : (∃ m ∈ past, S.Ends m) ∨ (∃ e ∈ halls, ∃ task : Task W J Unit,
      (⟨.close, task⟩ : Hall.Call W J Call.Out) ∈ e.calls ∧ task.program = .done ()) →
    S.Closed d.world
  /-- On a closed link nothing is requested or notified any more. -/
  refused : S.Closed d.world → ∀ method params,
    TurnsAway (J := J) d.world (Link.request S.link method params) ∧
      TurnsAway (J := J) d.world (Link.notify S.link method params)
  reports_le : (S.reports d.world).length ≤ 1
  /-- The handler hears of a disconnect when the stream has ended before the link was closed. -/
  reported : S.reports d.world ≠ [] → ∃ m ∈ past, S.Ends m ∧ (S.state m.before).closing = false

theorem matched (hS : S.Lawful) (hc : S.Fresh c) {visited : List (Hall W J Call.Out)}
    (r : Hall.Run S.rules c visited past d) : S.Matched past (visited ++ [d]) d := by
  obtain ⟨g, hd⟩ := hc.run hS r 1
  have h : S.Holds past g d.world := hd.holds
  refine {
    entered := h.ordered.imp_of_mem fun {m m'} hm _ ho t u id he he' => ?_
    settled := h.ordered.imp_of_mem fun {m m'} hm _ ho id o hs hp => ?_
    verdict := fun {method params task o} hcall ho => ?_
    live := fun {id} ⟨promise, hp⟩ => ?_
    ignored := fun m hm id o ha hid => ha.after_eq_before (r.faithful hm) hid
    mute := fun {body} hbody => ?_
    closed := ?_
    refused := fun hclosed method params =>
      ⟨hclosed.turnsAway_request method params, hclosed.turnsAway_notify method params⟩
    reports_le := ?_
    reported := fun hne => (h.reading.reported hne).2 }
  · have hlt := he.lt_nextId (r.faithful hm)
    obtain ⟨α, k, w, v, rfl, -, rfl⟩ := he'
    exact absurd (Int.lt_of_lt_of_le hlt (Int.ofNat_le.2 ho.nextId_le)) (Int.lt_irrefl _)
  · exact ((hs.over (r.faithful hm) (h.regular m hm)).onward ho).2 hp
  · obtain ⟨-, hnext⟩ := hd.calls _ hcall
    rw [ho] at hnext
    have hverdict := hnext.2.2 _ (h.knows task.id [])
    rwa [List.append_nil] at hverdict
  · obtain ⟨t, ht⟩ := h.books.staked hp
    have hrests : ¬ (g t).Rests := fun hrests => nomatch hrests.2.symm.trans ht
    refine (hd.has hrests).mono fun task ⟨hid, hlive, _⟩ => ⟨hlive, ?_⟩
    rw [hid]
    exact h.books.entered ht
  · rcases hbody with ⟨id, o, hparse⟩ | ⟨e, hparse⟩
    · exact accept_string hparse
    · exact accept_error hparse
  · rintro (⟨m, hm, he⟩ | ⟨e, he, task, hcall, hdone⟩)
    · exact (he.closed (r.faithful hm)).onward (h.onward m hm)
    · obtain ⟨visited', past', later, r', rfl⟩ := r.of_mem he
      obtain ⟨g', he⟩ := hc.run hS r' 1
      have h' : S.Holds past' g' e.world := he.holds
      obtain ⟨-, hnext⟩ := he.calls _ hcall
      rw [hdone] at hnext
      obtain ⟨m, hm, hclosed⟩ := hnext.2.2 _ (h'.knows task.id [])
      rw [List.append_nil] at hm
      exact hclosed.onward (h.onward m (List.mem_append_left _ hm))
  · by_cases hne : S.reports d.world = []
    · simp [hne]
    · exact Nat.le_of_eq (h.reading.reported hne).1

/-- A request and its response. -/
theorem matched_answered : ∃ visited past d task,
    Hall.Run (Rehearsal.stage 0 0 1).rules (Rehearsal.opening Pipe.open_) visited past d ∧
    (⟨.request "a" Json.null, task⟩ : Hall.Call Rehearsal Rehearsal.Job Call.Out) ∈ d.calls ∧
    task.program = .done (.ok Json.null) ∧
    (Rehearsal.stage 0 0 1).Verdict task.id past (.ok Json.null) := by
  have begun : Hall.Run (Rehearsal.stage 0 0 1).rules (Rehearsal.opening Pipe.open_) [] [] _ :=
    .start
  have called := begun.step (.called (.request "a" Json.null))
  have entered := called.step (.went (.call (rfl : _ = [] ++ _ :: [])) rfl)
  have guarded := entered.step (.went (.call (rfl : _ = [] ++ _ :: [])) rfl)
  have acquired := guarded.step (.went (.call (rfl : _ = [] ++ _ :: [])) rfl)
  have held := acquired.step (.went (.call (rfl : _ = [] ++ _ :: [])) rfl)
  have found := held.step (.went (.call (rfl : _ = [] ++ _ :: [])) rfl)
  have looped := found.step (.went (.call (rfl : _ = [] ++ _ :: [])) rfl)
  have written := looped.step (.went (.call (rfl : _ = [] ++ _ :: [])) rfl)
  have released := written.step (.went (.call (rfl : _ = [] ++ _ :: [])) rfl)
  have fed := released.step (.changed (Rehearsal.aside_fed (by decide)
    (Utf8.encode (Frame.encode "\x7b\"id\":1,\"result\":null\x7d".toList)) _))
  have opened := fed.step (.went (.task (rfl : _ = [] ++ _ :: [])) rfl)
  have closing := opened.step (.went (.task (rfl : _ = [] ++ _ :: [])) rfl)
  have reading := closing.step (.went (.task (rfl : _ = [] ++ _ :: [])) rfl)
  have received := reading.step (.went (.task (rfl : _ = [] ++ _ :: [])) rfl)
  have again := received.step (.went (.task (rfl : _ = [] ++ _ :: [])) rfl)
  have accepted := again.step (.went (.task (rfl : _ = [] ++ _ :: [])) rfl)
  have kept := accepted.step (.went (.call (rfl : _ = [] ++ _ :: [])) rfl)
  have forgotten := kept.step (.went (.call (rfl : _ = [] ++ _ :: [])) rfl)
  refine ⟨_, _, _, _, forgotten, List.mem_cons_self, rfl, ?_⟩
  exact (matched (Rehearsal.lawful (by decide)) (Rehearsal.fresh_opening _) forgotten).verdict
    List.mem_cons_self rfl

end Link.Setting

end LanguageClient
