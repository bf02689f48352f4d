import LanguageClient.Proofs.Transport.Requesting
namespace LanguageClient

/-!
# Reading

Polite programs keep the discipline of a link, and so does the task that reads.
-/

open Function (update)

namespace Wiring

theorem takes_receive (w : Wiring) (p q : PipeId) (t : TaskId) :
    (w.visitPipe p fun pipe =>
      let r := pipe.take Program.readSize t
      (r.1, r.2.1, match r.2.2 with
        | .ended => some none
        | .waits => none
        | .got bytes => some (some bytes))).1.takes q = w.takes q := by
  refine takes_visitPipe w p q _ fun pipe => ?_
  dsimp only
  unfold Pipe.take
  split
  · split <;> exact ⟨rfl, rfl⟩
  · exact ⟨rfl, rfl⟩

theorem takes_closeReader {w : Wiring} {p q : PipeId} (h : p ≠ q) :
    (w.closeReader p).takes q = w.takes q := by
  have hpipes : (w.closeReader p).pipes =
      w.pipes.update p fun _ => ((w.pipes.get p).closeReader).1 := rfl
  unfold takes
  rw [hpipes, Store.get_update_ne _ _ h]

theorem complete_of_some {w : Wiring} {l : LinkId} {id : Int} {promise : PromiseId}
    (h : (w.link l).pending.lookup id = some promise) (o : Except ClientError Json) :
    w.complete l id o = (w.updateLink l (·.forget id)).keep promise o := by
  unfold complete
  rw [h]

theorem complete_of_none {w : Wiring} {l : LinkId} {id : Int}
    (h : (w.link l).pending.lookup id = none) (o : Except ClientError Json) :
    w.complete l id o = w := by
  unfold complete
  rw [h]

theorem carried_complete (w : Wiring) (l : LinkId) (id : Int) (o : Except ClientError Json)
    (p : PipeId) : (w.complete l id o).carried p = w.carried p := by
  unfold complete
  split <;> rfl

end Wiring

namespace Link.Setting

variable {W J : Type} [HasWiring W] [LawfulWiring W] {S : Setting W J} {hS : S.Lawful}
  {past : List (Moment W J)} {g : TaskId → Local W J} {w u : W} {t : TaskId} {ℓ ℓ' : Local W J}
  {m : Moment W J} {α : Type}

theorem releases_unseen {release : W → W} (h : ∀ w, S.Unseen w (release w)) :
    (S.discipline hS).Releases t release ℓ ℓ := by
  refine ⟨?_, fun w => Prod.ext (h w).carried_eq (h w).takes_eq⟩
  intro past (g : TaskId → Local W J) w hg hw
  have hw : S.Holds past g w := hw
  obtain rfl := hg
  change S.Holds past (update g t (g t)) (release w)
  rw [Function.update_eq_self]
  exact hw.aside (h w).toAside

/-! ## Polite programs -/

/-- Wherever the task rests, the program leaves it there. -/
def Keeps (hS : S.Lawful) (t : TaskId) (p : Program W J α) : Prop :=
  ∀ ℓ : Local W J, ℓ.Rests →
    (S.discipline hS).Fine t (Local.Learns ℓ) (fun ℓ' _ => Local.Learns ℓ ℓ') ℓ p

theorem Keeps.bind {β : Type} {p : Program W J β} {k : β → Program W J α} (hp : Keeps hS t p)
    (hk : ∀ b, Keeps hS t (k b)) : Keeps hS t (p.bind k) := by
  intro ℓ hℓ
  refine Discipline.Fine.bind (hp ℓ hℓ) fun ℓ₁ b hl => ?_
  exact (hk b ℓ₁ (hℓ.learns hl)).mono (fun _ => hl.trans) fun _ _ => hl.trans

theorem Local.Rests.plain (hℓ : ℓ.Rests) : (S.discipline hS).Plain ℓ :=
  plain_of_not_writes hℓ.not_writes

theorem Keeps.iterate {σ : Type} {s : σ} {body : σ → Program W J (σ ⊕ α)}
    (h : ∀ s, Keeps hS t (body s)) : Keeps hS t (Program.iterate s body) := by
  intro ℓ hℓ
  refine Discipline.fine_iterate (D := S.discipline hS) (fun ℓ' s (hl : Local.Learns ℓ ℓ') => ?_)
    (fun ℓ' s hl => ?_) (.refl ℓ)
  · exact Local.Rests.plain (hℓ.learns hl) _ nofun
  · refine (h s ℓ' (hℓ.learns hl)).mono (fun _ => hl.trans) fun ℓ'' r hl' => ?_
    cases r <;> exact hl.trans hl'

variable [Nonempty W]

theorem Polite.keeps {p : Program W J α} (h : S.Polite p) : Keeps hS t p := by
  induction h with
  | done a => exact fun ℓ _ => Discipline.fine_done (.refl ℓ)
  | @await _ _ poll cancel next hpoll hcancel hnext ih =>
      change Keeps hS t ((Program.await poll cancel .done).bind next)
      refine Keeps.bind (fun ℓ hℓ => ?_) ih
      refine (fine_wait hℓ.not_writes hpoll hcancel (fun _ _ => True) (by intros; trivial)).mono
        (fun _ => id) ?_
      rintro ℓ' b rfl
      exact .learn ℓ _
  | holding hrelease hbody hk ihbody ihk =>
      refine Keeps.bind (fun ℓ hℓ => ?_) ihk
      exact (ihbody ℓ hℓ).holding hℓ.plain
        (fun ℓ' hl => ⟨ℓ', releases_unseen hrelease, hl⟩)
        fun ℓ' b hl => ⟨(hℓ.learns hl).plain, ℓ', releases_unseen hrelease, hl⟩
  | timeout hbody hk ihbody ihk =>
      refine Keeps.bind (fun ℓ hℓ => ?_) ihk
      exact (ihbody ℓ hℓ).timeout _ hℓ.plain (fun ℓ' hl => ⟨hℓ.learns hl, hl, hl⟩)
        fun ℓ' b hl => ⟨(hℓ.learns hl).plain, hl⟩
  | iterate hbody hk ihbody ihk => exact Keeps.bind (.iterate ihbody) ihk
  | start hjob hk ih =>
      exact Keeps.bind (fun ℓ hℓ => Discipline.fine_start hℓ.plain hjob fun _ => .refl ℓ) ih
  | stop hk ih =>
      exact Keeps.bind (fun ℓ hℓ => Discipline.fine_stop hℓ.plain (.refl ℓ)) fun _ => ih
  | send hk ih =>
      exact Keeps.bind (fun ℓ hℓ => (fine_send _ hℓ.1).mono (fun _ => id) fun _ _ => And.left) ih
  | notify hk ih => exact Keeps.bind (fun ℓ hℓ => fine_notify _ _ hℓ.1) ih
  | request hk ih =>
      exact Keeps.bind (fun ℓ hℓ => (fine_request _ _ hℓ.1 hℓ.2).mono (fun _ => id)
        fun _ _ => And.left) ih
  | close hk ih =>
      exact Keeps.bind (fun ℓ hℓ => (fine_close hℓ.1).mono (fun _ => id) fun _ _ => And.left)
        fun _ => ih

/-! ## The task that reads -/

omit [Nonempty W] in
/-- A response comes to the request that waits for it, if there is one. -/
theorem Holds.complete (h : S.Holds past g w) (hS : S.Lawful) {id : Int} {outcome : RpcOutcome}
    (hbefore : m.before = w)
    (hafter : m.after = HasWiring.modify
      (·.complete S.link id (outcome.mapError RpcError.toClientError)) w)
    (hm : S.Answers id outcome m) :
    S.Holds (past ++ [m]) g
      (HasWiring.modify (·.complete S.link id (outcome.mapError RpcError.toClientError)) w) := by
  cases hl : (S.state w).pending.lookup id with
  | none =>
      have hsame : HasWiring.modify
          (·.complete S.link id (outcome.mapError RpcError.toClientError)) w = w :=
        HasWiring.modify_of_eq (Wiring.complete_of_none hl _)
      rw [hsame] at hafter ⊢
      exact h.mark_same (by rw [hbefore]) (by rw [hafter])
  | some promise =>
      have hmem : (id, promise) ∈ (S.state w).pending := by
        obtain ⟨l₁, l₂, heq, -⟩ := List.lookup_eq_some_iff.1 hl
        simp [heq]
      have hlink : (((HasWiring.wiring w).updateLink S.link (·.forget id)).keep promise
          (outcome.mapError RpcError.toClientError)).link S.link = (S.state w).forget id :=
        state_updateLink h.present (·.forget id)
      have hworld : HasWiring.modify
          (·.complete S.link id (outcome.mapError RpcError.toClientError)) w = _ :=
        congrArg (HasWiring.setWiring · w) (Wiring.complete_of_some hl _)
      rw [hworld] at hafter ⊢
      rw [← Function.update_eq_self 0 g]
      refine h.rewire hS hbefore (.inr hafter) (isSome_updateLink h.present _) ?_ ?_ ?_ ?_ rfl
        fun later => h.knows 0 _
      all_goals rw [hlink]
      · rfl
      · exact .of_subset rfl (fun hc => hc) (fun hc => hc) fun e he => (Books.mem_forget.1 he).1
      · rw [Function.update_eq_self]
        exact h.writing.same [m] (.inr rfl) .rfl rfl fun ht => ht
      · rw [Function.update_eq_self]
        refine h.books.settle (o := outcome.mapError RpcError.toClientError) List.filter_sublist rfl
          (Wiring.length_keep ..) (fun e he => ?_)
          (fun p o ho => Wiring.outcome_keep_of_some ho _) fun e he hgone => ?_
        · obtain ⟨he, hne⟩ := Books.mem_forget.1 he
          refine Wiring.outcome_keep_ne (fun hp => hne ?_) _
          exact congrArg Prod.fst (h.books.eq_of_snd he hmem hp)
        · have hid : e.1 = id := by
            by_contra hne
            exact hgone (Books.mem_forget.2 ⟨he, hne⟩)
          obtain rfl : e = (id, promise) := h.books.eq_of_fst he hmem hid
          refine ⟨?_, ⟨promise, by rwa [hbefore]⟩, .inl ⟨outcome, hm, rfl⟩⟩
          have hkept := Wiring.outcome_keep_same (w := HasWiring.wiring w) (h.books.lt_length he)
            (outcome.mapError RpcError.toClientError)
          rw [h.books.unkept he] at hkept
          exact hkept

section Accept

variable {body : Text}

omit [LawfulWiring W] [Nonempty W] in
theorem accept_number {id : Int} {outcome : RpcOutcome}
    (h : IncomingMessage.parse body = .ok (.response (.number id) outcome)) :
    Link.accept S.handler S.job S.link body = Program.modify (HasWiring.modify
      (·.complete S.link id (outcome.mapError RpcError.toClientError))) := by
  unfold Link.accept
  rw [h]

omit [LawfulWiring W] [Nonempty W] in
theorem accept_string {id : String} {outcome : RpcOutcome}
    (h : IncomingMessage.parse body = .ok (.response (.string id) outcome)) :
    Link.accept S.handler S.job S.link body = .done () := by
  unfold Link.accept
  rw [h]
  rfl

omit [LawfulWiring W] [Nonempty W] in
theorem accept_error {e : ClientError} (h : IncomingMessage.parse body = .error e) :
    Link.accept S.handler S.job S.link body = .done () := by
  unfold Link.accept
  rw [h]
  rfl

theorem keeps_number {id : Int} {outcome : RpcOutcome}
    (h : IncomingMessage.parse body = .ok (.response (.number id) outcome)) :
    Keeps hS t (Link.accept S.handler S.job S.link body) := by
  rw [accept_number h]
  intro ℓ hℓ
  refine fine_act hℓ.not_writes (fun w => ?_) ?_
  · rw [HasWiring.wiring_modify]
    exact Wiring.carried_complete ..
  · intro γ k past g w hg hw
    obtain rfl := hg
    refine ⟨g t, ?_, .refl _⟩
    rw [Function.update_eq_self]
    have hm (u : W) : S.Answers id outcome (.asks t ((Link.accept S.handler S.job S.link
        body).bind k) w u) := ⟨t, body, γ, k, w, u, rfl, h⟩
    rw [accept_number h] at hm
    exact hw.complete hS rfl rfl (hm _)

/-- Whatever a frame holds, the task that reads it is where it was. -/
theorem keeps_accept (body : Text) : Keeps hS t (Link.accept S.handler S.job S.link body) := by
  cases hparse : IncomingMessage.parse body with
  | error e =>
      rw [accept_error hparse]
      exact fun ℓ _ => Discipline.fine_done (.refl ℓ)
  | ok message =>
      match message with
      | .response (.number id) outcome => exact keeps_number hparse
      | .response (.string id) outcome =>
          rw [accept_string hparse]
          exact fun ℓ _ => Discipline.fine_done (.refl ℓ)
      | .notification method params =>
          have haccept : Link.accept S.handler S.job S.link body =
              S.handler.onNotification method params := by
            unfold Link.accept
            rw [hparse]
          rw [haccept]
          exact (hS.onNotification method params).keeps
      | .request id method params =>
          have haccept : Link.accept S.handler S.job S.link body =
              (Program.start (S.job id method params)).bind fun _ => .done () := by
            unfold Link.accept
            rw [hparse]
            rfl
          rw [haccept]
          refine Keeps.bind (fun ℓ hℓ => ?_) fun _ ℓ _ => Discipline.fine_done (.refl ℓ)
          exact Discipline.fine_start hℓ.plain (hS.answer id method params) fun _ => .refl ℓ

end Accept

theorem keeps_receive : Keeps hS t (Program.receive S.input) := by
  intro ℓ hℓ
  refine (fine_wait hℓ.not_writes (fun s w => ?_) (fun _ => Unseen.refl) (fun _ _ => True)
    (by intros; trivial)).mono (fun _ => id) ?_
  · have htakes := Wiring.takes_receive (HasWiring.wiring w) S.input S.output s
    exact (unseen_setWiring (hS.reports_setWiring _ w) (by rfl) (by rfl) (by rfl) htakes).toAside
  · rintro ℓ' b rfl
    exact .learn ℓ _

theorem keeps_readStep (inbox : Inbox) :
    Keeps hS t (Link.readStep S.handler S.job S.link S.input inbox) := by
  have hdone (r : Inbox ⊕ ClientError) : Keeps hS t (.done r : Program W J _) :=
    fun ℓ _ => Discipline.fine_done (.refl ℓ)
  unfold Link.readStep
  split
  · refine Keeps.bind keeps_receive fun bytes => ?_
    cases bytes <;> exact hdone _
  · exact hdone _
  · exact hdone _
  · exact Keeps.bind (keeps_accept _) fun _ => hdone _

/-! ## The end of the stream -/

/-- When the stream has ended, the link is closed for good. -/
theorem fine_hangUp (hℓ : ℓ.Rests) :
    (S.discipline hS).Fine t (Local.Learns ℓ)
      (fun ℓ' _ => ℓ' = ℓ.learn fun past => ∃ m ∈ past, S.Ends m ∧
        ((S.state m.before).closing = true → (S.state m.after).closing = true)) ℓ
      (.modify (HasWiring.modify (hangUp S.link))) := by
  refine fine_act hℓ.not_writes (fun w => ?_) ?_
  · rw [HasWiring.wiring_modify]
    unfold hangUp
    rw [Wiring.failPending_eq]
    exact Wiring.carried_of_traffic (Wiring.keepAll_rest ..).2.2 _
  · intro γ k past g w hg h
    obtain rfl := hg
    have hlink := state_updateLink h.present fun x => { x with connected := false }
    have hpresent := isSome_updateLink h.present fun x => { x with connected := false }
    refine ⟨_, ?_, rfl⟩
    refine h.failAll hS rfl rfl hpresent rfl rfl rfl (by rw [hlink]; rfl)
      (fun _ => by rw [hlink]) (fun id hid => ?_) (.learn _ _) fun later => ⟨h.knows t _, ?_⟩
    · exact ⟨hid, .inr (.inl ⟨⟨t, γ, k, w, _, rfl⟩, rfl⟩)⟩
    · refine ⟨_, List.mem_append_right _ List.mem_cons_self, ⟨t, γ, k, w, _, rfl⟩, fun hc => ?_⟩
      have hstate := state_failPending (S := S) ((HasWiring.wiring w).updateLink S.link fun x =>
        { x with connected := false }) "Server closed connection" w
      refine (congrArg Link.closing hstate).trans ?_
      rw [hlink]
      exact hc

/-- The handler is told of the end that the task has found. -/
theorem fine_note (e : ClientError) (hℓ : ℓ.Rests) (hquiet : ℓ.quiet = true)
    (hends : ∀ past, ℓ.knows past → ∃ m ∈ past, S.Ends m ∧ (S.state m.before).closing = false) :
    (S.discipline hS).Fine t (Local.Learns ℓ) (fun ℓ' _ => ℓ' = { ℓ with quiet := false }) ℓ
      (.modify (S.note e)) := by
  refine fine_act hℓ.not_writes (fun w => by rw [hS.wiring_note]) ?_
  intro γ k past g w hg h
  obtain rfl := hg
  refine ⟨_, ?_, rfl⟩
  have hwiring := hS.wiring_note e w
  have hstate : S.state (S.note e w) = S.state w := by
    unfold state
    rw [hwiring]
  refine h.next rfl (.inr rfl) (by rw [hstate]; exact .refl _) (by rw [hwiring]; exact h.present)
    (by rw [hstate]) ?_ ?_ ?_ fun later => h.knows t _
  · rw [hstate, hwiring, Function.update_eq_self]
    exact h.writing.same _ (.inr rfl) .rfl rfl id
  · rw [hstate, hwiring, Function.update_eq_self]
    exact h.books.same _ rfl rfl (Nat.le_refl _) (fun _ _ => rfl) fun _ _ => id
  · have hnone (u : TaskId) : update (fun t => (g t).quiet) t false u = false := by
      by_cases hu : u = t
      · simp [hu]
      · rw [Function.update_of_ne hu, Bool.eq_false_iff]
        exact fun hq => hu (h.reading.unique hq hquiet)
    refine ⟨fun hu => ?_, fun hu => ?_, fun _ => ?_⟩
    · simp [hnone] at hu
    · simp [hnone] at hu
    · obtain ⟨m, hm, he⟩ := hends past (by simpa using h.knows t [])
      refine ⟨?_, m, List.mem_append_left _ hm, he⟩
      rw [hS.reports_note, h.reading.silent hquiet]
      rfl

theorem fine_onDisconnect (e : ClientError) (hℓ : ℓ.Rests) (hquiet : ℓ.quiet = true)
    (hends : ∀ past, ℓ.knows past → ∃ m ∈ past, S.Ends m ∧ (S.state m.before).closing = false) :
    (S.discipline hS).Fine t Local.Rests (fun ℓ' _ => Local.Rests ℓ') ℓ
      (S.handler.onDisconnect e) := by
  rcases hS.onDisconnect e with h | ⟨k, hk, h⟩
  · exact (h.keeps ℓ hℓ).mono (fun _ => hℓ.learns) fun _ _ => hℓ.learns
  · rw [hk]
    refine Discipline.Fine.bind ((fine_note e hℓ hquiet hends).mono (fun _ => hℓ.learns)
      fun _ _ => id) fun ℓ' _ h' => ?_
    subst h'
    have hℓ' : Local.Rests { ℓ with quiet := false } := hℓ
    exact (h.keeps _ hℓ').mono (fun _ => hℓ'.learns) fun _ _ => hℓ'.learns

/-- The task that reads, from beginning to end. -/
theorem fine_readAll (hℓ : ℓ.Rests) (hquiet : ℓ.quiet = true) :
    (S.discipline hS).Fine t Local.Rests (fun ℓ' _ => Local.Rests ℓ') ℓ
      (Link.readAll S.handler S.job S.link) := by
  have hinput : (S.discipline hS).Fine t (Local.Learns ℓ) (fun ℓ' p => ℓ' = ℓ ∧ p = S.input) ℓ
      (.read fun w => ((HasWiring.wiring w).link S.link).input) := by
    refine fine_act hℓ.not_writes (fun _ => rfl) ?_
    intro γ k past g w hg h
    obtain rfl := hg
    refine ⟨g t, ?_, rfl, h.input_eq⟩
    rw [Function.update_eq_self]
    exact h.mark_same rfl rfl
  refine Discipline.Fine.bind (hinput.mono (fun _ => hℓ.learns) fun _ _ => id) fun ℓ₀ p h₀ => ?_
  obtain ⟨rfl, rfl⟩ := h₀
  have hrelease {ℓ' : Local W J} : (S.discipline hS).Releases t
      (HasWiring.modify (·.closeReader S.input)) ℓ' ℓ' :=
    releases_unseen fun w => unseen_setWiring (hS.reports_setWiring _ w) rfl rfl rfl
      (Wiring.takes_closeReader hS.input_ne)
  have hbody : (S.discipline hS).Fine t Local.Rests (fun ℓ' _ => Local.Rests ℓ') ℓ₀
      ((Program.iterate (Inbox.mk [] false)
        (Link.readStep S.handler S.job S.link S.input)).bind fun reason =>
          (Program.modify (HasWiring.modify (hangUp S.link))).bind fun _ =>
            (Program.read fun w => ((HasWiring.wiring w).link S.link).closing).bind fun closing =>
              if closing then .done () else S.handler.onDisconnect reason) := by
    refine Discipline.Fine.bind ((Keeps.iterate keeps_readStep ℓ₀ hℓ).mono (fun _ => hℓ.learns)
      fun _ _ => id) fun ℓ₁ reason h₁ => ?_
    have hℓ₁ := hℓ.learns h₁
    refine Discipline.Fine.bind ((fine_hangUp hℓ₁).mono (fun _ => hℓ₁.learns) fun _ _ => id)
      fun ℓ₂ _ h₂ => ?_
    subst h₂
    set ℓ₂ := ℓ₁.learn fun past => ∃ m ∈ past, S.Ends m ∧
      ((S.state m.before).closing = true → (S.state m.after).closing = true) with hdef
    have hℓ₂ : ℓ₂.Rests := hℓ₁
    have hread : (S.discipline hS).Fine t _ _ ℓ₂
        (.read fun w => ((HasWiring.wiring w).link S.link).closing) :=
      fine_read _ (fun closing past => closing = false →
        ∃ m ∈ past, S.Ends m ∧ (S.state m.before).closing = false) hℓ₂.not_writes ?_
    · refine Discipline.Fine.bind (hread.mono (fun _ => hℓ₂.learns) fun _ _ => id)
        fun ℓ₃ closing h₃ => ?_
      subst h₃
      cases closing with
      | true => exact Discipline.fine_done hℓ₂
      | false =>
          exact fine_onDisconnect reason hℓ₂ (h₁.quiet_eq.trans hquiet)
            fun past hpast => hpast.2 rfl
    · intro γ k past g w hg h later hc
      have hknows := h.knows t []
      rw [hg, List.append_nil] at hknows
      obtain ⟨m, hm, hends, hclosing⟩ := hknows.2
      refine ⟨m, List.mem_append_left _ hm, hends, ?_⟩
      rw [← Bool.not_eq_true]
      exact fun hbefore => absurd ((h.onward m hm).closing (hclosing hbefore)) (by
        rw [Bool.not_eq_true]
        exact hc)
  exact hbody.holding hℓ.plain (fun ℓ' hl => ⟨ℓ', hrelease, hl⟩)
    fun ℓ' _ hl => ⟨hl.plain, ℓ', hrelease, hl⟩

end Link.Setting

end LanguageClient
