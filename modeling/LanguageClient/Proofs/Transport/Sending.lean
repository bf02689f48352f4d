import LanguageClient.Proofs.Task.Solo
import LanguageClient.Proofs.Transport.Conduct
namespace LanguageClient

/-!
# Sending

Messages are sent with the lock in hand. Given up, a task gives the lock back with what it had
written of its frame.
-/

open Function (update)

namespace Lock

theorem owner_acquire_of_eq_some {l : Lock} {t : TaskId} (h : (l.acquire t).2 = some ()) :
    (l.acquire t).1.owner = .taken := by
  unfold acquire at h ⊢
  cases ho : l.owner with
  | nobody => rfl
  | promised u =>
      by_cases hu : u = t
      · simp [hu]
      · simp [ho, hu] at h
  | taken => simp [ho] at h

theorem owner_giveUp_iff (l : Lock) (t : TaskId) :
    (l.giveUp t).1.owner = .taken ↔ l.owner = .taken := by
  unfold giveUp
  split
  · next h => simp [owner_release_ne_taken, h]
  · rfl

end Lock

namespace Link.Setting

variable {W J : Type} [HasWiring W] [LawfulWiring W] {S : Setting W J} {hS : S.Lawful}
  {past : List (Moment W J)} {g : TaskId → Local W J} {w u : W} {t : TaskId} {ℓ ℓ' : Local W J}
  {m : Moment W J} {α : Type}

/-! ## The lock -/

/-- The link with another lock. -/
theorem wiring_writeLock (l : LinkId) (lock : Lock) (w : W) :
    HasWiring.wiring ((writingLock l).write lock w) =
      (HasWiring.wiring w).updateLink l fun link => { link with writing := lock } :=
  HasWiring.wiring_modify (·.updateLink l fun link => { link with writing := lock }) w

theorem Holds.state_writeLock (h : S.Holds past g w) (lock : Lock) :
    S.state ((writingLock S.link).write lock w) = { S.state w with writing := lock } := by
  unfold state
  rw [wiring_writeLock, state_updateLink h.present]

omit [LawfulWiring W] in
theorem reports_writeLock (hS : S.Lawful) (l : LinkId) (lock : Lock) (w : W) :
    S.reports ((writingLock l).write lock w) = S.reports w :=
  hS.reports_setWiring ..

theorem onward_writing (x : Link) (lock : Lock) : Link.Onward x { x with writing := lock } :=
  .of_subset rfl id id (List.Subset.refl _)

/-- A task has taken the lock. -/
theorem Holds.takeLock (h : S.Holds past g w) (hS : S.Lawful) {lock : Lock}
    (hbefore : m.before = w) (hafter : m.after = (writingLock S.link).write lock w)
    (hfree : (S.state w).writing.owner ≠ .taken) (hlock : lock.owner = .taken) :
    S.Holds (past ++ [m]) (update g t { g t with hand := .holds })
      ((writingLock S.link).write lock w) := by
  refine h.rewire hS hbefore (.inr hafter) (isSome_updateLink h.present _) ?_ ?_ ?_ ?_ rfl
    fun later => h.knows t _
  all_goals rw [state_updateLink h.present]
  · rfl
  · exact onward_writing ..
  · exact (h.writing.take [m] hfree hlock).congr rfl rfl
  · rw [Function.update_eq_self]
    exact h.books.same [m] rfl rfl (Nat.le_refl _) (fun _ _ => rfl) fun _ _ => id

/-- A task waits in line for the lock, or does not wait any more. -/
theorem Holds.lineUp (h : S.Holds past g w) (hS : S.Lawful) {lock : Lock}
    (hbefore : m.before = w) (hafter : m.after = w ∨ m.after = (writingLock S.link).write lock w)
    (howner : lock.owner = .taken ↔ (S.state w).writing.owner = .taken) :
    S.Holds (past ++ [m]) (update g t (g t)) ((writingLock S.link).write lock w) := by
  refine h.rewire hS hbefore hafter (isSome_updateLink h.present _) ?_ ?_ ?_ ?_ rfl
    fun later => h.knows t _
  all_goals rw [state_updateLink h.present]
  · rfl
  · exact onward_writing ..
  · rw [Function.update_eq_self]
    exact h.writing.same [m] (.inr rfl) howner rfl id
  · rw [Function.update_eq_self]
    exact h.books.same [m] rfl rfl (Nat.le_refl _) (fun _ _ => rfl) fun _ _ => id

theorem view_writeLock (lock : Lock) (w : W) :
    (S.discipline hS).view ((writingLock S.link).write lock w) = (S.discipline hS).view w := by
  have hw := wiring_writeLock S.link lock w
  exact Prod.ext (congrArg (·.carried S.output) hw) (congrArg (·.takes S.output) hw)

theorem releases_writingLock (hℓ : ℓ.hand = .holds) :
    (S.discipline hS).Releases t (writingLock S.link).release ℓ { ℓ with hand := .away } where
  holds {past g w} hg h := by
    have h : S.Holds past g w := h
    obtain rfl := hg
    refine (S.discipline hS).holds_agenda (·.wakeAll _) ?_
    refine h.released (u := (writingLock S.link).write _ w) ?_ ?_ ?_ ?_ ?_ ?_ id
    · rw [h.state_writeLock]
      exact onward_writing ..
    · rw [wiring_writeLock]
      exact isSome_updateLink h.present _
    · rw [h.state_writeLock]
    · rw [h.state_writeLock, wiring_writeLock]
      exact (h.writing.give hℓ (Lock.owner_release_ne_taken _)).congr rfl rfl
    · rw [h.state_writeLock, wiring_writeLock, Function.update_eq_self]
      exact h.books.congr rfl rfl rfl
    · rw [Function.update_eq_self]
      exact h.reading.congr (reports_writeLock hS ..)
  view_eq w := ((S.discipline hS).view_agenda _ (·.wakeAll _)).trans (view_writeLock _ w)

variable [Nonempty W]

/-- What a task does with the lock in hand. -/
theorem fine_locked {p : Program W J α} {post : Local W J → α → Prop} (hℓ : ℓ.hand = .away)
    (hp : (S.discipline hS).Fine t (Local.Learns { ℓ with hand := .holds })
      (fun ℓ' a => ℓ'.hand = .holds ∧ post { ℓ' with hand := .away } a)
      { ℓ with hand := .holds } p) :
    (S.discipline hS).Fine t (Local.Learns ℓ) post ℓ (.locked (writingLock S.link) p) := by
  have hwrites {ℓ' : Local W J} (h : ℓ'.hand = .holds) : ¬ ℓ'.Writes := by
    rintro ⟨m, rest, hm⟩
    rw [h] at hm
    exact nomatch hm
  have hacquire : (S.discipline hS).Fine t (Local.Learns ℓ)
      (fun ℓ' _ => ℓ' = { ℓ with hand := .holds }) ℓ
      (.await (writingLock S.link).acquire (writingLock S.link).giveUp .done) := by
    refine Discipline.fine_await (shows_await ?_ ?_) (fun k => ⟨?_, ?_⟩) fun k => ⟨?_, ?_⟩
    · rintro ⟨m, rest, hm⟩
      rw [hℓ] at hm
      exact nomatch hm
    · intro s w
      exact congrArg (·.carried S.output) (wiring_writeLock S.link _ w)
    · intro past g w u b hg h hp
      have h : S.Holds past g w := h
      obtain ⟨rfl, hsome⟩ := Prod.mk.inj hp
      obtain rfl := hg
      refine ⟨_, h.takeLock hS rfl rfl ?_ ?_, rfl⟩
      · rcases (Lock.acquire_eq_some_iff _ t).1 hsome with ho | ho <;>
          exact fun htaken => nomatch ho.symm.trans htaken
      · exact Lock.owner_acquire_of_eq_some hsome
    · intro past g w u hg h hp
      have h : S.Holds past g w := h
      obtain ⟨rfl, hnone⟩ := Prod.mk.inj hp
      rw [← Function.update_eq_self t g]
      refine h.lineUp hS rfl (.inr rfl) ?_
      rw [Lock.owner_acquire_of_eq_none hnone]
      rfl
    · intro past g w hg h
      have h : S.Holds past g w := h
      obtain rfl := hg
      refine ⟨g t, ?_, .refl _⟩
      refine (S.discipline hS).holds_agenda (·.wakeAll _) ?_
      exact h.lineUp hS rfl (.inl rfl) (Lock.owner_giveUp_iff _ t)
    · intro w
      exact ((S.discipline hS).view_agenda _ (·.wakeAll _)).trans (view_writeLock _ w)
  refine hacquire.bind fun ℓ₁ _ h₁ => ?_
  subst h₁
  refine hp.holding (plain_of_not_writes (hwrites rfl)) (fun ℓ' hl => ?_) fun ℓ' a h => ?_
  · refine ⟨_, releases_writingLock hl.hand_eq, ?_⟩
    exact ⟨hℓ.symm, hl.stake_eq, hl.quiet_eq, hl.knows⟩
  · exact ⟨plain_of_not_writes (hwrites h.1), _, releases_writingLock h.1, h.2⟩

/-! ## Writing a frame -/

omit [Nonempty W] in
/-- Something has happened on the output, and a task has gone on writing or stopped. -/
theorem Holds.offered (h : S.Holds past g w) (hS : S.Lawful) {v : Wiring}
    (hlinks : v.links = (HasWiring.wiring w).links)
    (hpromises : v.promises = (HasWiring.wiring w).promises) (hbefore : m.before = w)
    (hafter : m.after = HasWiring.setWiring v w)
    (hwriting : S.Writing (past ++ [m]) (update (fun t => (g t).hand) t ℓ.hand) (S.state w) v)
    (hstake : ℓ.stake = (g t).stake) (hquiet : ℓ.quiet = (g t).quiet)
    (hknows : ∀ later, ℓ.knows (past ++ m :: later)) :
    S.Holds (past ++ [m]) (update g t ℓ) (HasWiring.setWiring v w) := by
  have hlink : v.link S.link = S.state w := by
    unfold Wiring.link
    rw [hlinks]
    rfl
  refine h.rewire hS hbefore (.inr hafter) (hlinks ▸ h.present) (by rw [hlink])
    (by rw [hlink]; exact .refl _) (by rwa [hlink]) ?_ hquiet hknows
  rw [hlink, hstake, Function.update_eq_self]
  exact (h.books.same [m] rfl rfl (Nat.le_refl _) (fun _ _ => rfl) fun _ _ => id).congr rfl rfl
    hpromises

omit [Nonempty W] in
/-- What an offer to the output leaves of the rest of a frame. -/
theorem fine_offering {out : OutgoingMessage} {rest : Bytes} (hℓ : ℓ.hand = .writes out rest)
    (hrest : rest ≠ []) :
    (S.discipline hS).Fine t (Local.Learns { ℓ with hand := .holds })
      (fun ℓ' r => match r with
        | .inl rest' => rest' ≠ [] ∧ ℓ' = { ℓ with hand := .writes out rest' }
        | .inr r => Local.Learns { ℓ with hand := .holds } ℓ' ∧
          ∀ e, r = .error e → ∀ past, ℓ'.knows past → ∃ m ∈ past, S.Misses t e m)
      ℓ (.await (Program.offering S.output rest) (fun _ w => w) .done) := by
  refine Discipline.fine_await ?_ (fun k => ⟨?_, ?_⟩) fun k => ⟨?_, fun _ => rfl⟩
  · refine ⟨fun rest' _ => ⟨out, rest, hℓ⟩, fun out' rest' h => .inr (.inl ?_)⟩
    obtain ⟨rfl, rfl⟩ := Hand.writes.inj (hℓ.symm.trans h)
    exact ⟨hrest, _, _, rfl⟩
  · intro past (g : TaskId → Local W J) w u b hg h hp
    have h : S.Holds past g w := h
    obtain rfl := hg
    rcases ho : (HasWiring.wiring w).offer S.output rest t with ⟨v, answer⟩
    obtain ⟨hlinks, hpromises, htakes, hanswer⟩ := Wiring.offer_spec ho
    simp only [Program.offering, HasWiring.visit, ho, Prod.mk.injEq] at hp
    obtain ⟨rfl, hb⟩ := hp
    cases answer with
    | waits => exact nomatch hb
    | broken =>
        obtain rfl := Option.some.inj hb
        refine ⟨Local.learn { g t with hand := .holds } fun past => ∃ m ∈ past,
            S.Misses t (.transfer "broken pipe") m, ?_, ?_⟩
        · refine h.offered hS hlinks hpromises rfl rfl ?_ rfl rfl fun later => ⟨h.knows t _, ?_⟩
          · refine (h.writing.stops _ hℓ fun _ => .inl hanswer.1).congr ?_ (htakes _)
            exact Wiring.carried_of_traffic hanswer.2 _
          · exact ⟨_, List.mem_append_right _ List.mem_cons_self, _, _, _, _, rfl,
              .inr ⟨⟨rest, hrest, _, _, rfl⟩, hanswer.1, rfl⟩⟩
        · refine ⟨.learn _ _, ?_⟩
          rintro e ⟨⟩ past hpast
          exact hpast.2
    | took taken left =>
        obtain ⟨htake, hsplit, htraffic⟩ := hanswer
        have hcarried := Wiring.carried_of_traffic_append htraffic S.output
        rw [if_pos rfl] at hcarried
        cases left with
        | nil =>
            obtain rfl := Option.some.inj hb
            rw [List.append_nil] at hsplit
            subst hsplit
            refine ⟨{ g t with hand := .holds }, ?_, .refl _, fun e he => nomatch he⟩
            refine h.offered hS hlinks hpromises rfl rfl ?_ rfl rfl fun later => h.knows t _
            exact h.writing.finishes _ hℓ htake hcarried
        | cons x left =>
            obtain rfl := Option.some.inj hb
            refine ⟨{ g t with hand := .writes out (x :: left) }, ?_, by simp, rfl⟩
            refine h.offered hS hlinks hpromises rfl rfl ?_ rfl rfl fun later => h.knows t _
            exact h.writing.writes _ (hsplit ▸ hℓ) htake hcarried
  · intro past (g : TaskId → Local W J) w u hg h hp
    have h : S.Holds past g w := h
    obtain rfl := hg
    rcases ho : (HasWiring.wiring w).offer S.output rest t with ⟨v, answer⟩
    obtain ⟨hlinks, hpromises, htakes, hanswer⟩ := Wiring.offer_spec ho
    simp only [Program.offering, HasWiring.visit, ho, Prod.mk.injEq] at hp
    obtain ⟨rfl, hb⟩ := hp
    have htraffic : v.traffic = (HasWiring.wiring w).traffic := by
      cases answer with
      | broken => exact nomatch hb
      | waits => exact hanswer.2
      | took taken left => cases left <;> exact nomatch hb
    suffices hsame : S.Holds _ (update g t (g t)) _ by
      rw [Function.update_eq_self] at hsame
      exact hsame
    refine h.offered hS hlinks hpromises rfl rfl ?_ rfl rfl fun later => h.knows t _
    rw [Function.update_eq_self]
    exact h.writing.same _ (.inr rfl) .rfl (Wiring.carried_of_traffic htraffic _)
      fun ht => by rwa [htakes] at ht
  · intro past (g : TaskId → Local W J) w hg h
    have h : S.Holds past g w := h
    obtain rfl := hg
    refine ⟨{ g t with hand := .holds }, ?_, .refl _⟩
    refine h.next rfl (.inl rfl) (.refl _) h.present rfl ?_ ?_ ?_ fun later => h.knows t _
    · refine h.writing.stops _ hℓ fun hcut => ?_
      have hnot := hcut _ (List.mem_append_right _ (List.mem_singleton_self _))
      by_contra hboth
      rw [not_or, Bool.not_eq_false] at hboth
      exact hnot ⟨⟨rest, hrest, _, _, rfl⟩, hboth⟩
    · rw [Function.update_eq_self]
      exact h.books.same _ rfl rfl (Nat.le_refl _) (fun _ _ => rfl) fun _ _ => id
    · rw [Function.update_eq_self]
      exact h.reading.same _ rfl

omit [Nonempty W] in
/-- A frame is written, or part of it until the output breaks. -/
theorem fine_write {out : OutgoingMessage} (hℓ : ℓ.hand = .writes out out.frame) :
    (S.discipline hS).Fine t (Local.Learns { ℓ with hand := .holds })
      (fun ℓ' r => Local.Learns { ℓ with hand := .holds } ℓ' ∧
        ∀ e, r = .error e → ∀ past, ℓ'.knows past → ∃ m ∈ past, S.Misses t e m)
      ℓ (Program.write S.output out.frame) := by
  rw [Program.write_eq]
  refine Discipline.fine_iterate (D := S.discipline hS)
    (fun ℓ' rest (h : rest ≠ [] ∧ ℓ' = { ℓ with hand := .writes out rest }) => ?_)
    (fun ℓ' rest h => ?_) ⟨out.frame_ne_nil, ?_⟩
  · obtain ⟨hrest, rfl⟩ := h
    refine ⟨fun rest' ⟨_, _, _, h⟩ => (nomatch h), fun out' rest' h => .inr (.inr ⟨.done, ?_⟩)⟩
    obtain ⟨rfl, rfl⟩ := Hand.writes.inj h
    rw [Program.bind_done]
    rfl
  · obtain ⟨hrest, rfl⟩ := h
    refine (fine_offering (S := S) (ℓ := { ℓ with hand := .writes out rest }) rfl hrest).mono
      (fun _ => id) fun ℓ' r h => ?_
    cases r <;> exact h
  · rw [← hℓ]

/-! ## Messages -/

/-- With the lock in hand a task finds where to write, and has the whole frame to write. -/
theorem fine_readOutput (out : OutgoingMessage) (hℓ : ℓ.hand = .holds) :
    (S.discipline hS).Fine t (Local.Learns ℓ)
      (fun ℓ' o => o = none ∧ ℓ' = ℓ.learn (fun past => ∃ m ∈ past, S.Misses t closedError m) ∨
        o = some S.output ∧ ℓ' = { ℓ with hand := .writes out out.frame })
      ℓ (.read fun w => ((HasWiring.wiring w).link S.link).output) := by
  refine fine_act ?_ (fun _ => rfl) ?_
  · rintro ⟨m, rest, hm⟩
    rw [hℓ] at hm
    exact nomatch hm
  · intro γ k past g w hg h
    subst hg
    rcases h.writing.output with ho | ho
    · refine ⟨_, ?_, .inl ⟨ho, rfl⟩⟩
      refine h.mark rfl rfl (.learn _ _) fun later => ⟨h.knows t _, ?_⟩
      exact ⟨_, List.mem_append_right _ List.mem_cons_self, _, _, _, _, rfl,
        .inl ⟨⟨k, rfl⟩, ho, rfl⟩⟩
    · refine ⟨_, ?_, .inr ⟨ho, rfl⟩⟩
      refine h.next rfl (.inl rfl) (.refl _) h.present rfl ?_ ?_ ?_ fun later => h.knows t _
      · exact h.writing.begins _ out hℓ
      · rw [Function.update_eq_self]
        exact h.books.same _ rfl rfl (Nat.le_refl _) (fun _ _ => rfl) fun _ _ => id
      · rw [Function.update_eq_self]
        exact h.reading.same _ rfl

/-- A message is sent; if not, the link was closed or broken. -/
theorem fine_send (out : OutgoingMessage) (hℓ : ℓ.hand = .away) :
    (S.discipline hS).Fine t (Local.Learns ℓ)
      (fun ℓ' r => Local.Learns ℓ ℓ' ∧
        ∀ e, r = .error e → ∀ past, ℓ'.knows past → ∃ m ∈ past, S.Misses t e m)
      ℓ (Link.send S.link out) := by
  refine fine_locked hℓ ((fine_readOutput out rfl).bind fun ℓ₁ o h₁ => ?_)
  rcases h₁ with ⟨rfl, rfl⟩ | ⟨rfl, rfl⟩
  · refine Discipline.fine_done ⟨rfl, ?_, ?_⟩
    · exact ⟨hℓ.symm, rfl, rfl, And.left⟩
    · rintro e ⟨⟩ past hpast
      exact hpast.2
  · refine (fine_write (ℓ := { ℓ with hand := .writes out out.frame }) rfl).mono ?_ ?_
    · exact fun _ h => h
    · rintro ℓ' r ⟨hl, hr⟩
      exact ⟨hl.hand_eq, ⟨hℓ.symm, hl.stake_eq, hl.quiet_eq, hl.knows⟩, hr⟩

/-- The answer to whether the link is connected may be old when it comes to writing. -/
theorem fine_notify (method : String) (params : Json) (hℓ : ℓ.hand = .away) :
    (S.discipline hS).Fine t (Local.Learns ℓ) (fun ℓ' _ => Local.Learns ℓ ℓ') ℓ
      (Link.notify S.link method params) := by
  have hread : (S.discipline hS).Fine t _ _ ℓ
      (.read fun w => ((HasWiring.wiring w).link S.link).connected) :=
    fine_read _ (fun _ _ => True) (fun ⟨m, rest, hm⟩ => nomatch hℓ.symm.trans hm)
      (by intros; trivial)
  refine Discipline.Fine.bind hread fun ℓ₁ connected h₁ => ?_
  subst h₁
  cases connected with
  | true =>
      refine (fine_send (ℓ := ℓ.learn fun _ => True) _ hℓ).mono ?_ ?_
      · exact fun ℓ' hl => (Local.Learns.learn ℓ _).trans hl
      · exact fun ℓ' r h => (Local.Learns.learn ℓ _).trans h.1
  | false => exact Discipline.fine_done (.learn ℓ _)

end Link.Setting

end LanguageClient
