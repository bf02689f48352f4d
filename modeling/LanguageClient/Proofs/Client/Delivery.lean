import LanguageClient.Proofs.Client.Core
namespace LanguageClient

/-!
# Deliveries

What a client that runs solo writes when it tells a server something: the frame of one message.
-/

namespace Client

variable {E K : Type} {t : TaskId}

/-- On every link to the pipe, bytes are written as long as the pipe takes them. -/
def Delivers (p : PipeId) (bytes : Bytes) (r : Except ClientError Unit) (c c' : Client E) : Prop :=
  c'.core = c.core ∧ ∀ l, c.wiring.OnLine l p →
    c'.wiring.OnLine l p ∧ (c'.wiring.takes p → c.wiring.takes p ∧
      c'.wiring.carried p = c.wiring.carried p ++ bytes ∧ r = .ok ())

/-- One offer of a write, after all waits for room. -/
def Offers (p : PipeId) (bytes : Bytes) (c : Client E) (r : Bytes ⊕ Except ClientError Unit)
    (c' : Client E) : Prop :=
  c'.core = c.core ∧ ∀ l, c.wiring.OnLine l p →
    c'.wiring.OnLine l p ∧ (c'.wiring.takes p → c.wiring.takes p ∧
      match r with
      | .inl rest => ∃ taken, taken ++ rest = bytes ∧
          c'.wiring.carried p = c.wiring.carried p ++ taken
      | .inr r => c'.wiring.carried p = c.wiring.carried p ++ bytes ∧ r = .ok ())

theorem onLine_of_links {w v : Wiring} (h : v.links = w.links) {l : LinkId} {p : PipeId}
    (hl : w.OnLine l p) : v.OnLine l p := by
  unfold Wiring.OnLine Wiring.link at hl ⊢
  rwa [h]

theorem does_write (p : PipeId) (bytes : Bytes) :
    Program.Does Outside t (Program.write p bytes : Prog E K (Except ClientError Unit))
      fun c r c' => Delivers p bytes r c c' := by
  refine Program.does_iterate (Q := fun rest c r c' => Offers p rest c r c')
    (R := fun rest c r c' => Delivers p rest r c c') ?_ ?_ ?_ bytes
  · intro rest
    refine Program.does_await ?_ ?_
    · intro c r c' h
      rcases ho : c.wiring.offer p rest t with ⟨v, answer⟩
      obtain ⟨hlinks, _, htakes, hanswer⟩ := Wiring.offer_spec ho
      have hv : c' = { c with wiring := v } := by
        have h₁ := congrArg Prod.fst h
        simp only [HasWiring.visit, HasWiring.wiring, HasWiring.setWiring, ho] at h₁
        exact h₁.symm
      have hr := congrArg Prod.snd h
      simp only [HasWiring.visit, HasWiring.wiring, ho] at hr
      subst hv
      refine ⟨rfl, fun l hl => ⟨onLine_of_links hlinks hl, fun ht => ?_⟩⟩
      rw [htakes] at ht
      cases answer with
      | broken => simp [hanswer.1] at ht
      | waits => simp at hr
      | took taken left =>
          obtain ⟨_, hsplit, htraffic⟩ := hanswer
          have hcarried := Wiring.carried_of_traffic_append htraffic p
          rw [if_pos rfl] at hcarried
          cases left with
          | nil =>
              simp only [Option.some.injEq] at hr
              subst hr
              rw [List.append_nil] at hsplit
              exact ⟨ht, by rw [hcarried, hsplit], rfl⟩
          | cons x left =>
              simp only [Option.some.injEq] at hr
              subst hr
              exact ⟨ht, taken, hsplit, hcarried⟩
    · intro c u v r c' h hout hoffers
      rcases ho : c.wiring.offer p rest t with ⟨x, answer⟩
      obtain ⟨hlinks, _, htakes, hanswer⟩ := Wiring.offer_spec ho
      have hu : u = { c with wiring := x } := by
        have h₁ := congrArg Prod.fst h
        simp only [HasWiring.visit, HasWiring.wiring, HasWiring.setWiring, ho] at h₁
        exact h₁.symm
      have hr := congrArg Prod.snd h
      simp only [HasWiring.visit, HasWiring.wiring, ho] at hr
      subst hu
      have htraffic : x.traffic = c.wiring.traffic := by
        cases answer with
        | broken => simp at hr
        | waits => exact hanswer.2
        | took taken left => cases left <;> simp at hr
      refine ⟨hoffers.1.trans hout.core_eq, fun l hl => ?_⟩
      have hlu : x.OnLine l p := onLine_of_links hlinks hl
      have hlv : v.wiring.OnLine l p := onLine_of_links hout.unwritten.links hlu
      obtain ⟨hl', hrest⟩ := hoffers.2 l hlv
      refine ⟨hl', fun ht => ?_⟩
      obtain ⟨htv, hmatch⟩ := hrest ht
      have hcarried : v.wiring.carried p = c.wiring.carried p :=
        (hout.unwritten.carried hlu.2).trans (Wiring.carried_of_traffic htraffic p)
      rw [hcarried] at hmatch
      exact ⟨by rw [← htakes]; exact hout.unwritten.takes hlu.2 htv, hmatch⟩
  · intro rest c r c' h
    exact h
  · intro rest left c u r c' h hdelivers
    refine ⟨hdelivers.1.trans h.1, fun l hl => ?_⟩
    obtain ⟨hlu, hu⟩ := h.2 l hl
    obtain ⟨hl', hc'⟩ := hdelivers.2 l hlu
    refine ⟨hl', fun ht => ?_⟩
    obtain ⟨htu, hcarried', hok⟩ := hc' ht
    obtain ⟨htc, taken, hsplit, hcarried⟩ := hu htu
    exact ⟨htc, by rw [hcarried', hcarried, List.append_assoc, hsplit], hok⟩

/-! ## Messages -/

theorem link_updateLink (w : Wiring) (l r : LinkId) (f : Link → Link) :
    (w.updateLink l f).link r = w.link r ∨
      r = l ∧ (w.updateLink l f).link r = f (w.link l) :=
  Store.get_update w.links l r f

theorem onLine_updateWriting {w : Wiring} {l r : LinkId} {p : PipeId} (lock : Lock) :
    (w.updateLink r fun x => { x with writing := lock }).OnLine l p ↔ w.OnLine l p := by
  unfold Wiring.OnLine
  rcases link_updateLink w r l fun x => { x with writing := lock } with h | ⟨rfl, h⟩
  · rw [h]
  · rw [h]

theorem steady_writingLock (l : LinkId) :
    (Link.writingLock l : Lock.Place (Client E)).Steady Outside where
  read_outside h := congrArg Link.writing (h.unwritten.link_eq l)
  read_write lock c := by
    rcases link_updateLink c.wiring l l fun x => { x with writing := lock } with h | ⟨_, h⟩
    · exact .inr (congrArg Link.writing h)
    · exact .inl (congrArg Link.writing h)

theorem delivers_locked {l : LinkId} {p : PipeId} {bytes : Bytes} {r : Except ClientError Unit}
    {c u v : Client E} (hu : (Link.writingLock l).acquire t c = (u, some ()))
    (h : Delivers p bytes r u v) : Delivers p bytes r c ((Link.writingLock l).release v) := by
  have hu' : u = ((Link.writingLock l).acquire t c).1 := (congrArg Prod.fst hu).symm
  subst hu'
  refine ⟨h.1, fun r hr => ?_⟩
  obtain ⟨hv, hrest⟩ := h.2 r ((onLine_updateWriting _).2 hr)
  exact ⟨(onLine_updateWriting _).2 hv, hrest⟩

/-- What is done under the lock of the writer. -/
theorem does_writeOut (l : LinkId) (m : OutgoingMessage) : Program.Does Outside t
    ((Program.read fun w => ((HasWiring.wiring w).link l).output).bind fun output =>
      match output with
      | none => .done (.error Link.closedError)
      | some p => Program.write p m.frame : Prog E K (Except ClientError Unit)) fun c r c' =>
    c'.core = c.core ∧ ∀ p, c.wiring.OnLine l p → Delivers p m.frame r c c' := by
  refine ((Program.does_read _).bind (S := fun output c r c' =>
    c'.core = c.core ∧ ∀ p, output = some p → Delivers p m.frame r c c') fun output => ?_).mono ?_
  · cases output with
    | none =>
        refine (Program.does_done _).mono ?_
        rintro c r c' ⟨_, rfl⟩
        refine ⟨rfl, ?_⟩
        rintro p ⟨⟩
    | some q =>
        refine (does_write q _).mono ?_
        rintro c r c' h
        refine ⟨h.1, ?_⟩
        rintro p ⟨⟩
        exact h
  · rintro c r c' ⟨output, u, ⟨rfl, rfl⟩, hcore, hdelivers⟩
    exact ⟨hcore, fun p hp => hdelivers p hp.2⟩

theorem does_send (l : LinkId) (m : OutgoingMessage) :
    Program.Does Outside t (Link.send l m : Prog E K (Except ClientError Unit)) fun c r c' =>
      c'.core = c.core ∧ ∀ p, c.wiring.OnLine l p → Delivers p m.frame r c c' := by
  refine (Program.Does.locked (steady_writingLock l) (does_writeOut l m)).mono ?_
  rintro c r c' ⟨u, v, hu, ⟨hcore, hdelivers⟩, rfl⟩
  have hu' : u = ((Link.writingLock l).acquire t c).1 := (congrArg Prod.fst hu).symm
  refine ⟨hcore.trans (by rw [hu']; rfl), fun p hp => ?_⟩
  refine delivers_locked hu (hdelivers p ?_)
  rw [hu']
  exact (onLine_updateWriting _).2 hp

theorem does_notify (l : LinkId) (method : String) (params : Json) :
    Program.Does Outside t (Link.notify l method params : Prog E K (Except ClientError Unit))
      fun c r c' => c'.core = c.core ∧ ∀ p, c.wiring.OnLine l p →
        Delivers p (OutgoingMessage.notification method (some params)).frame r c c' := by
  refine ((Program.does_read _).bind (S := fun connected c r c' =>
    c'.core = c.core ∧ ∀ p, connected = true → c.wiring.OnLine l p →
      Delivers p (OutgoingMessage.notification method (some params)).frame r c c')
    fun connected => ?_).mono ?_
  · cases connected with
    | true =>
        refine (does_send l _).mono ?_
        rintro c r c' ⟨hcore, hdelivers⟩
        exact ⟨hcore, fun p _ => hdelivers p⟩
    | false =>
        refine (Program.does_done _).mono ?_
        rintro c r c' ⟨_, rfl⟩
        exact ⟨rfl, fun p hp => nomatch hp⟩
  · rintro c r c' ⟨connected, u, ⟨rfl, rfl⟩, hcore, hdelivers⟩
    exact ⟨hcore, fun p hp => hdelivers p hp.1 hp⟩

/-- What is noted is not written. -/
theorem does_noted (l : LinkId) (method : String) (params : Json) :
    Program.Does Outside t (Link.tell l method params : Prog E K (Except ClientError Unit))
      fun c r c' => c'.core = c.core ∧ ∀ p, c.wiring.OnLine l p →
        Delivers p (OutgoingMessage.notification method (some params)).frame r c c' := by
  refine ((Program.does_modify _).bind fun _ => does_notify l method params).mono ?_
  rintro c r c' ⟨_, u, rfl, hcore, hdelivers⟩
  exact ⟨hcore, hdelivers⟩

/-! ## Through the gate -/

/-- A crash is handled by a task of its own. -/
theorem does_report (a : Access) (f : Feature) (e : ClientError) :
    Program.Does Outside t (a.gate.report f e : Prog E K Unit) fun c _ c' => Idle c c' := by
  unfold Gate.report
  split
  · refine ((Program.does_read _).bind (S := fun _ c _ c' => Idle c c') fun there => ?_).mono ?_
    · cases there with
      | true =>
          refine ((Program.does_start _).bind fun _ => Program.does_done ()).mono ?_
          rintro c _ c' ⟨task, u, rfl, _, rfl⟩
          exact ⟨rfl, .of_eq rfl rfl rfl⟩
      | false =>
          refine (Program.does_done ()).mono ?_
          rintro c _ c' ⟨_, rfl⟩
          exact .refl _
    · rintro c _ c' ⟨there, u, ⟨_, rfl⟩, h⟩
      exact h
  · refine (Program.does_done ()).mono ?_
    rintro c _ c' ⟨_, rfl⟩
    exact .refl _

/-- What telling a server makes of a client: what the gate admits is written, what it refuses
changes nothing. -/
structure Tells (a : Access) (f : Feature) (params : Json) (c c' : Client E) : Prop where
  core_eq : c'.core = c.core
  wrote : a.gate.admits (J := Job Unit) f params c = true → ∀ p, Wiring.Wrote a.link p
    (OutgoingMessage.notification f.method (some params)).frame c.wiring c'.wiring
  eq : a.gate.admits (J := Job Unit) f params c = false → c' = c

theorem does_notification (a : Access) (f : Feature) (params : Json) :
    Program.Does Outside t
      ((Link.tell a.link f.method params).bind fun r => match r with
        | .ok () => .done .none
        | .error e => (a.gate.report f e).bind fun _ => .done .none : Prog E K Feature.Result)
      fun c _ c' => c'.core = c.core ∧ ∀ p, Wiring.Wrote a.link p
        (OutgoingMessage.notification f.method (some params)).frame c.wiring c'.wiring := by
  refine ((does_noted a.link f.method params).bind (S := fun _ u _ c' => Idle u c')
    fun r => ?_).mono ?_
  · cases r with
    | ok _ =>
        refine (Program.does_done _).mono ?_
        rintro u _ c' ⟨_, rfl⟩
        exact .refl _
    | error e =>
        refine ((does_report a f e).bind fun _ => Program.does_done _).mono ?_
        rintro u _ c' ⟨_, v, h, _, rfl⟩
        exact h
  · rintro c _ c' ⟨r, u, ⟨hcore, hdelivers⟩, hidle⟩
    refine ⟨hidle.core_eq.trans hcore, fun p hp => ?_⟩
    obtain ⟨_, hlines⟩ := hdelivers p hp
    obtain ⟨hu, htakes⟩ := hlines a.link hp
    obtain ⟨hc', hrest⟩ := hidle.unwritten.wrote a.link p hu
    refine ⟨hc', fun ht => ?_⟩
    obtain ⟨htu, hcarried'⟩ := hrest ht
    obtain ⟨htc, hcarried, _⟩ := htakes htu
    exact ⟨htc, by rw [hcarried', List.append_nil, hcarried]⟩

theorem does_tell (a : Access) {f : Feature} (hf : f.isNotification = true) (params : Json) :
    Program.Does Outside t (a.tell f params : Prog E K Unit) fun c _ c' =>
      Tells a f params c c' := by
  have hcall : Program.Does Outside t (a.gate.call f params : Prog E K Feature.Result)
      fun c _ c' => Tells a f params c c' := by
    refine ((Program.does_read _).bind (S := fun admitted c _ c' => c'.core = c.core ∧
      (admitted = true → ∀ p, Wiring.Wrote a.link p
        (OutgoingMessage.notification f.method (some params)).frame c.wiring c'.wiring) ∧
      (admitted = false → c' = c)) fun admitted => ?_).mono ?_
    · cases admitted with
      | true =>
          simp only [if_true, hf]
          refine (does_notification a f params).mono ?_
          rintro c _ c' ⟨hcore, hwrote⟩
          exact ⟨hcore, fun _ => hwrote, fun h => nomatch h⟩
      | false =>
          refine (Program.does_done _).mono ?_
          rintro c _ c' ⟨_, rfl⟩
          exact ⟨rfl, fun h => (nomatch h), fun _ => rfl⟩
    · rintro c _ c' ⟨admitted, u, ⟨rfl, rfl⟩, hcore, hwrote, heq⟩
      exact ⟨hcore, hwrote, heq⟩
  refine (hcall.bind fun _ => Program.does_done ()).mono ?_
  rintro c _ c' ⟨_, u, h, _, rfl⟩
  exact h

end Client

end LanguageClient
