import LanguageClient.Proofs.Session.Sync
import LanguageClient.Session.WorkspaceEdit
namespace LanguageClient

/-!
# Workspace edits, all or nothing

A workspace edit looks at all versions before it makes any change, but every document it changes
moves to a new version when its server is told. A document that is named again for the version it
had before is refused then, when others have been changed already. This is the only way in which a
workspace edit that fails leaves anything behind.
-/

namespace Session

variable {E : Type}

/-- The client once edits are made and reported. -/
def applied (s : SessionId) (edits : List TextEdit) (c : Client E) : Client E :=
  match syncAccess? s c with
  | none => edited s edits c
  | some _ => flushed s (edited s edits c)

theorem core_applied (s : SessionId) (edits : List TextEdit) (c : Client E) :
    (applied s edits c).core = applied s edits c.core := by
  unfold applied
  rw [syncAccess?_core]
  cases syncAccess? s c with
  | none => exact core_edited s edits c
  | some _ => rw [core_flushed, core_edited]

theorem Applies.core {s : SessionId} {edits : List TextEdit} {version : Option Int}
    {c c' : Client E} {r : Bool} (h : Applies s edits version c r c') :
    c'.core = if isPast s version c.core then c.core else applied s edits c.core := by
  have hresult := h.result
  cases hpast : isPast s version c.core with
  | true =>
      rw [hpast] at hresult
      exact (h.refused hresult).core_eq
  | false =>
      rw [hpast] at hresult
      have hmade := h.made hresult
      simp only [Bool.false_eq_true, if_false, applied]
      cases haccess : syncAccess? s c.core with
      | none =>
          rw [haccess] at hmade
          exact hmade.1
      | some a =>
          rw [haccess] at hmade
          exact hmade.core_eq

/-! ## Versions -/

theorem version_updateSession (c : Client E) (s r : SessionId) {f : Session → Session}
    (h : ∀ x, (f x).version = x.version) :
    ((c.updateSession s f).session r).version = (c.session r).version := by
  rcases Client.session_updateSession c s r f with hr | ⟨rfl, hr⟩
  · rw [hr]
  · rw [hr, h]

theorem version_makeEdit (c : Client E) (s r : SessionId) (access : Option Access) (e : TextEdit) :
    ((makeEdit s access e c).session r).version = (c.session r).version := by
  cases access with
  | none => rfl
  | some a => exact version_updateSession _ s r fun _ => rfl

theorem version_edited (c : Client E) (s r : SessionId) (edits : List TextEdit) :
    ((edited s edits c).session r).version = (c.session r).version := by
  unfold edited
  generalize syncAccess? s c = access
  generalize lastFirst (c.text s) edits = ordered
  induction ordered generalizing c with
  | nil => rfl
  | cons e ordered ih => rw [List.foldl_cons, ih, version_makeEdit]

theorem version_le_flushed (c : Client E) (s r : SessionId) :
    (c.session r).version ≤ ((flushed s c).session r).version := by
  rcases Client.session_updateSession c s r fun x => (x.takePending (c.text s)).1 with hr | ⟨rfl, hr⟩
  · exact Nat.le_of_eq (congrArg Session.version hr).symm
  · rw [flushed, hr]
    unfold takePending
    split
    · exact Nat.le_refl _
    · exact Nat.le_succ _

theorem version_le_applied (c : Client E) (s r : SessionId) (edits : List TextEdit) :
    (c.session r).version ≤ ((applied s edits c).session r).version := by
  unfold applied
  cases syncAccess? s c with
  | none => exact Nat.le_of_eq (version_edited c s r edits).symm
  | some a =>
      rw [← version_edited c s r edits]
      exact version_le_flushed _ s r

/-- Only the session whose document is edited moves to another version. -/
theorem version_applied_of_ne (c : Client E) {s r : SessionId} (h : r ≠ s)
    (edits : List TextEdit) :
    ((applied s edits c).session r).version = (c.session r).version := by
  unfold applied
  cases syncAccess? s c with
  | none => exact version_edited c s r edits
  | some a =>
      rw [← version_edited c s r edits]
      rcases Client.session_updateSession (edited s edits c) s r fun x =>
        (x.takePending ((edited s edits c).text s)).1 with hr | ⟨hr, _⟩
      · exact congrArg Session.version hr
      · exact absurd hr h

end Session

namespace WorkspaceEdit

variable {E K : Type} {t : TaskId}

namespace Target

/-- Whether the edits of a target come too late. -/
def isPast (g : Target) (c : Client E) : Bool := Session.isPast g.session g.version c

/-- The client once the edits of a target are made and reported. -/
def applied (g : Target) (c : Client E) : Client E := Session.applied g.session g.edits c

/-- The same, unless they come too late. -/
def tried (c : Client E) (g : Target) : Client E := if g.isPast c then c else g.applied c

theorem version_le_tried (c : Client E) (g : Target) (r : SessionId) :
    (c.session r).version ≤ ((g.tried c).session r).version := by
  unfold tried
  split
  · exact Nat.le_refl _
  · exact Session.version_le_applied c g.session r g.edits

theorem core_tried (c : Client E) (g : Target) : (g.tried c).core = g.tried c.core := by
  unfold tried isPast
  rw [Session.isPast_core]
  split
  · rfl
  · exact Session.core_applied g.session g.edits c

end Target

theorem core_foldl_tried (targets : List Target) (c : Client E) :
    (targets.foldl Target.tried c).core = targets.foldl Target.tried c.core := by
  induction targets generalizing c with
  | nil => rfl
  | cons g targets ih => rw [List.foldl_cons, List.foldl_cons, ih, Target.core_tried]

/-- Some target is past its version by the time it is its turn. -/
def Refuses (targets : List Target) (c : Client E) : Prop :=
  ∃ earlier g later, targets = earlier ++ g :: later ∧ g.isPast (earlier.foldl Target.tried c)

theorem version_le_foldl_tried (targets : List Target) (c : Client E) (r : SessionId) :
    (c.session r).version ≤ ((targets.foldl Target.tried c).session r).version := by
  induction targets generalizing c with
  | nil => exact Nat.le_refl _
  | cons g targets ih => exact Nat.le_trans (g.version_le_tried c r) (ih _)

theorem refuses_cons {g : Target} {targets : List Target} {c : Client E} :
    Refuses (g :: targets) c ↔ g.isPast c = true ∨ Refuses targets (g.tried c) := by
  constructor
  · rintro ⟨earlier, x, later, heq, hpast⟩
    cases earlier with
    | nil =>
        obtain ⟨rfl, rfl⟩ := List.cons.inj heq
        exact .inl hpast
    | cons y earlier =>
        obtain ⟨rfl, rfl⟩ := List.cons.inj heq
        exact .inr ⟨earlier, x, later, rfl, hpast⟩
  · rintro (hpast | ⟨earlier, x, later, rfl, hpast⟩)
    · exact ⟨[], g, targets, rfl, hpast⟩
    · exact ⟨g :: earlier, x, later, rfl, hpast⟩

theorem refuses_core {targets : List Target} {c : Client E} :
    Refuses targets c.core ↔ Refuses targets c := by
  unfold Refuses Target.isPast
  simp only [← core_foldl_tried, Session.isPast_core]

/-- Where nothing is refused, everything is applied. -/
theorem foldl_tried_of_not_refuses {targets : List Target} {c : Client E}
    (h : ¬ Refuses targets c) :
    targets.foldl Target.tried c = targets.foldl (fun d g => g.applied d) c := by
  induction targets generalizing c with
  | nil => rfl
  | cons g targets ih =>
      rw [refuses_cons, not_or] at h
      have hg : g.tried c = g.applied c := if_neg h.1
      rw [hg] at h
      rw [List.foldl_cons, List.foldl_cons, hg, ih h.2]

/-- A target that was current and is refused has been moved on by others before it. -/
theorem version_lt_of_refuses {targets : List Target} {c : Client E}
    (hcurrent : ∀ g ∈ targets, g.isPast c = false) (h : Refuses targets c) :
    ∃ g ∈ targets, (c.session g.session).version <
      ((targets.foldl Target.tried c).session g.session).version := by
  obtain ⟨earlier, g, later, rfl, hpast⟩ := h
  have hg : g ∈ earlier ++ g :: later := by simp
  refine ⟨g, hg, ?_⟩
  have hnow := hcurrent g hg
  rw [List.foldl_append]
  refine Nat.lt_of_lt_of_le ?_ (version_le_foldl_tried (g :: later) _ g.session)
  unfold Target.isPast Session.isPast at hnow hpast
  cases hv : g.version with
  | none => simp [hv] at hpast
  | some v =>
      rw [hv] at hnow hpast
      simp only [Option.any_some, decide_eq_false_iff_not, decide_eq_true_iff] at hnow hpast
      omega

theorem does_applyAll (targets : List Target) :
    Program.Does Client.Outside t (applyAll targets : Prog E K Bool) fun c r c' =>
      c'.core = targets.foldl Target.tried c.core ∧ (r = false ↔ Refuses targets c.core) := by
  induction targets with
  | nil =>
      refine (Program.does_done _).mono ?_
      rintro c r c' ⟨rfl, rfl⟩
      refine ⟨rfl, fun h => (nomatch h), ?_⟩
      rintro ⟨earlier, g, later, h, _⟩
      exact absurd h (by simp)
  | cons g targets ih =>
      refine ((Session.does_applyEdits g.session g.edits g.version).bind fun applied =>
        ih.bind fun others => Program.does_done _).mono ?_
      rintro c r c' ⟨applied, u, happlies, others, v, ⟨hcore, hrefuses⟩, rfl, rfl⟩
      have hu : u.core = g.tried c.core := happlies.core
      rw [hu] at hcore hrefuses
      refine ⟨hcore, ?_⟩
      rw [refuses_cons, ← hrefuses, Bool.and_eq_false_iff, happlies.result]
      simp [Target.isPast]

theorem does_areCurrent (targets : List Target) :
    Program.Does Client.Outside t (areCurrent targets : Prog E K Bool) fun c r c' =>
      Client.Idle c c' ∧ (r = true ↔ ∀ g ∈ targets, g.isPast c.core = false) := by
  induction targets with
  | nil =>
      refine (Program.does_done _).mono ?_
      rintro c r c' ⟨rfl, rfl⟩
      exact ⟨.refl _, by simp⟩
  | cons g targets ih =>
      obtain ⟨s, version, edits⟩ := g
      cases version with
      | none =>
          refine ih.mono ?_
          rintro c r c' ⟨hidle, hr⟩
          refine ⟨hidle, ?_⟩
          rw [hr, List.forall_mem_cons]
          simp [Target.isPast, Session.isPast]
      | some v =>
          have hrest (current : Nat) : Program.Does Client.Outside t
              (if v < (current : Int) then .done false else areCurrent targets : Prog E K Bool)
              fun u r c' => Client.Idle u c' ∧
                (r = true ↔ ¬ v < (current : Int) ∧ ∀ g ∈ targets, g.isPast u.core = false) := by
            by_cases hv : v < (current : Int)
            · rw [if_pos hv]
              refine (Program.does_done _).mono ?_
              rintro u r c' ⟨rfl, rfl⟩
              exact ⟨.refl _, by simp [hv]⟩
            · rw [if_neg hv]
              refine ih.mono ?_
              rintro u r c' ⟨hidle, hr⟩
              exact ⟨hidle, by rw [hr]; simp [hv]⟩
          have hbody := (Session.does_versionNow (E := E) (K := K) (t := t) s).bind hrest
          refine hbody.mono ?_
          rintro c r c' ⟨current, u, ⟨rfl, hu⟩, hidle, hr⟩
          refine ⟨hu.trans hidle, ?_⟩
          rw [hr, List.forall_mem_cons, hu.core_eq]
          simp [Target.isPast, Session.isPast]

/-- What becomes of a client that a workspace edit is made in. -/
structure Outcome (e : WorkspaceEdit) (c : Client E) (r : Bool) (c' : Client E) : Prop where
  unknown : e.targets? c.index = none → r = false ∧ Client.Idle c c'
  outdated {targets : List Target} : e.targets? c.index = some targets →
    (∃ g ∈ targets, g.isPast c.core = true) → r = false ∧ Client.Idle c c'
  current {targets : List Target} : e.targets? c.index = some targets →
    (∀ g ∈ targets, g.isPast c.core = false) →
      c'.core = targets.foldl Target.tried c.core ∧ (r = false ↔ Refuses targets c.core)

theorem does_apply (e : WorkspaceEdit) :
    Program.Does Client.Outside t (e.apply : Prog E K Bool) fun c r c' => Outcome e c r c' := by
  refine ((Program.does_read _).bind (S := fun found c r c' =>
    found = e.targets? c.index → Outcome e c r c') fun found => ?_).mono ?_
  · cases found with
    | none =>
        refine (Program.does_done _).mono ?_
        rintro c r c' ⟨rfl, rfl⟩ hnone
        refine ⟨fun _ => ⟨rfl, .refl _⟩, fun h => ?_, fun h => ?_⟩
        · rw [← hnone] at h
          exact nomatch h
        · rw [← hnone] at h
          exact nomatch h
    | some targets =>
        have hrest (current : Bool) : Program.Does Client.Outside t
            (if current = true then applyAll targets else .done false : Prog E K Bool)
            fun u r c' => if current = true then c'.core = targets.foldl Target.tried u.core ∧
              (r = false ↔ Refuses targets u.core) else r = false ∧ c' = u := by
          cases current with
          | true => exact does_applyAll targets
          | false => exact Program.does_done _
        refine ((does_areCurrent targets).bind hrest).mono ?_
        rintro c r c' ⟨current, u, ⟨hidle, hcurrent⟩, hrest⟩ htargets
        refine ⟨fun h => ?_, fun h hpast => ?_, fun h hnow => ?_⟩
        · rw [← htargets] at h
          exact nomatch h
        · rw [← htargets] at h
          cases h
          obtain ⟨g, hg, hpast⟩ := hpast
          have hfalse : ¬ current = true := fun hc => by simp [hcurrent.1 hc g hg] at hpast
          rw [if_neg hfalse] at hrest
          obtain ⟨rfl, rfl⟩ := hrest
          exact ⟨rfl, hidle⟩
        · rw [← htargets] at h
          cases h
          rwa [if_pos (hcurrent.2 hnow), hidle.core_eq] at hrest
  · rintro c r c' ⟨found, u, ⟨rfl, rfl⟩, h⟩
    exact h rfl

/-! ## All or nothing -/

/-- No document, no version and no change kept for a server differs, and no server was told
anything. -/
def Untouched (c c' : Client E) : Prop :=
  (∀ s, c'.text s = c.text s ∧ (c'.session s).version = (c.session s).version ∧
      (c'.session s).pending = (c.session s).pending) ∧
    ∀ l p, (c.wiring.link l).output = some p → c'.wiring.carried p = c.wiring.carried p

theorem untouched_of_idle {c c' : Client E} (h : Client.Idle c c') : Untouched c c' := by
  refine ⟨fun s => ?_, fun l p hp => h.unwritten.carried hp⟩
  have hsession : (c'.session s).unlocked = (c.session s).unlocked := by
    rw [← Client.session_core, ← Client.session_core, h.core_eq]
  have hversion : (c'.session s).unlocked.version = (c.session s).unlocked.version := by
    rw [hsession]
  have hpending : (c'.session s).unlocked.pending = (c.session s).unlocked.pending := by
    rw [hsession]
  refine ⟨?_, hversion, hpending⟩
  rw [← Client.text_core, h.core_eq, Client.text_core]

/-- All targets are current before the first is changed, but one is past its version by the time it
is its turn. -/
def Overtaken (e : WorkspaceEdit) (c : Client E) : Prop :=
  ∃ targets, e.targets? c.index = some targets ∧ (∀ g ∈ targets, g.isPast c = false) ∧
    Refuses targets c

/-- Only a document that is named more than once can be overtaken. -/
theorem not_overtaken_of_nodup {e : WorkspaceEdit} {c : Client E}
    (h : ∀ targets, e.targets? c.index = some targets → (targets.map Target.session).Nodup) :
    ¬ Overtaken e c := by
  rintro ⟨targets, htargets, hcurrent, earlier, g, later, rfl, hpast⟩
  have hnodup := h _ htargets
  rw [List.map_append, List.map_cons, List.nodup_append] at hnodup
  have hne : ∀ x ∈ earlier, g.session ≠ x.session := by
    intro x hx heq
    exact hnodup.2.2 _ (List.mem_map_of_mem hx) _ List.mem_cons_self heq.symm
  have hversion : ((earlier.foldl Target.tried c).session g.session).version =
      (c.session g.session).version := by
    clear hpast hcurrent htargets hnodup h
    induction earlier generalizing c with
    | nil => rfl
    | cons x earlier ih =>
        rw [List.foldl_cons, ih fun y hy => hne y (List.mem_cons_of_mem x hy)]
        unfold Target.tried
        split
        · rfl
        · exact Session.version_applied_of_ne c (hne x List.mem_cons_self) x.edits
  have hnow := hcurrent g (by simp)
  unfold Target.isPast Session.isPast at hnow hpast
  rw [hversion, hnow] at hpast
  exact nomatch hpast

/-- A workspace edit that succeeds has made all its edits. One that fails has left everything as it
was, unless it overtook itself. -/
theorem untouched_iff_not_overtaken {e : WorkspaceEdit} {n : Nat}
    {rt rt' : Runtime (Client E) (Job K)} {r : Bool}
    (h : Runtime.Ran Client.Outside n rt ⟨t, e.apply, [], false⟩ rt' r) :
    (r = true → ∃ targets, e.targets? rt.world.index = some targets ∧
        rt'.world.core = targets.foldl (fun c g => g.applied c) rt.world.core) ∧
      (r = false → (Untouched rt.world rt'.world ↔ ¬ Overtaken e rt.world)) := by
  have houtcome := (does_apply e).ran h
  cases htargets : e.targets? rt.world.index with
  | none =>
      obtain ⟨rfl, hidle⟩ := houtcome.unknown htargets
      refine ⟨fun h => (nomatch h), fun _ => iff_of_true (untouched_of_idle hidle) ?_⟩
      rintro ⟨targets, hsome, _⟩
      rw [htargets] at hsome
      exact nomatch hsome
  | some targets =>
      by_cases hnow : ∀ g ∈ targets, g.isPast rt.world.core = false
      · obtain ⟨hcore, hrefuses⟩ := houtcome.current htargets hnow
        refine ⟨fun hr => ⟨targets, rfl, ?_⟩, fun hr => ?_⟩
        · rw [hcore, foldl_tried_of_not_refuses]
          intro hrefused
          rw [hrefuses.2 hrefused] at hr
          exact nomatch hr
        · have hrefused := hrefuses.1 hr
          refine iff_of_false ?_ ?_
          · intro huntouched
            obtain ⟨g, _, hlt⟩ := version_lt_of_refuses hnow hrefused
            rw [← hcore, Client.session_core, Client.session_core] at hlt
            exact Nat.lt_irrefl _ (Nat.lt_of_lt_of_eq hlt (huntouched.1 g.session).2.1)
          · refine not_not_intro ⟨targets, htargets, fun g hg => ?_, refuses_core.1 hrefused⟩
            rw [← hnow g hg]
            exact (Session.isPast_core g.session g.version rt.world).symm
      · obtain ⟨g, hg⟩ := Classical.not_forall.1 hnow
        obtain ⟨hmem, hpast⟩ := Classical.not_imp.1 hg
        rw [Bool.not_eq_false] at hpast
        obtain ⟨rfl, hidle⟩ := houtcome.outdated htargets ⟨g, hmem, hpast⟩
        refine ⟨fun h => (nomatch h), fun _ => iff_of_true (untouched_of_idle hidle) ?_⟩
        rintro ⟨others, hsome, hcurrent, _⟩
        rw [htargets] at hsome
        cases hsome
        rw [Target.isPast, Session.isPast_core] at hpast
        have hfalse := hcurrent g hmem
        rw [Target.isPast, hpast] at hfalse
        exact nomatch hfalse

/-- Edits of one document at one version, twice. -/
def twice : WorkspaceEdit :=
  let edits := ⟨"", some 0, [⟨⟨Position.origin, Position.origin⟩, ['b']⟩]⟩
  ⟨[edits, edits], false⟩

theorem overtaken_twice :
    let rt := Session.smallOpened ['a'] SyncKind.full
    Overtaken twice rt.world ∧
      ¬ Untouched rt.world (rt.turn 200 ⟨1, twice.apply, [], false⟩).1.world := by
  intro rt
  obtain ⟨n, hran⟩ : ∃ n, Runtime.Ran Client.Outside n rt ⟨1, twice.apply, [], false⟩
      (rt.turn 200 ⟨1, twice.apply, [], false⟩).1 false :=
    Runtime.exists_ran (by decide +kernel)
  have htouched : ¬ Untouched rt.world (rt.turn 200 ⟨1, twice.apply, [], false⟩).1.world := by
    intro h
    have hversion : ((rt.turn 200 ⟨1, twice.apply, [], false⟩).1.world.session 0).version ≠
        (rt.world.session 0).version := by decide +kernel
    exact hversion (h.1 0).2.1
  have hiff := (untouched_iff_not_overtaken hran).2 rfl
  exact ⟨Classical.not_not.1 fun h => htouched (hiff.2 h), htouched⟩

end WorkspaceEdit

end LanguageClient
