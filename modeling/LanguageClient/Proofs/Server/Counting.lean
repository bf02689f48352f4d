import LanguageClient.Proofs.Server.Ordering
namespace LanguageClient

/-!
# Counting crashes

A crash is counted by a task that has the lifecycle of the server, and the generation is over before
the task gives the lifecycle back. So no generation is counted twice, however many reports there are
of it; and a report that comes too late finds another generation and does nothing.
-/

open Regime
open Scene (Leads)

variable {E K : Type} {may : TaskId → String → Prop} {given : String → Prop}

/-! ## What one step counts -/

namespace Affairs

variable {A B : Affairs K}

/-- A crash was counted, and the generation is not over yet. -/
def Crashing (A : Affairs K) (s : ServerId) : Prop :=
  ∃ t, (A.roles t).hold = some (s, .counting) ∨ (A.roles t).hold = some (s, .failing)

theorem Locked.not_crashing (h : A.Locked) {t : TaskId} {s : ServerId}
    (ht : (A.roles t).hold = some (s, .idle)) : ¬ A.Crashing s := by
  rintro ⟨u, hu | hu⟩
  all_goals
    obtain rfl := h.alone ht hu
    rw [ht] at hu
    cases hu

theorem Locked.crashing_act (h : A.Locked) (hAB : Act A B) {s : ServerId} (hs : A.Crashing s) :
    (A.server s).generation < (B.server s).generation ∨ B.Crashing s := by
  obtain ⟨u, hu⟩ := hs
  have alone := @h.alone
  have drives := @h.drives
  by_contra hn
  obtain ⟨hle, hno⟩ := not_or.1 hn
  have hnone := not_or.1 (not_exists.1 hno u)
  cases hAB <;> grind

/-- Crashes are counted one by one, and not while one that was counted is dealt with. -/
theorem Locked.crashes_act (h : A.Locked) (hAB : Act A B) (s : ServerId) :
    (B.server s).crashes ≤ (A.server s).crashes ∨
      (B.server s).crashes = (A.server s).crashes + 1 ∧
        (B.server s).generation = (A.server s).generation ∧ ¬ A.Crashing s ∧ B.Crashing s := by
  cases hAB with
  | @counts t r ht hold hs =>
    by_cases hr : s = r
    · subst hr
      have hlt := (h.drives hold).2
      refine .inr ⟨?_, ?_, h.not_crashing hold, t, .inl ?_⟩
      · grind
      · grind
      · grind
    · exact .inl (by grind)
  | _ => exact .inl (by grind)

theorem Sane.crashing_step (h : A.Sane) (hAB : Step may given A B) {s : ServerId}
    (hs : A.Crashing s) :
    (A.server s).generation < (B.server s).generation ∨ B.Crashing s := by
  cases hAB with
  | aside hAB =>
    refine .inr ?_
    rw [Crashing, (h.still hAB).roles]
    exact hs
  | act hAB => exact h.toLocked.crashing_act hAB hs

theorem Sane.crashes_step (h : A.Sane) (hAB : Step may given A B) (s : ServerId) :
    (B.server s).crashes ≤ (A.server s).crashes ∨
      (B.server s).crashes = (A.server s).crashes + 1 ∧
        (B.server s).generation = (A.server s).generation ∧ ¬ A.Crashing s ∧ B.Crashing s := by
  cases hAB with
  | aside hAB => exact .inl (Nat.le_of_eq ((h.still hAB).servers s).crashes)
  | act hAB => exact h.toLocked.crashes_act hAB s

end Affairs

/-! ## What a run counts -/

namespace Client

variable {c c' : Client E} {s : ServerId}

theorem crashes_ledger (c : Client E) (s : ServerId) :
    (c.ledger.server s).crashes = (c.server s).crashes := by
  rw [server_ledger, Server.crashes_plain]

theorem generation_ledger (c : Client E) (s : ServerId) :
    (c.ledger.server s).generation = (c.server s).generation := by
  rw [server_ledger, Server.generation_plain]

theorem crashes_congr (h : c.ledger = c'.ledger) :
    (c.server s).crashes = (c'.server s).crashes := by
  rw [← crashes_ledger, h, crashes_ledger]

theorem generation_congr (h : c.ledger = c'.ledger) :
    (c.server s).generation = (c'.server s).generation := by
  rw [← generation_ledger, h, generation_ledger]

end Client

namespace Moment

/-- A crash of the server is counted. -/
def raises (s : ServerId) (m : Moment (Client E) (Job K)) : Bool :=
  (m.before.server s).crashes < (m.after.server s).crashes

/-- The server is about to be started or to be stopped. -/
inductive Begins (s : ServerId) : Moment (Client E) (Job K) → Prop where
  | start {γ : Type} {k : Option Nat → Prog E K γ} {t : TaskId} {w u : Client E}
      (h : (w.server s).status = .stopped ∨ (w.server s).status = .failed) :
      Begins s (.asks t ((Program.act (Client.visitServer s Server.beginStart)).bind k) w u)
  | stop {γ : Type} {k : Option Connection × Option Access → Prog E K γ} {t : TaskId}
      {w u : Client E} :
      Begins s (.asks t ((Program.act (Client.visitServer s Server.beginStop)).bind k) w u)

theorem Begins.generation_lt {s : ServerId} {m : Moment (Client E) (Job K)} (h : m.Begins s)
    (hm : m.Faithful) (hs : s < m.before.ledger.servers.length) :
    (m.before.server s).generation < (m.after.server s).generation := by
  rw [← Client.generation_ledger, ← Client.generation_ledger]
  cases h with
  | @start γ k t w u h =>
    obtain rfl : u = (Client.visitServer s Server.beginStart w).1 := hm _ _ _ _ rfl
    have hw : (w.ledger.server s).status = .stopped ∨ (w.ledger.server s).status = .failed := by
      rw [Client.server_ledger]
      exact h
    dsimp only [before, after] at hs ⊢
    rw [w.ledger_visitServer_of_commutes s Server.commutes_beginStart,
      Ledger.server_put_same _ _ hs, Server.generation_beginStart hw]
    exact Nat.lt_succ_self _
  | @stop γ k t w u =>
    obtain rfl : u = (Client.visitServer s Server.beginStop w).1 := hm _ _ _ _ rfl
    dsimp only [before, after] at hs ⊢
    rw [w.ledger_visitServer_of_commutes s Server.commutes_beginStop,
      Ledger.server_put_same _ _ hs]
    exact Nat.lt_succ_self _

end Moment

/-- The crashes and the generations of a server, as moments tell them. -/
structure Counted (s : ServerId) (past : List (Moment (Client E) (Job K))) (c : Client E) : Prop where
  /-- No generation is counted twice. -/
  once : past.Pairwise fun m m' => m.raises s = true → m'.raises s = true →
    (m.before.server s).generation < (m'.before.server s).generation
  /-- All crashes have been counted in moments. -/
  complete : (c.server s).crashes ≤ past.countP (·.raises s)
  ordered : past.Pairwise fun m m' => (m.after.server s).generation ≤ (m'.before.server s).generation
  rising : ∀ m ∈ past, (m.before.server s).generation ≤ (m.after.server s).generation ∧
    (m.after.server s).generation ≤ (c.server s).generation

namespace Counted

variable {s : ServerId} {past new : List (Moment (Client E) (Job K))} {c c' : Client E}

/-- Moments that count nothing and begin nothing. -/
theorem level (h : Counted s past c) (hc : c.ledger.Level c'.ledger)
    (hnew : ∀ m ∈ new, c.ledger.Level m.before.ledger ∧ c.ledger.Level m.after.ledger) :
    Counted s (past ++ new) c' := by
  have hg : (c'.server s).generation = (c.server s).generation := by
    simpa only [Client.generation_ledger] using hc.generation s
  have hbefore {m : Moment (Client E) (Job K)} (hm : m ∈ new) :
      (m.before.server s).generation = (c.server s).generation := by
    simpa only [Client.generation_ledger] using (hnew m hm).1.generation s
  have hafter {m : Moment (Client E) (Job K)} (hm : m ∈ new) :
      (m.after.server s).generation = (c.server s).generation := by
    simpa only [Client.generation_ledger] using (hnew m hm).2.generation s
  have hraises {m : Moment (Client E) (Job K)} (hm : m ∈ new) : ¬ m.raises s = true := by
    have hb : (m.before.server s).crashes = (c.server s).crashes := by
      simpa only [Client.crashes_ledger] using (hnew m hm).1.crashes s
    have ha : (m.after.server s).crashes = (c.server s).crashes := by
      simpa only [Client.crashes_ledger] using (hnew m hm).2.crashes s
    simp [Moment.raises, hb, ha]
  refine ⟨List.pairwise_append.2 ⟨h.once, ?_, ?_⟩, ?_,
    List.pairwise_append.2 ⟨h.ordered, ?_, ?_⟩, fun m hm => ?_⟩
  · exact List.pairwise_of_forall_mem_list fun m hm _ _ hr => absurd hr (hraises hm)
  · exact fun _ _ m hm _ hr => absurd hr (hraises hm)
  · have hcrashes : (c'.server s).crashes = (c.server s).crashes := by
      simpa only [Client.crashes_ledger] using hc.crashes s
    rw [hcrashes, List.countP_append]
    exact Nat.le_add_right_of_le h.complete
  · refine List.pairwise_of_forall_mem_list fun m hm m' hm' => Nat.le_of_eq ?_
    rw [hafter hm, hbefore hm']
  · intro m hm m' hm'
    rw [hbefore hm']
    exact (h.rising m hm).2
  · rw [hg]
    rcases List.mem_append.1 hm with hm | hm
    · exact h.rising m hm
    · exact ⟨Nat.le_of_eq ((hbefore hm).trans (hafter hm).symm), Nat.le_of_eq (hafter hm)⟩

theorem of_ledger (h : Counted s past c) (hc : c'.ledger = c.ledger) : Counted s past c' := by
  have hlevel : c.ledger.Level c'.ledger := hc ▸ .refl _
  have hsame : Counted s (past ++ []) c' := h.level hlevel (List.forall_mem_nil _)
  rwa [List.append_nil] at hsame

/-- A moment that counts once at most, and only a generation that was not counted before. -/
theorem one {m : Moment (Client E) (Job K)} (h : Counted s past m.before)
    (hg : (m.before.server s).generation ≤ (m.after.server s).generation)
    (hc : (m.after.server s).crashes ≤ (m.before.server s).crashes ∨
      (m.after.server s).crashes = (m.before.server s).crashes + 1)
    (hnew : m.raises s = true → ∀ m' ∈ past, m'.raises s = true →
      (m'.before.server s).generation ≠ (m.before.server s).generation) :
    Counted s (past ++ [m]) m.after := by
  refine ⟨List.pairwise_append.2 ⟨h.once, List.pairwise_singleton .., ?_⟩, ?_,
    List.pairwise_append.2 ⟨h.ordered, List.pairwise_singleton .., ?_⟩, fun m' hm' => ?_⟩
  · intro m' hm' x hx hr' hr
    obtain rfl := List.mem_singleton.1 hx
    have hle := Nat.le_trans (h.rising m' hm').1 (h.rising m' hm').2
    exact Nat.lt_of_le_of_ne hle (hnew hr m' hm' hr')
  · have hcounted := h.complete
    rw [List.countP_append, List.countP_singleton]
    by_cases hr : m.raises s = true
    · rw [if_pos hr]
      omega
    · rw [if_neg hr]
      have hle : ¬ (m.before.server s).crashes < (m.after.server s).crashes := by
        simpa [Moment.raises] using hr
      omega
  · intro m' hm' x hx
    obtain rfl := List.mem_singleton.1 hx
    exact (h.rising m' hm').2
  · rcases List.mem_append.1 hm' with hm' | hm'
    · exact ⟨(h.rising m' hm').1, Nat.le_trans (h.rising m' hm').2 hg⟩
    · obtain rfl := List.mem_singleton.1 hm'
      exact ⟨hg, Nat.le_refl _⟩

end Counted

namespace Scene

variable {s : ServerId} {o x : Scene (Client E) (Job K) (Role K)}
  {new : List (Moment (Client E) (Job K))}

/-- Crashes are counted as they should be, and a generation that was counted and is not over yet is
about to be. -/
structure Counts (s : ServerId) (x : Scene (Client E) (Job K) (Role K)) : Prop
    extends Counted s x.past x.world where
  crashing : ∀ m ∈ x.past, m.raises s = true →
    (m.before.server s).generation = (x.world.server s).generation → x.affairs.Crashing s
  length_eq : ∀ m ∈ x.past, m.before.ledger.servers.length = x.world.ledger.servers.length

theorem generation_affairs (x : Scene (Client E) (Job K) (Role K)) (s : ServerId) :
    (x.affairs.server s).generation = (x.world.server s).generation :=
  x.world.generation_ledger s

theorem crashes_affairs (x : Scene (Client E) (Job K) (Role K)) (s : ServerId) :
    (x.affairs.server s).crashes = (x.world.server s).crashes :=
  x.world.crashes_ledger s

theorem One.counts (h : One given o x new) (ho : o.Sane) (hs : o.Counts s) : x.Counts s := by
  have hrise := ho.generation_step h.step s
  have hcrashing := ho.crashing_step h.step (s := s)
  have hlength : x.world.ledger.servers.length = o.world.ledger.servers.length :=
    ho.length_step h.step
  rw [generation_affairs, generation_affairs] at hrise hcrashing
  have hold (m : Moment (Client E) (Job K)) (hm : m ∈ o.past) (hr : m.raises s = true)
      (hg : (m.before.server s).generation = (x.world.server s).generation) :
      x.affairs.Crashing s := by
    have hle := Nat.le_trans (hs.rising m hm).1 (hs.rising m hm).2
    have heq : (m.before.server s).generation = (o.world.server s).generation := by omega
    refine (hcrashing (hs.crashing m hm hr heq)).resolve_left ?_
    omega
  cases h.told with
  | level hlevel hnew =>
    refine ⟨by rw [h.past_eq]; exact hs.level hlevel hnew, fun m hm hr hg => ?_, fun m hm => ?_⟩
      <;> rw [h.past_eq] at hm <;> rcases List.mem_append.1 hm with hm | hm
    · exact hold m hm hr hg
    · have hb := (hnew m hm).1.crashes s
      have ha := (hnew m hm).2.crashes s
      rw [Client.crashes_ledger, Client.crashes_ledger] at hb ha
      simp [Moment.raises, hb, ha] at hr
    · exact (hs.length_eq m hm).trans hlength.symm
    · exact (hnew m hm).1.length_eq.trans hlength.symm
  | @one m M hbefore hafter =>
    have hgb := Client.generation_congr (s := s) hbefore
    have hga := Client.generation_congr (s := s) hafter
    have hcb := Client.crashes_congr (s := s) hbefore
    have hca := Client.crashes_congr (s := s) hafter
    have hcount := ho.crashes_step h.step s
    rw [crashes_affairs, crashes_affairs, ← hcb, ← hca] at hcount
    -- Only the first way of `hcount` is left for a moment that does not count.
    have hraised (hr : m.raises s = true) : ¬ o.affairs.Crashing s ∧ x.affairs.Crashing s := by
      have hlt : (m.before.server s).crashes < (m.after.server s).crashes := of_decide_eq_true hr
      exact (hcount.resolve_left (by omega)).2.2
    refine ⟨?_, fun m' hm' hr hg => ?_, fun m' hm' => ?_⟩
    · rw [h.past_eq]
      refine ((hs.of_ledger hbefore).one (by omega) ?_ fun hr m' hm' hr' hg => ?_).of_ledger
        hafter.symm
      · exact hcount.imp_right fun hc => hc.1
      · exact (hraised hr).1 (hs.crashing m' hm' hr' (hg.trans hgb))
    · rw [h.past_eq] at hm'
      rcases List.mem_append.1 hm' with hm' | hm'
      · exact hold m' hm' hr hg
      · obtain rfl := List.mem_singleton.1 hm'
        exact (hraised hr).2
    · rw [h.past_eq] at hm'
      rcases List.mem_append.1 hm' with hm' | hm'
      · exact (hs.length_eq m' hm').trans hlength.symm
      · obtain rfl := List.mem_singleton.1 hm'
        rw [hbefore, hlength]

theorem Leads.counts (h : Leads given o x) (ho : o.Sane) (hs : o.Counts s) : x.Counts s := by
  induction h with
  | refl => exact hs
  | tail hl h ih =>
    obtain ⟨new, h⟩ := h
    exact h.counts (Leads.sane hl ho) ih

end Scene

/-! ## Late reports -/

/-- A server is the same but for its lifecycle lock. -/
def Server.Resembles (x y : Server) : Prop := ∃ lifecycle, y = { x with lifecycle }

theorem Server.Resembles.trans {x y z : Server} (h : x.Resembles y) (k : y.Resembles z) :
    x.Resembles z := by
  obtain ⟨_, rfl⟩ := h
  obtain ⟨_, rfl⟩ := k
  exact ⟨_, rfl⟩

theorem Client.resembles_lifecycle (s : ServerId) (lock : Lock) (c : Client E) (r : ServerId) :
    (c.server r).Resembles (((lifecycleLock s).write lock c).server r) := by
  have hservers : ((lifecycleLock s).write lock c).servers =
      c.servers.update s fun _ => { c.server s with lifecycle := lock } := by
    simp [lifecycleLock, updateServer, visitServer]
  rw [server, server, hservers]
  by_cases hr : s = r
  · subst hr
    cases hs : c.servers.get? s with
    | none => exact ⟨Lock.free, by simp only [Store.get, Store.get?_update_same, hs]; rfl⟩
    | some x => exact ⟨lock, by simp only [Store.get, Store.get?_update_same, hs, server]; rfl⟩
  · rw [Store.get_update_ne _ _ hr]
    exact ⟨_, rfl⟩

/-- A report of a generation that is over waits for the lifecycle or comes to its end; no server
changes by it. -/
theorem Server.turn_of_late {net : Providers (Client E) (Job K)} {owner : LinkOwner}
    {e : ClientError} {rt rt' : Runtime (Client E) (Job K)} {t : TaskId} {aborted : Bool}
    {moments : List (Moment (Client E) (Job K))} {left : List (Task (Client E) (Job K) Unit)}
    (h : rt.Turn ⟨t, crashed net owner e, [], aborted⟩ moments rt' left)
    (hg : owner.generation ≠ (rt.world.server owner.server).generation) :
    (left = [] ∨ left = [⟨t, crashed net owner e, [], aborted⟩]) ∧
      ∀ r, (rt.world.server r).Resembles (rt'.world.server r) := by
  let place : Lock.Place (Client E) := Client.lifecycleLock owner.server
  let w := (place.acquire t rt.world).1
  have hw (r : ServerId) : (rt.world.server r).Resembles (w.server r) :=
    rt.world.resembles_lifecycle ..
  have hlate : ((w.server owner.server).generation != owner.generation) = true := by
    obtain ⟨_, hsame⟩ := hw owner.server
    rw [hsame]
    simpa using hg.symm
  rcases h.of_locked_unless rfl hlate with ⟨hworld, hleft⟩ | ⟨hworld, hleft⟩
  · exact ⟨.inr hleft, hworld ▸ hw⟩
  · exact ⟨.inl hleft, fun r => hworld ▸ (hw r).trans (w.resembles_lifecycle ..)⟩

/-! ## Houses -/

/-- The server has gone away: it writes nothing more and reads nothing more. -/
def Client.deserted (c : Client E) : Client E :=
  HasWiring.modify (fun w => (w.closeWriter 0).closeReader 1) c

theorem Client.beside_deserted (c : Client E) : c.Beside given c.deserted :=
  ⟨c.editor.documents, fun _ => .inl,
    c.ledger_modifyWiring ((c.wiring.quiet_visitPipe 0 _).trans (Wiring.quiet_visitPipe _ 1 _))⟩

namespace House

variable {n : Nat} {net : Providers (Client E) (Job K)} {outside : K → Prog E K Unit}
  {c d : House given n E K} {past : List (Moment (Client E) (Job K))}

theorem New.counts (hc : New net outside c) (s : ServerId) : c.scene.Counts s where
  once := .nil
  complete := by
    have hcrashes : (c.scene.affairs.server s).crashes = 0 := by
      obtain ⟨definition, root, h⟩ := hc.server_eq s
      rw [h]
      rfl
    rw [Scene.crashes_affairs] at hcrashes
    exact Nat.le_of_eq hcrashes
  ordered := .nil
  rising := List.forall_mem_nil _
  crashing := List.forall_mem_nil _
  length_eq := List.forall_mem_nil _

/-- Each generation of a server is counted as a crash once at most, generations rise with every start
and every stop, and a report of a generation that is over changes no server. -/
theorem New.crashes_counted (hc : New net outside c) (hnet : net.Aloof)
    (houtside : ∀ k, (outside k).Aloof) (w : Hall.Walk (rules given n net) c past d) (s : Fin n) :
    Counted s past d.world ∧
      (∀ m ∈ past, m.Begins s → (m.before.server s).generation < (m.after.server s).generation) ∧
      ∀ (owner : LinkOwner) (e : ClientError) (rt : Runtime (Client E) (Job K)) (t : TaskId)
        (moments : List (Moment (Client E) (Job K))) (rt' : Runtime (Client E) (Job K))
        (left : List (Task (Client E) (Job K) Unit)), rt.world = d.world →
        owner.generation ≠ (d.world.server owner.server).generation →
        rt.Turn ⟨t, Server.crashed net owner e, [], false⟩ moments rt' left →
        (left = [] ∨ left = [⟨t, Server.crashed net owner e, [], false⟩]) ∧
          ∀ r, (d.world.server r).Resembles (rt'.world.server r) := by
  obtain ⟨scene, hleads, hkept⟩ := hc.reaches hnet houtside w 0
  have hcounts : scene.Counts s := hleads.counts hc.sane (hc.counts s)
  have hlength : scene.world.ledger.servers.length = n :=
    (hleads.length_eq hc.sane).trans hc.length_ledger
  refine ⟨?_, fun m hm hbegins => ?_, fun owner e rt t moments rt' left hrt hne hturn => ?_⟩
  · have hcounted := hcounts.toCounted
    rwa [hkept.past_eq, hkept.world_eq] at hcounted
  · refine hbegins.generation_lt (w.faithful hm) ?_
    rw [hcounts.length_eq m (by rwa [hkept.past_eq]), hlength]
    exact s.isLt
  · rw [← hrt] at hne ⊢
    exact Server.turn_of_late hturn hne

/-- The end of the connection is reported by the task that reads and by a notification that fails;
the first report is dealt with. -/
def desertion : List (Hall.Cue (Client Unit) (Demand (fun _ => True) 1)) :=
  [.changes Client.deserted, .task 0,
    .begins (.errand (.tell 0 0 .didChangeConfiguration .null)), .call 0, .task 0]

theorem allowed_desertion : ∀ cue ∈ desertion, cue.Allowed openingRules := by
  simp [desertion, Hall.Cue.Allowed, rules, Client.beside_deserted]

theorem New.crashes_counted_late_report : ∃ past d moments rt',
    Hall.Walk openingRules opening past d ∧ (d.world.server 0).generation = 2 ∧
      (d.world.server 0).crashes = 1 ∧ past.countP (·.raises 0) = 1 ∧
      Counted 0 past d.world ∧
      d.runtime.Turn ⟨6, Server.crashed .twoPipes ⟨0, 1⟩ .timeout, [], false⟩ moments rt' [] ∧
      ∀ r, (d.world.server r).Resembles (rt'.world.server r) := by
  let late : Task (Client Unit) (Job Unit) Unit :=
    ⟨6, Server.crashed .twoPipes ⟨0, 1⟩ .timeout, [], false⟩
  have hallowed : ∀ cue ∈ startup ++ desertion, cue.Allowed openingRules :=
    List.forall_mem_append.2 ⟨allowed_startup, allowed_desertion⟩
  obtain ⟨past, d, w, hd⟩ := Hall.exists_walk_of_play (d := opening)
    (P := fun past d => (d.world.server 0).generation = 2 ∧ (d.world.server 0).crashes = 1 ∧
      past.countP (·.raises 0) = 1 ∧
      ((d.runtime.finish Hall.patience late).any (·.2.2.isEmpty)) = true)
    hallowed (by decide +kernel)
  obtain ⟨hgeneration, hcrashes, hraises, hfinish⟩ := of_decide_eq_true hd
  obtain ⟨⟨moments, rt', left⟩, hlate, hleft⟩ := (Option.any_eq_true _ _).1 hfinish
  obtain rfl := List.isEmpty_iff.1 hleft
  have hturn := Runtime.turn_of_finish hlate
  have hall := new_opening.crashes_counted Providers.aloof_twoPipes (fun _ => .done ()) w 0
  refine ⟨past, d, moments, rt', w, hgeneration, hcrashes, hraises, hall.1, hturn, ?_⟩
  refine (hall.2.2 ⟨0, 1⟩ .timeout d.runtime 6 moments rt' [] rfl ?_ hturn).2
  dsimp only
  rw [hgeneration]
  decide

end House

end LanguageClient
