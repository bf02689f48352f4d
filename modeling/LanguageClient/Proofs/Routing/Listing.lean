import LanguageClient.Proofs.Client.Estate
import LanguageClient.Proofs.Server.Crashes
namespace LanguageClient

/-!
# One server for each project

A server is looked for before it is made, so that no project has two of them in use. But a server
that is idle can be forgotten before its document comes to it, and it is then listed again without
being looked for. The list has two servers of a project only after this has happened.
-/

variable {E K : Type} {c c' : Client E}

/-- No project has two servers in use. -/
def Client.ListedOnce (c : Client E) : Prop :=
  c.routes.servers.Pairwise fun r s => ¬ (c.server r).SameProject (c.server s)

instance (c : Client E) : Decidable c.ListedOnce := inferInstanceAs (Decidable (List.Pairwise _ _))

/-- A server is listed last, and no server of its project stands before it. -/
theorem Client.listedOnce_append {listed : List ServerId} {s : ServerId}
    (h : c.routes.servers = listed ++ [s])
    (hbefore : listed.Pairwise fun r x => ¬ (c.server r).SameProject (c.server x))
    (hnone : ∀ r ∈ listed, ¬ (c.server r).SameProject (c.server s)) : c.ListedOnce := by
  rw [ListedOnce, h]
  refine List.pairwise_append.2 ⟨hbefore, List.pairwise_singleton _ _, fun r hr x hx => ?_⟩
  obtain rfl := List.mem_singleton.1 hx
  exact hnone r hr

/-! ## What does not touch the list -/

/-- No server is made or listed, and all keep their projects. -/
structure Client.Settled (c c' : Client E) : Prop where
  listed : c'.routes.servers.Sublist c.routes.servers
  length_eq : c'.servers.entries.length = c.servers.entries.length
  project_eq (s : ServerId) : (c'.server s).project = (c.server s).project

namespace Client

theorem Mild.settled (h : c.Mild c') : c.Settled c' :=
  ⟨h.listed, h.length_eq, fun s => (h.server s).project_eq⟩

theorem settled_enroll (s : ServerId) (rs : List Registration) (c : Client E) :
    c.Settled (c.enroll s rs) := by
  have hroutes : (c.enroll s rs).routes = c.routes := listed_visitServer s _ c
  refine ⟨hroutes ▸ List.Sublist.refl _, length_visitServer s _ c, fun r => ?_⟩
  rcases server_enroll s r rs c with h | ⟨rfl, _, h⟩
  · exact congrArg Server.project h
  · exact (congrArg Server.project h).trans rfl

theorem Settled.listedOnce (h : c.Settled c') (hc : c.ListedOnce) : c'.ListedOnce :=
  (List.Pairwise.sublist h.listed hc).imp fun {r s} hne =>
    (Server.sameProject_congr (h.project_eq r) (h.project_eq s)).not.2 hne

end Client

/-! ## Listing a server again -/

namespace Routing

def busy (c : Client E) : List ServerId := c.routes.servers.filter fun r => !(c.server r).isIdle

/-- What is in use afterwards: all that are not idle, and the server if it was missing. -/
theorem listed_prune_track (s : ServerId) (c : Client E) :
    (prune (track s c)).routes.servers =
      if (c.server s).isIdle = true ∨ s ∈ c.routes.servers then busy c else busy c ++ [s] := by
  by_cases h : (c.server s).isIdle = true ∨ s ∈ c.routes.servers
  · have hkept : track s c = c := if_pos (by simpa using h)
    rw [hkept, if_pos h]
    rfl
  · have hlisted : track s c =
        c.updateRoutes fun r => { r with servers := r.servers ++ [s] } := if_neg (by simpa using h)
    rw [hlisted, if_neg h]
    have hbusy : (!(c.server s).isIdle) = true := by simpa using fun hidle => h (.inl hidle)
    exact (List.filter_append ..).trans (congrArg (busy c ++ ·) (List.filter_cons_of_pos hbusy))

end Routing

/-- A server that is not in use is listed beside another one of its project, and neither is idle. -/
inductive Moment.Relists (s : ServerId) : Moment (Client E) (Job K) → Prop where
  | intro {α : Type} {t : TaskId} {k : Unit → Prog E K α} {c : Client E} {r : ServerId}
      (hs : s ∉ c.routes.servers) (hbusy : (c.server s).isIdle = false)
      (hr : r ∈ c.routes.servers) (hother : (c.server r).isIdle = false)
      (hsame : (c.server r).SameProject (c.server s)) :
      Relists s (.asks t
        ((Program.modify fun c => Routing.prune (Routing.track s c)).bind k) c
        (Routing.prune (Routing.track s c)))

theorem Moment.Relists.not_listedOnce {s : ServerId} {m : Moment (Client E) (Job K)}
    (h : m.Relists s) : ¬ m.after.ListedOnce := by
  obtain ⟨hs, hbusy, hr, hother, hsame⟩ := h
  intro honce
  rw [Moment.after, Client.ListedOnce, Routing.listed_prune_track, if_neg (by simp [hs, hbusy]),
    List.pairwise_append] at honce
  refine honce.2.2 _ (List.mem_filter.2 ⟨hr, by simp [hother]⟩) s (List.mem_singleton_self s) ?_
  rw [Routing.server_prune_track, Routing.server_prune_track]
  exact hsame

/-! ## Walks -/

namespace Estate

/-- A server that had been in use and was forgotten is listed again beside another one of its
project. -/
def Relisted (past : List (Moment (Client E) (Job K))) : Prop :=
  ∃ (s : ServerId) (earlier later : List (Moment (Client E) (Job K)))
    (m : Moment (Client E) (Job K)), past = earlier ++ m :: later ∧ m.Relists s ∧
      ∃ m' ∈ earlier, s ∈ m'.after.routes.servers

theorem Relisted.mono {past : List (Moment (Client E) (Job K))} (h : Relisted past)
    (later : List (Moment (Client E) (Job K))) : Relisted (past ++ later) := by
  obtain ⟨s, earlier, later', m, rfl, hm, hs⟩ := h
  exact ⟨s, earlier, later' ++ later, m, by simp, hm, hs⟩

/-- Every server was in use at some time, and no project has two in use unless one of them was
listed again. -/
structure Listing (past : List (Moment (Client E) (Job K))) (c : Client E) : Prop where
  lt : ∀ s ∈ c.routes.servers, s < c.servers.entries.length
  used : ∀ s < c.servers.entries.length, ∃ m ∈ past, s ∈ m.after.routes.servers
  once : (c.ListedOnce ∧ ∀ m ∈ past, m.after.ListedOnce) ∨ Relisted past

namespace Listing

variable {past : List (Moment (Client E) (Job K))} {m : Moment (Client E) (Job K)}

theorem settled (h : Listing past c) (hc : c.Settled c') : Listing past c' where
  lt s hs := hc.length_eq ▸ h.lt s (hc.listed.subset hs)
  used := hc.length_eq ▸ h.used
  once := h.once.imp_left fun ⟨hnow, hpast⟩ => ⟨hc.listedOnce hnow, hpast⟩

/-- A moment is told. What is listed after it was in use at some time. -/
theorem tell (hlt : ∀ s ∈ m.after.routes.servers, s < m.after.servers.entries.length)
    (hused : ∀ s < m.after.servers.entries.length,
      s ∈ m.after.routes.servers ∨ ∃ m' ∈ past, s ∈ m'.after.routes.servers)
    (honce : (m.after.ListedOnce ∧ ∀ m' ∈ past, m'.after.ListedOnce) ∨ Relisted (past ++ [m])) :
    Listing (past ++ [m]) m.after where
  lt := hlt
  used s hs := by
    rcases hused s hs with hnow | ⟨m', hm', hthen⟩
    · exact ⟨m, List.mem_append_right _ (List.mem_singleton_self m), hnow⟩
    · exact ⟨m', List.mem_append_left _ hm', hthen⟩
  once := by
    refine honce.imp_left fun ⟨hnow, hpast⟩ => ⟨hnow, ?_⟩
    exact List.forall_mem_append.2 ⟨hpast, List.forall_mem_singleton.2 hnow⟩

theorem told (h : Listing past m.after) : Listing (past ++ [m]) m.after :=
  tell h.lt (fun s hs => .inr (h.used s hs)) (h.once.imp_right fun h => h.mono _)

theorem found {α : Type} {t : TaskId} {p : Prog E K α} (definition : ServerDefinition) (root : Path)
    (h : Listing past c) : Listing
      (past ++ [.asks t p c (Routing.serverFor definition root c).1])
      (Routing.serverFor definition root c).1 := by
  rcases Routing.serverFor_cases definition root c with heq | ⟨hnone, heq⟩
  · rw [heq]
    exact told (m := .asks t p c c) h
  let c' : Client E := (Routing.serverFor definition root c).1
  have hserver : ∀ r ∈ c.routes.servers, c'.server r = c.server r := by
    intro r hr
    exact (congrArg (Client.server · r) heq).trans (Client.server_addServer_of_lt _ (h.lt r hr))
  have hnew : c'.server c.servers.entries.length = Server.new definition root :=
    (congrArg (Client.server · _) heq).trans (Client.server_addServer_new _ c)
  have hlength : c'.servers.entries.length = c.servers.entries.length + 1 :=
    (congrArg (·.servers.entries.length) heq).trans List.length_append
  have hlisted : c'.routes.servers = c.routes.servers ++ [c.servers.entries.length] :=
    congrArg (·.routes.servers) heq
  have honce (hnow : c.ListedOnce) : c'.ListedOnce := by
    refine Client.listedOnce_append hlisted ?_ fun r hr => ?_
    · refine List.Pairwise.imp_of_mem (fun {r s} hr hs hne => ?_) hnow
      rwa [hserver r hr, hserver s hs]
    · rw [hserver r hr, hnew]
      exact hnone r hr
  refine tell (m := .asks t p c c') (fun r hr => ?_) (fun r hr => ?_) ?_
  · rw [Moment.after, hlength]
    rw [Moment.after, hlisted, List.mem_append, List.mem_singleton] at hr
    rcases hr with hr | rfl
    · exact Nat.lt_succ_of_lt (h.lt r hr)
    · exact Nat.lt_succ_self _
  · rw [Moment.after, hlength] at hr
    rcases Nat.lt_succ_iff_lt_or_eq.1 hr with hr | rfl
    · exact .inr (h.used r hr)
    · refine .inl ?_
      rw [Moment.after, hlisted]
      exact List.mem_append_right _ (List.mem_singleton_self _)
  · exact h.once.imp (fun ⟨hnow, hpast⟩ => ⟨honce hnow, hpast⟩) fun h => h.mono _

theorem listed {α : Type} {t : TaskId} {k : Unit → Prog E K α} (s : ServerId)
    (h : Listing past c) : Listing
      (past ++ [.asks t ((Program.modify fun c => Routing.prune (Routing.track s c)).bind k) c
        (Routing.prune (Routing.track s c))])
      (Routing.prune (Routing.track s c)) := by
  let c' : Client E := Routing.prune (Routing.track s c)
  have hserver (r : ServerId) : c'.server r = c.server r := Routing.server_prune_track s r c
  have hlength : c'.servers.entries.length = c.servers.entries.length :=
    Routing.length_prune_track s c
  have hbusy : (Routing.busy c).Sublist c.routes.servers := List.filter_sublist
  have hlisted := Routing.listed_prune_track s c
  by_cases hkept : (c.server s).isIdle = true ∨ s ∈ c.routes.servers
  · rw [if_pos hkept] at hlisted
    have hsettled : c.Settled c' := ⟨hlisted ▸ hbusy, hlength, fun r => by rw [hserver]⟩
    exact told (m := .asks t _ c c') (h.settled hsettled)
  rw [if_neg hkept] at hlisted
  obtain ⟨hidle, hs⟩ := not_or.1 hkept
  have hlt : s < c.servers.entries.length := by
    by_contra hge
    rw [Client.server_of_length_le (Nat.le_of_not_lt hge)] at hidle
    exact hidle rfl
  have honce (hnow : c.ListedOnce)
      (hnone : ∀ r ∈ Routing.busy c, ¬ (c.server r).SameProject (c.server s)) : c'.ListedOnce := by
    refine Client.listedOnce_append hlisted ?_ fun r hr => ?_
    · refine (List.Pairwise.sublist hbusy hnow).imp fun {r x} hne => ?_
      rwa [hserver, hserver]
    · rw [hserver, hserver]
      exact hnone r hr
  refine tell (m := .asks t _ c c') (fun r hr => ?_) (fun r hr => ?_) ?_
  · rw [Moment.after, hlength]
    rw [Moment.after, hlisted, List.mem_append, List.mem_singleton] at hr
    rcases hr with hr | rfl
    · exact h.lt r (hbusy.subset hr)
    · exact hlt
  · exact .inr (h.used r (hlength ▸ hr))
  -- The server has another one of its project beside it, or it has none.
  · rcases h.once with ⟨hnow, hpast⟩ | hrelisted
    · by_cases hother : ∃ r ∈ Routing.busy c, (c.server r).SameProject (c.server s)
      · obtain ⟨r, hr, hsame⟩ := hother
        obtain ⟨hr, hbusy⟩ := List.mem_filter.1 hr
        refine .inr ⟨s, past, [], _, rfl, .intro hs ?_ hr ?_ hsame, h.used s hlt⟩
        · simpa using hidle
        · simpa using hbusy
      · exact .inl ⟨honce hnow fun r hr hsame => hother ⟨r, hr, hsame⟩, hpast⟩
    · exact .inr (hrelisted.mono _)

end Listing

/-- What a client does keeps the list in order, or lists a server again. -/
theorem keeps_listing : (Client.custom : Custom (Client E) (Job K)).Keeps Listing where
  quiet h hc := h.settled hc.settled
  moment h hm := by
    cases hm with
    | mild hc => exact (h.settled hc.settled).told
    | adds hm =>
      cases hm with
      | finds => exact h.found _ _
      | lists => exact h.listed _
      | registers _ _ _ _ _ _ _ =>
        exact .told (m := .asks _ _ _ _) (h.settled (Client.settled_enroll _ _ _))

variable {net : Providers (Client E) (Job K)} {outside : K → Prog E K Unit} {a d : Estate E K}
  {past : List (Moment (Client E) (Job K))}

/-- At no time has a project two servers in use, unless a server that was forgotten is listed again
beside another one of its project. -/
theorem New.listed_once_iff (ha : New net outside a) (hnet : net.Discreet)
    (houtside : ∀ k, (outside k).Discreet) (w : Hall.Walk (rules net) a past d) :
    (d.world.ListedOnce ∧ ∀ m ∈ past, m.after.ListedOnce) ↔ ¬ Relisted past := by
  have hbegin : Listing ([] : List (Moment (Client E) (Job K))) a.world := by
    refine ⟨?_, ?_, .inl ⟨?_, List.forall_mem_nil _⟩⟩
    · rw [ha.listed]
      exact List.forall_mem_nil _
    · rw [ha.servers]
      exact fun s hs => absurd hs (Nat.not_lt_zero s)
    · rw [Client.ListedOnce, ha.listed]
      exact .nil
  have hend := ha.keeps hnet houtside w Client.civil_custom Client.mild_of_same keeps_listing hbegin
  constructor
  · rintro ⟨-, hpast⟩ ⟨s, earlier, later, m, rfl, hm, -⟩
    exact hm.not_listedOnce (hpast m (List.mem_append_right _ List.mem_cons_self))
  · exact hend.once.resolve_right

/-! ## A server that is forgotten -/

end Estate

/-- Providers whose processes take a while to stop. -/
def Providers.lingering : Providers (Client E) (Job K) :=
  { freshPipes with stop := fun _ => Program.sleep 1000 }

theorem Providers.discreet_lingering : (lingering : Providers (Client E) (Job K)).Discreet where
  acquire _ _ := Program.spares_done _
  start _ := Program.spares_act fun _ => rfl
  stop _ := Program.follows_custom_iff.1 (Program.follows_sleep _)
  release _ _ := Program.spares_done _

namespace Estate

/-- A document is pinned to another definition. While it is taken off its old server, the new one is
forgotten and a second one is made for another document. -/
def pinning : List (Hall.Cue (Client Unit) Wish) :=
  [.begins (.opened (document 'f')), .call 0, .begins (.force (document 'f') (dialect 'g')), .call 0,
    .begins (.opened (document 'h')), .call 1, .begins (.opened (document 'g')), .call 1,
    .changes (HasAgenda.modify (·.turnTo 1000)), .call 0]

theorem allowed_pinning : ∀ cue ∈ pinning, cue.Allowed (settlementRules .lingering) := by
  simp [pinning, Hall.Cue.Allowed, rules, View.same_agenda]

theorem New.listed_once_iff_pinning : ∃ past d,
    Hall.Walk (settlementRules .lingering) (settlement .lingering) past d ∧ ¬ d.world.ListedOnce ∧
      Relisted past := by
  obtain ⟨past, d, w, hd⟩ := Hall.exists_walk_of_play (d := settlement .lingering)
    (P := fun _ d => !decide d.world.ListedOnce) allowed_pinning (by decide +kernel)
  have htwice : ¬ d.world.ListedOnce := by simpa using hd
  have hiff := (new_settlement .lingering).listed_once_iff Providers.discreet_lingering
    (fun _ => Program.spares_done _) w
  exact ⟨past, d, w, htwice, not_not.1 fun hnone => htwice (hiff.2 hnone).1⟩

end Estate

end LanguageClient
