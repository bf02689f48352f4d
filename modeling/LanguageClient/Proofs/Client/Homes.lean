import LanguageClient.Proofs.Client.Estate
import LanguageClient.Proofs.Server.House
namespace LanguageClient

/-!
# Homes

Every session belongs to one server for good. As long as nobody outside moves a session to another
server, servers are connected to their own sessions only, and the index enters every session with
the server that it belongs to.
-/

open Program

variable {E K : Type} {c c' : Client E}

namespace Routing

theorem homely_serverFor (definition : ServerDefinition) (root : Path) (c : Client E) :
    c.Homely (serverFor definition root c).1 := by
  rcases serverFor_cases definition root c with heq | ⟨_, heq⟩
  · rw [heq]
    exact .refl c
  · rw [heq]
    refine .of_subset rfl (fun s => ?_) (List.Subset.refl _)
    -- A server that is made is connected to nothing.
    rcases Client.server_addServer (Server.new definition root) s c with hold | hnew
    · exact (congrArg Server.connected hold) ▸ List.Subset.refl _
    · exact (congrArg Server.connected hnew) ▸ List.nil_subset _

theorem homely_prune_track (s : ServerId) (c : Client E) : c.Homely (prune (track s c)) := by
  unfold track
  split <;> exact .of_servers rfl rfl (List.Subset.refl _)

end Routing

namespace Client

theorem homely_enroll (s : ServerId) (rs : List Registration) (c : Client E) :
    c.Homely (c.enroll s rs) := by
  refine .of_subset (homes_visitServer s _ c) (fun r => ?_) (index_visitServer s _ c ▸ .refl _)
  rcases server_enroll s r rs c with heq | ⟨rfl, _, heq⟩
  · rw [heq]
    exact List.Subset.refl _
  · rw [heq]
    exact List.Subset.refl _

/-- Everything is done in a homely way. -/
def homely : Custom (Client E) (Job K) where
  Quiet := Homely
  Allows m := m.before.Homely m.after
  refl := .refl
  trans := .trans
  agenda _ _ := .of_servers rfl rfl (List.Subset.refl _)
  allows h := h

theorem civil_homely : (homely : Custom (Client E) (Job K)).Civil where
  gentle h := h.toHomely
  adds h := by
    cases h with
    | finds => exact Routing.homely_serverFor _ _ _
    | lists => exact Routing.homely_prune_track _ _
    | registers => exact homely_enroll _ _ _
  warns h := h.soft.toHomely

/-- Sessions are connected and entered where they belong. -/
structure AtHome (c : Client E) : Prop where
  connected {s : ServerId} {e : String × SessionId} (h : e ∈ (c.server s).connected) :
    c.homes[e.2]? = some s
  index {e : String × DocumentIndex.Entry} (h : e ∈ c.index.entries) :
    c.homes[e.2.session]? = some e.2.server

theorem Homely.atHome (h : c.Homely c') (hc : c.AtHome) : c'.AtHome := by
  refine ⟨fun {s e} he => ?_, fun {e} he => ?_⟩
  · exact (h.connected s e he).elim (fun he => h.stays (hc.connected he)) id
  · exact (h.index e he).elim (fun he => h.stays (hc.index he)) id

theorem keeps_atHome :
    (homely : Custom (Client E) (Job K)).Keeps fun _ (c : Client E) => c.AtHome where
  quiet hc h := h.atHome hc
  moment hc h := Homely.atHome h hc

theorem AtHome.server_eq (h : c.AtHome) {s : ServerId} {e : String × SessionId}
    (he : e ∈ (c.server s).connected) : (c.session e.2).server = s := by
  have hhome := h.connected he
  rw [homes, List.getElem?_map] at hhome
  obtain ⟨x, hx, rfl⟩ := Option.map_eq_some_iff.1 hhome
  rw [session, Store.get, Store.get?, hx]
  rfl

/-- A session that one server has is not entered for another. -/
theorem AtHome.server_eq_of_index (h : c.AtHome) {s : ServerId}
    {e : String × DocumentIndex.Entry} (he : e ∈ c.index.entries)
    (hs : (e.1, e.2.session) ∈ (c.server s).connected) : e.2.server = s :=
  Option.some.inj ((h.index he).symm.trans (h.connected hs))

end Client

/-! ## Houses -/

section

variable {given : String → Prop} {n : Nat} {net : Providers (Client E) (Job K)}

theorem Demand.proper_run {C : Custom (Client E) (Job K)} (hC : C.Civil) (hnet : net.Proper C)
    (d : Demand given n) : Prog.Proper C (d.run net) := by
  cases d with
  | start s => exact Server.proper_start hC hnet s
  | stop s => exact Server.proper_stop hC hnet s
  | restart s => exact Server.proper_restart hC hnet s
  | connect s d _ => exact Server.proper_connect hC hnet s d
  | disconnect s uri => exact Server.proper_disconnect hC hnet s uri
  | close uri => exact Routing.proper_disconnect hC hnet uri
  | errand e => exact e.proper_run hC

variable (given n net) in
/-- What may happen in a house if nobody outside moves a session to another server. -/
def House.homelyRules : Hall.Rules (Client E) (Job K) fun _ : Demand given n => Unit :=
  { rules given n net with outside := fun c c' => Client.Beside given c c' ∧ c'.homes = c.homes }

namespace House

variable {outside : K → Prog E K Unit} {a d : House given n E K}
  {past : List (Moment (Client E) (Job K))}

/-- All that may happen may happen in any house. -/
theorem walk_of_homely (w : Hall.Walk (homelyRules given n net) a past d) :
    Hall.Walk (rules given n net) a past d :=
  w.mono rfl (fun _ h => h) fun _ _ h => h.1

theorem homely_of_beside (h : Client.Beside given c c') (hhomes : c'.homes = c.homes) :
    c.Homely c' := by
  obtain ⟨documents, _, hledger⟩ := h
  refine .of_subset hhomes (fun s => ?_) ?_
  · have hserver : (c'.server s).plain = (c.server s).plain := by
      rw [← c'.server_ledger, ← c.server_ledger, hledger]
      rfl
    exact congrArg Server.connected hserver ▸ List.Subset.refl _
  · exact congrArg (·.index.entries) hledger ▸ List.Subset.refl _

theorem New.atHome (ha : New net outside a) (hnet : net.Proper Client.homely)
    (houtside : ∀ k, (outside k).Proper Client.homely)
    (w : Hall.Walk (homelyRules given n net) a past d) : d.world.AtHome := by
  have hrules : (homelyRules given n net).Follow Client.homely :=
    ⟨fun d => d.proper_run Client.civil_homely hnet, fun h => homely_of_beside h.1 h.2⟩
  have hfollows : Hall.Follows Client.homely a := by
    refine ⟨⟨fun job => ?_, ?_⟩, ?_⟩
    · rw [ha.perform_eq]
      exact job.proper_perform Client.civil_homely hnet houtside
    · rw [ha.tasks]
      exact List.forall_mem_nil _
    · rw [ha.calls]
      exact List.forall_mem_nil _
  refine w.keeps Client.keeps_atHome hrules hfollows ⟨fun {s e} he => ?_, fun {e} he => ?_⟩
  · obtain ⟨definition, root, hserver⟩ := ha.server_eq s
    rw [Affairs.server, Scene.ledger_affairs, Client.server_ledger] at hserver
    have hnone : (a.world.server s).connected = [] := congrArg Server.connected hserver
    rw [hnone] at he
    exact absurd he List.not_mem_nil
  · rw [ha.index] at he
    exact absurd he List.not_mem_nil

end House

end

end LanguageClient
