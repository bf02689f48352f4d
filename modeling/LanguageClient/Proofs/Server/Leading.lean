import LanguageClient.Proofs.Server.Keeping
import LanguageClient.Proofs.Task.Reliance
import Mathlib.Logic.Relation
namespace LanguageClient

/-!
# Leading

How the scenes of a client follow each other: whatever a task does is made of steps of servers, and
a document comes back to a server only through a task that took it from one before.
-/

open Relation (ReflTransGen)

/-- The document is neither connected nor waiting anywhere, and the editor does not list it. -/
structure Ledger.Lacks (L : Ledger) (uri : String) : Prop where
  connected (s : ServerId) : (L.server s).isConnectedTo uri = false
  pending (s : ServerId) : (L.server s).isPending uri = false
  index : L.index.find? uri = none
  unlisted : ∀ d ∈ L.documents, d.uri ≠ uri

/-- The generations and the crashes of all servers are the same. -/
structure Ledger.Level (L M : Ledger) : Prop where
  length_eq : M.servers.length = L.servers.length
  generation (s : ServerId) : (M.server s).generation = (L.server s).generation
  crashes (s : ServerId) : (M.server s).crashes = (L.server s).crashes

namespace Ledger.Level

variable {L M : Ledger}

theorem refl (L : Ledger) : L.Level L := ⟨rfl, fun _ => rfl, fun _ => rfl⟩

theorem of_servers (h : M.servers = L.servers) : L.Level M := by
  have hserver (s : ServerId) : M.server s = L.server s := by rw [server, server, h]
  refine ⟨by rw [h], fun s => ?_, fun s => ?_⟩ <;> rw [hserver]

theorem put {s : ServerId} {x : Server} (hg : x.generation = (L.server s).generation)
    (hc : x.crashes = (L.server s).crashes) : L.Level (L.put s x) := by
  by_cases hs : s < L.servers.length
  · refine ⟨L.length_put s x, fun r => ?_, fun r => ?_⟩ <;> by_cases hr : s = r
    · rw [← hr, server_put_same L x hs, hg]
    · rw [server_put_ne L x hr]
    · rw [← hr, server_put_same L x hs, hc]
    · rw [server_put_ne L x hr]
  · refine of_servers ?_
    rw [Ledger.put, List.set_eq_of_length_le (Nat.le_of_not_lt hs)]

theorem say {l : LinkId} {e : Link.Event} (h : L.Level M) : L.Level (M.say l e) :=
  ⟨h.length_eq, h.generation, h.crashes⟩

end Ledger.Level

variable {E K : Type}

/-- How moments account for what becomes of generations and crashes: one of them makes the whole
change, or nothing changes. -/
inductive Told (L : Ledger) : List (Moment (Client E) (Job K)) → Ledger → Prop where
  | one {m : Moment (Client E) (Job K)} {M : Ledger} (hbefore : m.before.ledger = L)
      (hafter : m.after.ledger = M) : Told L [m] M
  | level {new : List (Moment (Client E) (Job K))} {M : Ledger} (h : L.Level M)
      (hnew : ∀ m ∈ new, L.Level m.before.ledger ∧ L.Level m.after.ledger) : Told L new M

theorem Told.nil {L M : Ledger} (h : L.Level M) : Told (E := E) (K := K) L [] M :=
  .level h (List.forall_mem_nil _)

namespace Moment

/-- A task takes a list of documents, and this one is among them. -/
inductive Takes (t : TaskId) (uri : String) : Moment (Client E) (Job K) → Prop where
  | documents {γ : Type} {k : List OpenDocument → Prog E K γ} {s : ServerId} {w u : Client E}
      (h : ∃ d ∈ Server.documents s w, d.uri = uri) :
      Takes t uri (.asks t ((Program.read (Server.documents s)).bind k) w u)
  | handled {γ : Type} {k : List OpenDocument → Prog E K γ} {s : ServerId} {w u : Client E}
      (h : ∃ d ∈ Server.handled s w, d.uri = uri) :
      Takes t uri (.asks t ((Program.read (Server.handled s)).bind k) w u)
  | queue {γ : Type} {k : List OpenDocument → Prog E K γ} {s : ServerId} {w u : Client E}
      (h : ∃ d ∈ (w.server s).queue, d.uri = uri) :
      Takes t uri (.asks t ((Program.act (Client.visitServer s Server.takeQueue)).bind k) w u)

/-- A task connects a document to a server, or lets it wait for one. -/
inductive Brings (t : TaskId) (uri : String) : Moment (Client E) (Job K) → Prop where
  | takesIn {γ : Type} {k : Bool → Prog E K γ} {s : ServerId} {d : OpenDocument} {w u : Client E}
      (h : d.uri = uri) : Brings t uri (.asks t ((Program.act (Server.takeIn s d)).bind k) w u)
  | enters {γ : Type} {k : Option SessionId → Prog E K γ} {s : ServerId} {d : OpenDocument}
      {w u : Client E} (h : d.uri = uri) :
      Brings t uri (.asks t ((Program.act (Server.enter s d)).bind k) w u)

end Moment

namespace Scene

/-- What the servers and their tasks are in a scene. -/
def affairs (s : Scene (Client E) (Job K) (Role K)) : Affairs K := ⟨s.roles, s.world.ledger⟩

def Sane (s : Scene (Client E) (Job K) (Role K)) : Prop := s.affairs.Sane

/-- A task was given a document, or has taken it before. -/
def Knows (given : String → Prop) (s : Scene (Client E) (Job K) (Role K)) (t : TaskId)
    (uri : String) : Prop := given uri ∨ ∃ m ∈ s.past, m.Takes t uri

variable (given : String → Prop)

/-- One step of servers, with the moments that belong to it. -/
structure One (o s : Scene (Client E) (Job K) (Role K)) (new : List (Moment (Client E) (Job K))) :
    Prop where
  past_eq : s.past = o.past ++ new
  present : ∀ m ∈ new, ∀ t uri, m.Takes t uri → ¬ o.world.ledger.Lacks uri
  told : Told o.world.ledger new s.world.ledger
  step : Step (fun t uri => s.Knows given t uri ∧ ∃ m ∈ new, m.Brings t uri) given
    o.affairs s.affairs

def Leads : Scene (Client E) (Job K) (Role K) → Scene (Client E) (Job K) (Role K) → Prop :=
  ReflTransGen fun o s => ∃ new, One given o s new

end Scene

/-- Tasks owe each other that they go on in steps of servers, and that they hold on to what they
began: only a task that has no lifecycle may be aborted. -/
def Regime.ofClient (given : String → Prop) : Regime (Client E) (Job K) (Role K) where
  guar := Scene.Leads given
  rely := Scene.Leads given
  unborn := .new .unborn
  Droppable ρ := ρ.hold = none
  Hires job ρ := ρ = .ofJob job

theorem Regime.fair_ofClient (given : String → Prop) :
    (Regime.ofClient given : Regime (Client E) (Job K) (Role K)).Fair where
  refl _ := .refl
  rely h := h
  trans := .trans

namespace Scene

variable {given : String → Prop} {o s s' : Scene (Client E) (Job K) (Role K)}

@[simp] theorem roles_affairs (s : Scene (Client E) (Job K) (Role K)) :
    s.affairs.roles = s.roles := rfl

@[simp] theorem ledger_affairs (s : Scene (Client E) (Job K) (Role K)) :
    s.affairs.ledger = s.world.ledger := rfl

/-! ## Moments -/

theorem uri_of_uris {c : Client E} {i : SessionId} {uri : String}
    (h : c.ledger.uris[i]? = some uri) : (c.session i).uri = uri := by
  simp only [Client.ledger, List.getElem?_map, Option.map_eq_some_iff] at h
  obtain ⟨session, hsession, huri⟩ := h
  rw [Client.session, Store.get, Store.get?, hsession]
  exact huri

theorem keyed_uri {A : Affairs K} {c : Client E} (h : A.Keyed) (hc : c.ledger = A.ledger)
    {s : ServerId} {e : String × SessionId} (he : e ∈ (c.server s).connected) :
    (c.session e.2).uri = e.1 := by
  have hs : (A.server s).connected = (c.server s).connected := by
    rw [Affairs.server, ← hc, Client.server_ledger, Server.connected_plain]
  exact uri_of_uris (hc ▸ h s e (hs ▸ he))

/-- What a task takes is there. -/
theorem not_lacks_of_takes {A : Affairs K} {m : Moment (Client E) (Job K)} {t : TaskId}
    {uri : String} (h : m.Takes t uri) (hA : A.Keyed) (hm : m.before.ledger = A.ledger) :
    ¬ A.ledger.Lacks uri := by
  rintro hl
  rw [← hm] at hl
  cases h with
  | @documents γ k s w u h =>
    obtain ⟨d, hd, rfl⟩ := h
    have hserver : w.ledger.server s = (w.server s).plain := w.server_ledger s
    rcases List.mem_append.1 hd with hd | hd
    · obtain ⟨e, he, rfl⟩ := List.mem_map.1 hd
      have hconnected := hl.connected s
      dsimp only [Moment.before] at hconnected hm
      rw [hserver, keyed_uri hA hm he] at hconnected
      exact absurd hconnected (by simpa [Server.isConnectedTo] using ⟨e.2, he⟩)
    · have hpending := hl.pending s
      dsimp only [Moment.before] at hpending
      rw [hserver] at hpending
      exact absurd hpending
        (by simpa [Server.isPending] using ⟨d, (List.mem_filter.1 hd).1, rfl⟩)
  | handled h =>
    obtain ⟨d, hd, rfl⟩ := h
    exact hl.unlisted d (List.mem_filter.1 hd).1 rfl
  | @queue γ k s w u h =>
    obtain ⟨d, hd, rfl⟩ := h
    have hpending := hl.pending s
    dsimp only [Moment.before] at hpending
    rw [w.server_ledger s] at hpending
    exact absurd hpending (by simpa [Server.isPending] using ⟨d, hd, rfl⟩)

/-- A step, with the one moment that belongs to it. -/
theorem One.leads {t : TaskId} {γ : Type} {p : Prog E K γ} {w : Client E} {ρ : TaskId → Role K}
    (hs : s.Sane)
    (h : Step (fun u uri => (s.asked t p w).Knows given u uri ∧
      Moment.Brings u uri (.asks t p s.world w)) given s.affairs ⟨ρ, w.ledger⟩) :
    Leads given s { s.asked t p w with roles := ρ } := by
  refine .single ⟨[.asks t p s.world w], rfl, ?_, .one rfl rfl, ?_⟩
  · intro m hm u uri ht
    obtain rfl := List.mem_singleton.1 hm
    exact not_lacks_of_takes ht hs.keyed rfl
  · simp only [List.mem_singleton, exists_eq_left]
    exact h

theorem Leads.one {t : TaskId} {γ : Type} {p : Prog E K γ} {w : Client E} (hs : s.Sane)
    (h : Step (fun u uri => (s.asked t p w).Knows given u uri ∧
      Moment.Brings u uri (.asks t p s.world w)) given s.affairs (s.asked t p w).affairs) :
    Leads given s (s.asked t p w) := One.leads hs h

theorem Leads.put {w : Client E} (h : w.ledger = s.world.ledger) : Leads given s (s.put w) := by
  refine .single ⟨[], (List.append_nil _).symm, nofun, .nil ?_, .aside ?_⟩
  · exact .of_servers (congrArg Ledger.servers h)
  have heq : (s.put w).affairs = s.affairs := congrArg (Affairs.mk s.roles) h
  rw [heq]
  exact .same

theorem Leads.asked {t : TaskId} {γ : Type} {p : Prog E K γ} {w : Client E} (hs : s.Sane)
    (h : w.ledger = s.world.ledger) : Leads given s (s.asked t p w) := by
  refine One.leads hs (.aside ?_)
  rw [h]
  exact .same

theorem Leads.gaveUp {t : TaskId} {γ : Type} {p : Prog E K γ} {w : Client E}
    (h : w.ledger = s.world.ledger) : Leads given s (s.gaveUp t p w) := by
  refine .single ⟨[.givesUp t p s.world], rfl, fun m hm u uri ht => ?_, .one rfl h.symm, .aside ?_⟩
  · obtain rfl := List.mem_singleton.1 hm
    exact nomatch ht
  · have heq : (s.gaveUp t p w).affairs = s.affairs := congrArg (Affairs.mk s.roles) h
    rw [heq]
    exact .same

/-! ## What is kept -/

theorem Leads.sane (h : Leads given s s') (hs : s.Sane) : s'.Sane := by
  induction h with
  | refl => exact hs
  | tail _ h ih =>
    obtain ⟨new, h⟩ := h
    exact ih.step h.step

/-- What every step keeps is kept. -/
theorem Leads.keeps {P : Affairs K → Prop} (h : Leads given s s') (hs : s.Sane) (hp : P s.affairs)
    (hP : ∀ {may : TaskId → String → Prop} {A B : Affairs K}, A.Sane → Step may given A B →
      P A → P B) : P s'.affairs := by
  induction h with
  | refl => exact hp
  | tail hl h ih =>
    obtain ⟨new, h⟩ := h
    exact hP (Leads.sane hl hs) h.step ih

theorem Leads.founded (h : Leads given s s') (hs : s.Sane) {job : Job K}
    (hj : s.affairs.Founded job) : s'.affairs.Founded job :=
  h.keeps hs hj fun hA hAB => hA.founded_step hAB

theorem Leads.genuine (h : Leads given s s') (hs : s.Sane) {a : Access}
    (ha : s.affairs.Genuine a) : s'.affairs.Genuine a :=
  h.keeps hs ha fun hA hAB => hA.genuine_step hAB

theorem Leads.origin (h : Leads given s s') (hs : s.Sane) {t : TaskId}
    (ht : (s.roles t).origin ≠ .unborn) : (s'.roles t).origin = (s.roles t).origin :=
  h.keeps (P := fun A => (A.roles t).origin = (s.roles t).origin) hs rfl
    fun hA hAB hp => (hA.origin_step hAB (hp ▸ ht)).trans hp

theorem Leads.length_eq (h : Leads given s s') (hs : s.Sane) :
    s'.world.ledger.servers.length = s.world.ledger.servers.length :=
  h.keeps (P := fun A => A.ledger.servers.length = s.world.ledger.servers.length) hs rfl
    fun hA hAB hp => (hA.length_step hAB).trans hp

theorem Leads.past (h : Leads given s s') : ∃ later, s'.past = s.past ++ later := by
  induction h with
  | refl => exact ⟨[], (List.append_nil _).symm⟩
  | tail _ h ih =>
    obtain ⟨later, ih⟩ := ih
    obtain ⟨new, h⟩ := h
    exact ⟨later ++ new, by rw [h.past_eq, ih, List.append_assoc]⟩

theorem Leads.knows (h : Leads given s s') {t : TaskId} {uri : String}
    (hk : s.Knows given t uri) : s'.Knows given t uri := by
  obtain ⟨later, hp⟩ := h.past
  rcases hk with hk | ⟨m, hm, hk⟩
  · exact .inl hk
  · refine .inr ⟨m, ?_, hk⟩
    rw [hp]
    exact List.mem_append_left _ hm

end Scene

end LanguageClient
