import LanguageClient.Proofs.Client.Lenience
import LanguageClient.Proofs.Transport.Traffic
namespace LanguageClient

/-!
# Deeds

Who adds to the list of servers in use or to a table of registrations: whoever looks for the server
of a project, whoever lists a server again after it was given a document, and whoever answers a
request to register something. All else that a client does only takes away from them.
-/

namespace RegistrationTable

/-- All that a table has under each id: the method, and the watchers if it has any. -/
def entries (t : RegistrationTable) : List (String × (DynamicMethod ⊕ List FileWatcher)) :=
  t.methods.map (fun e => (e.1, .inl e.2)) ++ t.watchers.map fun e => (e.1, .inr e.2)

variable {t : RegistrationTable} {e : String × (DynamicMethod ⊕ List FileWatcher)}

theorem mem_put {α : Type} {key : String} {value : α} {l : List (String × α)} {e : String × α}
    (h : e ∈ put key value l) : e ∈ l ∨ e = (key, value) := by
  induction l with
  | nil => exact .inr (List.mem_singleton.1 h)
  | cons x l ih =>
    obtain ⟨k, v⟩ := x
    rw [put] at h
    split at h
    · rename_i heq
      rcases List.mem_cons.1 h with rfl | h
      · exact .inr (heq ▸ rfl)
      · exact .inl (List.mem_cons_of_mem _ h)
    · rcases List.mem_cons.1 h with rfl | h
      · exact .inl List.mem_cons_self
      · exact (ih h).imp_left (List.mem_cons_of_mem _)

/-- What a registration brings is what it brings to an empty table. -/
theorem mem_entries_register {r : Registration} (h : e ∈ (t.register r).entries) :
    e ∈ t.entries ∨ e ∈ (empty.register r).entries := by
  rcases List.mem_append.1 h with h | h
  · obtain ⟨x, hx, rfl⟩ := List.mem_map.1 h
    rcases mem_put hx with hx | rfl
    · exact .inl (List.mem_append_left _ (List.mem_map_of_mem hx))
    · exact .inr (List.mem_append_left _ (List.mem_map_of_mem List.mem_cons_self))
  · obtain ⟨x, hx, rfl⟩ := List.mem_map.1 h
    dsimp only [register] at hx
    split at hx
    · rename_i hwatches
      rcases mem_put hx with hx | rfl
      · exact .inl (List.mem_append_right _ (List.mem_map_of_mem hx))
      · refine .inr (List.mem_append_right _ (List.mem_map_of_mem ?_))
        dsimp only [register]
        rw [if_pos hwatches]
        exact List.mem_cons_self
    · exact .inl (List.mem_append_right _ (List.mem_map_of_mem hx))

theorem mem_entries_registerAll {rs : List Registration}
    (h : e ∈ (rs.foldl (·.register ·) t).entries) :
    e ∈ t.entries ∨ ∃ r ∈ rs, e ∈ (empty.register r).entries := by
  induction rs generalizing t with
  | nil => exact .inl h
  | cons r rs ih =>
    rcases ih h with h | ⟨r', hr', h⟩
    · exact (mem_entries_register h).imp_right fun h => ⟨r, List.mem_cons_self, h⟩
    · exact .inr ⟨r', List.mem_cons_of_mem _ hr', h⟩

theorem entries_remove_subset (t : RegistrationTable) (gone : String → Bool) :
    (t.remove gone).entries ⊆ t.entries := by
  intro e h
  rcases List.mem_append.1 h with h | h
  · obtain ⟨x, hx, rfl⟩ := List.mem_map.1 h
    exact List.mem_append_left _ (List.mem_map_of_mem (List.mem_filter.1 hx).1)
  · obtain ⟨x, hx, rfl⟩ := List.mem_map.1 h
    exact List.mem_append_right _ (List.mem_map_of_mem (List.mem_filter.1 hx).1)

theorem entries_unregister_subset (t : RegistrationTable) (u : Unregistration) :
    (t.unregister u).entries ⊆ t.entries := by
  unfold unregister
  split <;> exact entries_remove_subset t _

theorem entries_unregisterAll_subset (us : List Unregistration) (t : RegistrationTable) :
    (us.foldl (·.unregister ·) t).entries ⊆ t.entries := by
  induction us generalizing t with
  | nil => exact List.Subset.refl _
  | cons u us ih => exact List.Subset.trans (ih _) (entries_unregister_subset t u)

end RegistrationTable

open Program

variable {E K : Type} {α β : Type} {c c' c'' : Client E}

/-! ## Changes -/

/-- What a server is for: its definition and its root. -/
def Server.project (x : Server) : ServerDefinition × Path := (x.definition, x.root)

/-- The server keeps its project, and nothing is registered. -/
structure Server.Mild (x y : Server) : Prop where
  project_eq : y.project = x.project
  registrations : y.registrations.entries ⊆ x.registrations.entries

theorem Server.Mild.refl (x : Server) : x.Mild x := ⟨rfl, List.Subset.refl _⟩

theorem Server.Mild.trans {x y z : Server} (h : x.Mild y) (k : y.Mild z) : x.Mild z :=
  ⟨k.project_eq.trans h.project_eq, List.Subset.trans k.registrations h.registrations⟩

/-- Nor is a session connected. -/
structure Server.Soft (x y : Server) : Prop extends x.Mild y where
  connected : y.connected ⊆ x.connected

theorem Server.Soft.trans {x y z : Server} (h : x.Soft y) (k : y.Soft z) : x.Soft z :=
  ⟨h.toMild.trans k.toMild, List.Subset.trans k.connected h.connected⟩

/-- Nor is it told that the server keeps crashing, or its crashes forgiven. -/
structure Server.Gentle (x y : Server) : Prop extends x.Soft y where
  crashShown : y.crashShown = x.crashShown

theorem Server.Gentle.refl (x : Server) : x.Gentle x := ⟨⟨.refl x, List.Subset.refl _⟩, rfl⟩

theorem Server.Gentle.trans {x y z : Server} (h : x.Gentle y) (k : y.Gentle z) : x.Gentle z :=
  ⟨h.toSoft.trans k.toSoft, k.crashShown.trans h.crashShown⟩

theorem Server.soft_of_eq {x y : Server} (hproject : y.project = x.project)
    (hregistrations : y.registrations = x.registrations) (h : y.connected = x.connected) :
    x.Soft y :=
  ⟨⟨hproject, hregistrations ▸ List.Subset.refl _⟩, h ▸ List.Subset.refl _⟩

theorem Server.gentle_of_eq {x y : Server} (hproject : y.project = x.project)
    (hregistrations : y.registrations = x.registrations) (h : y.connected = x.connected)
    (hshown : y.crashShown = x.crashShown) : x.Gentle y :=
  ⟨soft_of_eq hproject hregistrations h, hshown⟩

/-- No server is made or listed, all keep their projects, and nothing is registered. -/
structure Client.Mild (c c' : Client E) : Prop where
  listed : c'.routes.servers.Sublist c.routes.servers
  length_eq : c'.servers.entries.length = c.servers.entries.length
  server (s : ServerId) : (c.server s).Mild (c'.server s)

/-- The sessions stay with their servers. A new session is connected to its own server only, and
entered in the index with it. -/
structure Client.Homely (c c' : Client E) : Prop where
  homes : c.homes <+: c'.homes
  connected (s : ServerId) : ∀ e ∈ (c'.server s).connected,
    e ∈ (c.server s).connected ∨ c'.homes[e.2]? = some s
  index : ∀ e ∈ c'.index.entries,
    e ∈ c.index.entries ∨ c'.homes[e.2.session]? = some e.2.server

structure Client.Soft (c c' : Client E) : Prop extends c.Mild c', c.Homely c'

structure Client.Gentle (c c' : Client E) : Prop extends c.Soft c' where
  crashShown (s : ServerId) : (c'.server s).crashShown = (c.server s).crashShown

namespace Client

namespace Mild

theorem of_servers (hservers : c'.servers = c.servers)
    (hlisted : c'.routes.servers.Sublist c.routes.servers) : c.Mild c' := by
  refine ⟨hlisted, by rw [hservers], fun s => ?_⟩
  rw [Client.server, Client.server, hservers]
  exact .refl _

theorem of_eq (hservers : c'.servers = c.servers) (hroutes : c'.routes = c.routes) : c.Mild c' :=
  of_servers hservers (hroutes ▸ List.Sublist.refl _)

theorem refl (c : Client E) : c.Mild c := of_eq rfl rfl

theorem trans (h : c.Mild c') (k : c'.Mild c'') : c.Mild c'' :=
  ⟨k.listed.trans h.listed, k.length_eq.trans h.length_eq, fun s => (h.server s).trans (k.server s)⟩

end Mild

namespace Homely

theorem of_subset (hhomes : c'.homes = c.homes)
    (hconnected : ∀ s, (c'.server s).connected ⊆ (c.server s).connected)
    (hindex : c'.index.entries ⊆ c.index.entries) : c.Homely c' :=
  ⟨hhomes ▸ List.prefix_refl _, fun s _ he => .inl (hconnected s he), fun _ he => .inl (hindex he)⟩

theorem of_servers (hservers : c'.servers = c.servers) (hhomes : c'.homes = c.homes)
    (hindex : c'.index.entries ⊆ c.index.entries) : c.Homely c' := by
  refine of_subset hhomes (fun s => ?_) hindex
  rw [Client.server, Client.server, hservers]
  exact List.Subset.refl _

theorem refl (c : Client E) : c.Homely c := of_servers rfl rfl (List.Subset.refl _)

theorem stays (h : c.Homely c') {x : SessionId} {s : ServerId} (hx : c.homes[x]? = some s) :
    c'.homes[x]? = some s := by
  obtain ⟨later, heq⟩ := h.homes
  rw [← heq, List.getElem?_append_left (List.getElem?_eq_some_iff.1 hx).1]
  exact hx

theorem trans (h : c.Homely c') (k : c'.Homely c'') : c.Homely c'' := by
  refine ⟨h.homes.trans k.homes, fun s e he => ?_, fun e he => ?_⟩
  · rcases k.connected s e he with he | hhome
    · exact (h.connected s e he).imp_right k.stays
    · exact .inr hhome
  · rcases k.index e he with he | hhome
    · exact (h.index e he).imp_right k.stays
    · exact .inr hhome

end Homely

namespace Soft

theorem of_servers (hservers : c'.servers = c.servers) (hhomes : c'.homes = c.homes)
    (hindex : c'.index.entries ⊆ c.index.entries)
    (hlisted : c'.routes.servers.Sublist c.routes.servers) : c.Soft c' :=
  ⟨.of_servers hservers hlisted, .of_servers hservers hhomes hindex⟩

theorem of_eq (hservers : c'.servers = c.servers) (hroutes : c'.routes = c.routes)
    (hindex : c'.index = c.index) (hhomes : c'.homes = c.homes) : c.Soft c' :=
  of_servers hservers hhomes (hindex ▸ List.Subset.refl _) (hroutes ▸ List.Sublist.refl _)

theorem trans (h : c.Soft c') (k : c'.Soft c'') : c.Soft c'' :=
  ⟨h.toMild.trans k.toMild, h.toHomely.trans k.toHomely⟩

end Soft

namespace Gentle

theorem of_servers (hservers : c'.servers = c.servers) (hhomes : c'.homes = c.homes)
    (hindex : c'.index.entries ⊆ c.index.entries)
    (hlisted : c'.routes.servers.Sublist c.routes.servers) : c.Gentle c' := by
  refine ⟨.of_servers hservers hhomes hindex hlisted, fun s => ?_⟩
  rw [Client.server, Client.server, hservers]

theorem of_eq (hservers : c'.servers = c.servers) (hroutes : c'.routes = c.routes)
    (hindex : c'.index = c.index) (hhomes : c'.homes = c.homes) : c.Gentle c' :=
  of_servers hservers hhomes (hindex ▸ List.Subset.refl _) (hroutes ▸ List.Sublist.refl _)

theorem refl (c : Client E) : c.Gentle c := of_eq rfl rfl rfl rfl

theorem trans (h : c.Gentle c') (k : c'.Gentle c'') : c.Gentle c'' :=
  ⟨h.toSoft.trans k.toSoft, fun s => (k.crashShown s).trans (h.crashShown s)⟩

end Gentle

theorem gentle_updateRoutes (c : Client E) {f : Routes → Routes}
    (h : (f c.routes).servers.Sublist c.routes.servers) : c.Gentle (c.updateRoutes f) :=
  .of_servers rfl rfl (List.Subset.refl _) h

/-- Whoever watches the status apart, the server is what the change makes of it. -/
theorem servers_visitServer (s : ServerId) (f : Server → Server × β) (c : Client E) :
    ∃ watchers, (c.visitServer s f).1.servers =
      c.servers.update s fun _ => { (f (c.server s)).1 with watchers } := by
  unfold visitServer
  dsimp only
  split
  · exact ⟨[], rfl⟩
  · exact ⟨_, rfl⟩

theorem server_visitServer (s r : ServerId) (f : Server → Server × β) (c : Client E) :
    (c.visitServer s f).1.server r = c.server r ∨ r = s ∧ ∃ watchers,
      (c.visitServer s f).1.server r = { (f (c.server s)).1 with watchers } := by
  obtain ⟨watchers, hservers⟩ := servers_visitServer s f c
  rw [server, server, hservers]
  exact (Store.get_update c.servers s r _).imp_right fun ⟨hr, h⟩ => ⟨hr, watchers, h⟩

theorem length_visitServer (s : ServerId) (f : Server → Server × β) (c : Client E) :
    (c.visitServer s f).1.servers.entries.length = c.servers.entries.length := by
  unfold visitServer
  dsimp only
  split <;> exact List.length_modify ..

theorem listed_visitServer (s : ServerId) (f : Server → Server × β) (c : Client E) :
    (c.visitServer s f).1.routes = c.routes := by
  unfold visitServer
  dsimp only
  split <;> rfl

theorem homes_visitServer (s : ServerId) (f : Server → Server × β) (c : Client E) :
    (c.visitServer s f).1.homes = c.homes := by
  unfold visitServer
  dsimp only
  split <;> rfl

theorem index_visitServer (s : ServerId) (f : Server → Server × β) (c : Client E) :
    (c.visitServer s f).1.index = c.index := by
  unfold visitServer
  dsimp only
  split <;> rfl

theorem soft_visitServer {s : ServerId} {f : Server → Server × β}
    (h : (c.server s).Soft (f (c.server s)).1) : c.Soft (c.visitServer s f).1 := by
  have hserver (r : ServerId) : (c.server r).Soft ((c.visitServer s f).1.server r) := by
    rcases server_visitServer s r f c with heq | ⟨rfl, watchers, heq⟩
    · rw [heq]
      exact (Server.Gentle.refl _).toSoft
    · rw [heq]
      exact ⟨⟨h.project_eq, h.registrations⟩, h.connected⟩
  refine ⟨⟨(listed_visitServer s f c).symm ▸ List.Sublist.refl _, length_visitServer s f c, ?_⟩,
    .of_subset (homes_visitServer s f c) (fun r => (hserver r).connected) ?_⟩
  · exact fun r => (hserver r).toMild
  · exact index_visitServer s f c ▸ List.Subset.refl _

theorem gentle_visitServer {s : ServerId} {f : Server → Server × β}
    (h : (c.server s).Gentle (f (c.server s)).1) : c.Gentle (c.visitServer s f).1 := by
  refine ⟨soft_visitServer h.toSoft, fun r => ?_⟩
  rcases server_visitServer s r f c with heq | ⟨rfl, watchers, heq⟩
  · rw [heq]
  · rw [heq]
    exact h.crashShown

theorem gentle_updateServer (s : ServerId) (f : Server → Server)
    (h : (c.server s).Gentle (f (c.server s))) : c.Gentle (c.updateServer s f) :=
  gentle_visitServer h

end Client

/-! ## The custom of a client -/

/-- Registers all at a server. -/
def Client.enroll (s : ServerId) (rs : List Registration) (c : Client E) : Client E :=
  c.updateServer s fun x => { x with registrations := rs.foldl (·.register ·) x.registrations }

namespace Client

theorem server_enroll (s r : ServerId) (rs : List Registration) (c : Client E) :
    (c.enroll s rs).server r = c.server r ∨ r = s ∧ ∃ watchers,
      (c.enroll s rs).server r = { c.server s with
        registrations := rs.foldl (·.register ·) (c.server s).registrations, watchers } :=
  server_visitServer s r
    (fun x => ({ x with registrations := rs.foldl (·.register ·) x.registrations }, ())) c

/-- What adds to the list of servers or to a table of registrations. -/
inductive Adds : Moment (Client E) (Job K) → Prop where
  | finds {α : Type} {t : TaskId} {k : ServerId → Prog E K α} {definition : ServerDefinition}
      {root : Path} {c : Client E} : Adds (.asks t ((act (Routing.serverFor definition root)).bind k) c
        (Routing.serverFor definition root c).1)
  | lists {α : Type} {t : TaskId} {k : Unit → Prog E K α} {s : ServerId} {c : Client E} :
      Adds (.asks t ((modify fun c => Routing.prune (Routing.track s c)).bind k) c
        (Routing.prune (Routing.track s c)))
  | registers {α : Type} (t : TaskId) (k : Unit → Prog E K α) (owner : LinkOwner) (l : LinkId)
      (id : RequestId) {params j : Json} (c : Client E)
      (h : LinkOwner.params Shape.registrationParams params = .ok j) :
      Adds (.asks t
        ((Link.answer owner.handler l id "client/registerCapability" params).bind k) c
        (c.enroll owner.server
          ((LinkOwner.list j "registrations").map LinkOwner.registration)))

/-- What tells that a server keeps crashing, or forgives its crashes. -/
inductive Warns : Moment (Client E) (Job K) → Prop where
  | shows {α : Type} {t : TaskId} {k : Unit → Prog E K α} {s : ServerId} {e : ClientError}
      {c : Client E} : Warns (.asks t ((modify (Server.showCrash s e)).bind k) c
        (Server.showCrash s e c))
  | forgives {α : Type} {t : TaskId} {k : Unit → Prog E K α} {s : ServerId} {c : Client E} :
      Warns (.asks t ((modify (updateServer s Server.forgive)).bind k) c
        (c.updateServer s Server.forgive))

theorem Warns.soft {m : Moment (Client E) (Job K)} (h : Warns m) : m.before.Soft m.after := by
  cases h with
  | @shows _ _ _ s e c =>
      change c.Soft (Server.showCrash s e c)
      unfold Server.showCrash
      dsimp only
      split
      · exact (Gentle.refl c).toSoft
      · have hshown : c.Soft (c.updateServer s fun x => { x with crashShown := true }) :=
          soft_visitServer (Server.soft_of_eq rfl rfl rfl)
        exact hshown.trans (.of_eq rfl rfl rfl rfl)
  | forgives => exact soft_visitServer (Server.soft_of_eq rfl rfl rfl)

inductive Deed : Moment (Client E) (Job K) → Prop where
  | mild {m : Moment (Client E) (Job K)} (h : m.before.Mild m.after) : Deed m
  | adds {m : Moment (Client E) (Job K)} (h : Adds m) : Deed m

def custom : Custom (Client E) (Job K) where
  Quiet := Mild
  Allows := Deed
  refl := .refl
  trans := .trans
  agenda _ _ := .of_eq rfl rfl
  allows := .mild

end Client

/-- A custom by which clients live. -/
structure Custom.Civil (C : Custom (Client E) (Job K)) : Prop where
  gentle {c c' : Client E} (h : c.Gentle c') : C.Quiet c c'
  adds {m : Moment (Client E) (Job K)} (h : Client.Adds m) : C.Allows m
  warns {m : Moment (Client E) (Job K)} (h : Client.Warns m) : C.Allows m

theorem Custom.Civil.lenient {C : Custom (Client E) (Job K)} (hC : C.Civil) : C.Lenient :=
  fun _ _ hservers hroutes hindex hhomes => hC.gentle (.of_eq hservers hroutes hindex hhomes)

theorem Client.civil_custom : (custom : Custom (Client E) (Job K)).Civil :=
  ⟨fun h => h.toMild, .adds, fun h => .mild h.soft.toMild⟩

/-- The program follows a custom of clients. -/
abbrev Prog.Proper (C : Custom (Client E) (Job K)) (p : Prog E K α) : Prop := p.Follows C

section

variable {C : Custom (Client E) (Job K)} (hC : C.Civil)

include hC

theorem Program.proper_updateServer {s : ServerId} {f : Server → Server}
    (h : ∀ x : Server, x.Gentle (f x)) :
    Prog.Proper C (modify (Client.updateServer s f) : Prog E K Unit) :=
  follows_modify fun _ => hC.gentle (Client.gentle_updateServer s f (h _))

theorem Program.proper_visitServer {s : ServerId} {f : Server → Server × α}
    (h : ∀ x : Server, x.Gentle (f x).1) :
    Prog.Proper C (act (Client.visitServer s f) : Prog E K α) :=
  follows_act fun _ => hC.gentle (Client.gentle_visitServer (h _))

end

/-! ## Looking for a server and listing it -/

/-- The same definition and the same root. -/
def Server.SameProject (x y : Server) : Prop :=
  x.definition = y.definition ∧ Path.same x.root y.root = true

theorem Server.sameProject_congr {x y x' y' : Server} (hx : x'.project = x.project)
    (hy : y'.project = y.project) : x'.SameProject y' ↔ x.SameProject y := by
  rw [project, project, Prod.mk.injEq] at hx hy
  rw [SameProject, SameProject, hx.1, hx.2, hy.1, hy.2]

instance (x y : Server) : Decidable (x.SameProject y) := inferInstanceAs (Decidable (_ ∧ _))

namespace Routing

variable {definition : ServerDefinition} {root : Path}

/-- Either it is there, or there is none of its project and a new one is listed. -/
theorem serverFor_cases (definition : ServerDefinition) (root : Path) (c : Client E) :
    (serverFor definition root c).1 = c ∨
      (∀ r ∈ c.routes.servers, ¬ (c.server r).SameProject (Server.new definition root)) ∧
      (serverFor definition root c).1 =
        (c.addServer (Server.new definition root)).1.updateRoutes fun r =>
          { r with servers := r.servers ++ [c.servers.entries.length] } := by
  unfold serverFor
  cases hknown : c.routes.servers.find? fun s =>
      (c.server s).definition == definition && Path.same (c.server s).root root with
  | some s => exact .inl rfl
  | none =>
    refine .inr ⟨fun r hr hsame => ?_, rfl⟩
    have hother := List.find?_eq_none.1 hknown r hr
    exact hother (Bool.and_eq_true_iff.2 ⟨beq_iff_eq.2 hsame.1, hsame.2⟩)

theorem server_prune_track (s r : ServerId) (c : Client E) :
    (prune (track s c)).server r = c.server r := by
  unfold track
  split <;> rfl

theorem length_prune_track (s : ServerId) (c : Client E) :
    (prune (track s c)).servers.entries.length = c.servers.entries.length := by
  unfold track
  split <;> rfl

end Routing

namespace Client

theorem server_addServer_of_lt (x : Server) {c : Client E} {s : ServerId}
    (h : s < c.servers.entries.length) : (c.addServer x).1.server s = c.server s := by
  simp [server, addServer, Store.add, Store.get, Store.get?, List.getElem?_append_left h]

/-- Where there is no server, a standard one counts. -/
theorem server_of_length_le {c : Client E} {s : ServerId} (h : c.servers.entries.length ≤ s) :
    c.server s = default := by
  rw [server, Store.get, Store.get?, List.getElem?_eq_none h]
  rfl

theorem server_addServer_new (x : Server) (c : Client E) :
    (c.addServer x).1.server c.servers.entries.length = x := by
  simp [server, addServer, Store.add, Store.get, Store.get?]

theorem server_addServer (x : Server) (s : ServerId) (c : Client E) :
    (c.addServer x).1.server s = c.server s ∨ (c.addServer x).1.server s = x := by
  rcases Nat.lt_trichotomy s c.servers.entries.length with hs | rfl | hs
  · exact .inl (server_addServer_of_lt x hs)
  · exact .inr (server_addServer_new x c)
  · have hbeyond : (c.addServer x).1.servers.entries.length ≤ s :=
      Nat.le_trans (Nat.le_of_eq List.length_append) hs
    exact .inl ((server_of_length_le hbeyond).trans (server_of_length_le (Nat.le_of_lt hs)).symm)

end Client

/-! ## Answering a server -/

namespace LinkOwner

variable {C : Custom (Client E) (Job K)} (hC : C.Civil)

include hC

theorem proper_onRequest (owner : LinkOwner) {method : String} (value : Json)
    (h : method ≠ "client/registerCapability") :
    Prog.Proper C (owner.onRequest method value : Prog E K RpcOutcome) := by
  unfold onRequest
  split
  · split
    · exact follows_done _
    · exact (follows_read _).bind fun _ => follows_done _
  · split
    · exact follows_done _
    · exact (WorkspaceEdit.follows_apply hC.lenient _).bind fun _ => follows_done _
  · exact absurd rfl h
  · split
    · exact follows_done _
    · refine Follows.bind (proper_updateServer hC fun x => ?_) fun _ => follows_done _
      exact ⟨⟨⟨rfl, RegistrationTable.entries_unregisterAll_subset _ _⟩, List.Subset.refl _⟩, rfl⟩
  · split
    · exact follows_done _
    · refine Follows.bind (follows_modify fun c => ?_) fun _ => follows_done _
      exact hC.lenient rfl rfl rfl rfl
  · exact follows_done _
  · exact follows_done _

end LinkOwner

theorem LinkOwner.onRequest_register (owner : LinkOwner) (value : Json) :
    (owner.onRequest "client/registerCapability" value : Prog E K RpcOutcome) =
      match params Shape.registrationParams value with
      | .error e => .done (.error e)
      | .ok j => (Program.modify (Client.enroll owner.server
          ((list j "registrations").map registration))).bind fun _ => .done (.ok .null) := by
  unfold onRequest
  rfl

theorem Link.proper_answer {C : Custom (Client E) (Job K)} (hC : C.Civil) (owner : LinkOwner)
    (l : LinkId) (id : RequestId) (method : String) (params : Json) :
    Prog.Proper C (answer owner.handler l id method params : Prog E K Unit) := by
  have hsend (outcome : RpcOutcome) : Prog.Proper C ((send l (.response id outcome)).bind
      fun _ => .done () : Prog E K Unit) :=
    (follows_send hC.lenient l _).bind fun _ => follows_done _
  by_cases hmethod : method = "client/registerCapability"
  · subst hmethod
    have hanswer : (answer owner.handler l id "client/registerCapability" params : Prog E K Unit) =
        (owner.onRequest "client/registerCapability" params).bind fun outcome =>
          (send l (.response id outcome)).bind fun _ => .done () := rfl
    rw [owner.onRequest_register] at hanswer
    cases hparams : LinkOwner.params Shape.registrationParams params with
    | error e =>
      rw [hparams] at hanswer
      rw [hanswer]
      exact hsend _
    | ok j =>
      rw [hparams] at hanswer
      rw [hanswer]
      refine ⟨fun t c γ k => ?_, fun _ => C.refl, fun _ => hsend _⟩
      have hadds := hC.adds (Client.Adds.registers t k owner l id c hparams)
      rw [hanswer] at hadds
      exact hadds
  · exact (owner.proper_onRequest hC params hmethod).bind hsend

end LanguageClient
