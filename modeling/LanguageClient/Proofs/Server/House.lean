import LanguageClient.Proofs.Server.Demand
namespace LanguageClient

/-!
# Houses

A client with its servers, all that is asked of it, and a world that may do to it whatever it likes
from outside as long as it keeps away from servers, sessions and links.
-/

open Regime Courteous
open Scene (Leads Lasting)

variable {E K : Type} {given : String → Prop} {n : Nat} {net : Providers (Client E) (Job K)}
  {outside : K → Prog E K Unit}

/-- What comes from outside leaves the ledger alone, but documents are opened and closed in the
editor. -/
def Client.Beside (given : String → Prop) (c c' : Client E) : Prop :=
  ∃ documents : List OpenDocument,
    (∀ d ∈ documents, d ∈ c.editor.documents ∨ given d.uri) ∧ c'.ledger = { c.ledger with documents }

variable (given n net) in
/-- What may happen in a house. -/
def House.rules : Hall.Rules (Client E) (Job K) fun _ : Demand given n => Unit where
  call := Demand.run net
  mayStart job := ∃ k, job = .outside k
  outside := Client.Beside given

variable (given n) in
abbrev House (E K : Type) := Hall (Client E) (Job K) fun _ : Demand given n => Unit

variable (net outside) in
/-- A house at the beginning: its servers are new, and nobody is at work. -/
structure House.New (c : House given n E K) : Prop where
  length_eq : c.world.servers.entries.length = n
  servers : ∀ x ∈ c.world.servers.entries, ∃ definition root, x = Server.new definition root
  sessions : c.world.sessions.entries = []
  index : c.world.index = DocumentIndex.empty
  links : c.world.wiring.links.entries = []
  transcript : c.world.wiring.transcript = []
  tasks : c.runtime.tasks = []
  calls : c.calls = []
  perform_eq : c.runtime.perform = Job.perform net outside

theorem Job.handles_perform (hnet : net.Aloof) (houtside : ∀ k, (outside k).Aloof) {t : TaskId}
    (job : Job K) :
    Handles given t (fun x => x.roles t = .ofJob job ∧ x.affairs.Founded job)
      (job.perform net outside) fun _ _ => True := by
  have hlasting : Lasting given t fun _ : Scene (Client E) (Job K) (Role K) => True :=
    Scene.lasting_true
  cases job with
  | readAll owner l =>
    exact (Link.courteous_readAll owner l).handles.mono (fun _ _ hx => hx.2) fun _ _ _ => trivial
  | answer owner l id method params =>
    exact ((Link.always_answer owner l id method params).handles hlasting).of_imp
      fun _ _ => trivial
  | handshake owner l params => exact Server.handles_handshake
  | abandon owner => exact Server.handles_abandon hnet
  | crash owner e =>
    exact (Server.handles_crashed (ρ := .new (.hired (.crash owner e))) hnet rfl rfl rfl rfl
      rfl rfl).mono (fun _ _ hx => hx) fun _ _ _ => trivial
  | errorLog server pipe =>
    exact ((ErrorLog.always_run server pipe).handles hlasting).of_imp fun _ _ => trivial
  | search a query promise =>
    exact (courteous_search a query promise net outside).handles.mono (fun _ _ hx => hx.2)
      fun _ _ _ => trivial
  | outside k => exact ((houtside k).always.handles hlasting).of_imp fun _ _ => trivial

section Ready

variable {s₀ : Scene (Client E) (Job K) (Role K)} (hs₀ : s₀.Sane)

include hs₀

theorem ready_of_handles {α : Type} {p : Prog E K α} {ℓ : Role K}
    {P : Scene (Client E) (Job K) (Role K) → Prop} {t : TaskId} (hsoft : p.Soft)
    (h : Handles given t P p fun _ _ => True)
    (hP : ∀ s, Leads given s₀ s → s.Sane → s.roles t = ℓ → P s) (m : Nat)
    {o : Scene (Client E) (Job K) (Role K)} (ho : Leads given s₀ o) :
    (ofClient given).Ready m o ℓ ⟨t, p, [], false⟩ := by
  refine ⟨nofun, fun {s} hs hrole => ?_, fun {s} hs hrole _ => ⟨s.roles t, ?_⟩⟩
  · have hl : Leads given s₀ s := ho.trans hs
    have hsane : s.Sane := hl.sane hs₀
    refine (h .refl hsane (hP s hl hsane hrole)).mono ?_ ?_ m
    · exact fun _ _ _ hq => hq.1
    · exact fun _ _ hl => hl.2
  · rw [← Scene.roles_gaveUp s t, Scene.become_roles]
    exact .gaveUp (hsoft t s.world)

theorem House.admits (hnet : net.Aloof) (houtside : ∀ k, (outside k).Aloof)
    (hlength : s₀.world.ledger.servers.length = n) :
    (ofClient given).Admits (Job.perform net outside) s₀ (rules given n net) where
  job := by
    rintro job _ rfl m t o ho
    refine ready_of_handles hs₀ (job.soft_perform net houtside)
      (job.handles_perform hnet houtside) (fun s _ hs hrole => ⟨hrole, hs.founded (t := t) ?_⟩) m ho
    rw [Scene.roles_affairs, hrole, Role.origin_ofJob]
  call d := by
    refine ⟨.new .called, fun {s u} _ hu => ?_, fun m t o ho => ?_⟩
    · refine .single ⟨[], (List.append_nil _).symm, nofun, .nil (.refl _), .act ?_⟩
      exact Act.called (A := s.affairs) hu
    · refine ready_of_handles hs₀ (d.soft_run net) (d.handles_run hnet) (fun s hs _ hrole => ?_) m ho
      exact ⟨hrole, (hs.length_eq hs₀).trans hlength⟩
  start := by
    rintro _ ⟨k, rfl⟩
    refine ⟨_, rfl, fun {s u} _ hu => ?_⟩
    refine .single ⟨[], (List.append_nil _).symm, nofun, .nil (.refl _), .act ?_⟩
    exact @Act.hired K s.affairs u (.outside k) hu trivial rfl
  outside := by
    rintro s c _ ⟨documents, hd, hc⟩
    refine .single ⟨[], (List.append_nil _).symm, nofun, .nil (.of_servers ?_), .aside ?_⟩
    · have hservers := congrArg Ledger.servers hc
      exact hservers
    have heq : (s.put c).affairs = s.affairs.keep { s.world.ledger with documents } :=
      congrArg (Affairs.mk s.roles) hc
    rw [heq]
    exact .lists hd

end Ready

namespace House

/-- Nobody has a role yet. -/
def scene (c : House given n E K) : Scene (Client E) (Job K) (Role K) :=
  ⟨[], fun _ => .new .unborn, c.world⟩

namespace New

variable {c d e : House given n E K} {past later : List (Moment (Client E) (Job K))}
  (hc : New net outside c)

include hc

theorem server_eq (s : ServerId) :
    ∃ definition root, c.scene.affairs.server s = Server.new definition root := by
  rw [Affairs.server, Scene.ledger_affairs, Client.server_ledger]
  change ∃ definition root, (c.world.server s).plain = Server.new definition root
  rw [Client.server, Store.get, Store.get?]
  cases hs : c.world.servers.entries[s]? with
  | none => exact ⟨⟨[], [], .rawCommand [], none⟩, [], rfl⟩
  | some x =>
    obtain ⟨definition, root, rfl⟩ := hc.servers x (List.mem_of_getElem? hs)
    exact ⟨definition, root, rfl⟩

theorem access_eq (s : ServerId) : (c.scene.affairs.server s).access = none := by
  obtain ⟨definition, root, h⟩ := hc.server_eq s
  rw [h]
  rfl

theorem connection_eq (s : ServerId) : (c.scene.affairs.server s).connection = none := by
  obtain ⟨definition, root, h⟩ := hc.server_eq s
  rw [h]
  rfl

theorem stage?_eq (l : LinkId) : c.scene.affairs.stage? l = some .fresh := by
  have hsaid : c.scene.affairs.ledger.said l = [] := by
    rw [Scene.ledger_affairs, Client.said_ledger]
    change c.world.wiring.said l = []
    rw [Wiring.said, hc.transcript]
    rfl
  rw [Affairs.stage?, hsaid]
  rfl

theorem readers_eq : c.scene.affairs.ledger.readers = [] := by
  change c.world.wiring.links.entries.map Link.reader = []
  rw [hc.links]
  rfl

/-- Before anything has happened everything is in order. -/
theorem sane : c.scene.Sane where
  taken h := nomatch h
  alone h := nomatch h
  drives h := nomatch h
  greeting h := nomatch h
  orderly l := by rw [hc.stage?_eq]; rfl
  unspoken _ := hc.stage?_eq _
  reading h := by rw [hc.readers_eq] at h; exact nomatch h
  hand h := nomatch h
  hand_lt h := nomatch h
  stage h := nomatch h
  lt h := nomatch h
  apart h := nomatch h
  unshared h := by rw [hc.access_eq] at h; exact nomatch h
  busy h := absurd rfl h
  ready h := by rw [hc.access_eq] at h; exact nomatch h
  access_lt h := by rw [hc.access_eq] at h; exact nomatch h
  own h := by rw [hc.access_eq] at h; exact nomatch h
  traced s := by
    obtain ⟨definition, root, h⟩ := hc.server_eq s
    rw [h]
    exact ⟨rfl, nofun, rfl⟩
  access_eq h := by rw [hc.access_eq] at h; exact nomatch h
  started h := by rw [hc.access_eq] at h; exact nomatch h
  greeted h := by rw [hc.access_eq] at h; exact nomatch h
  greeter h := by rw [hc.connection_eq] at h; exact nomatch h
  logger h := by rw [hc.connection_eq] at h; exact nomatch h
  token h := nomatch h
  begun h := nomatch h
  launching h := nomatch h
  counting h := nomatch h
  failing h := nomatch h
  launched h := nomatch h
  unbegun h := nomatch h
  unsent h := nomatch h
  unread h := nomatch h
  stopping h := nomatch h
  keyed s e he := by
    obtain ⟨definition, root, h⟩ := hc.server_eq s
    rw [h] at he
    exact nomatch he
  owing _ _ h := nomatch h
  founded h := nomatch h

theorem kept (m : Nat) :
    (ofClient given).Kept (Job.perform net outside) c.scene m [] c c.scene where
  since := .refl
  world_eq := rfl
  past_eq := rfl
  perform_eq := hc.perform_eq
  nodup := by simp [Hall.ids, hc.tasks, hc.calls]
  lt := by simp [Hall.ids, hc.tasks, hc.calls]
  unborn _ := rfl
  tasks := by simp [hc.tasks]
  calls := by simp [hc.calls]

theorem length_ledger : c.scene.world.ledger.servers.length = n :=
  (List.length_map ..).trans hc.length_eq

/-- Wherever a house gets to, its tasks are ready for as many strides as one likes. -/
theorem reaches (hnet : net.Aloof) (houtside : ∀ k, (outside k).Aloof)
    (w : Hall.Walk (rules given n net) c past d) (m : Nat) :
    ∃ s, Leads given c.scene s ∧
      (ofClient given).Kept (Job.perform net outside) c.scene m past d s := by
  obtain ⟨m', h⟩ := Kept.walk (fair_ofClient given)
    (admits hc.sane hnet houtside hc.length_ledger) w
  exact h (hc.kept (m + m'))

/-- The same from there on. -/
theorem reaches_on (hnet : net.Aloof) (houtside : ∀ k, (outside k).Aloof)
    (w : Hall.Walk (rules given n net) d later e) : ∃ m', ∀ m {s},
      (ofClient given).Kept (Job.perform net outside) c.scene (m + m') past d s →
      ∃ s', Leads given s s' ∧
        (ofClient given).Kept (Job.perform net outside) c.scene m (past ++ later) e s' := by
  obtain ⟨m', h⟩ := Kept.walk (fair_ofClient given)
    (admits hc.sane hnet houtside hc.length_ledger) w
  exact ⟨m', fun m s => h⟩

end New

end House

/-! ## One server -/

/-- Providers that give everybody the same two pipes. -/
def Providers.twoPipes : Providers (Client E) (Job K) where
  acquire _ _ := .done (.ok 0)
  start _ := .done (.ok ⟨0, 1, none⟩)
  stop _ := .done ()
  release _ _ := .done ()

theorem Providers.aloof_twoPipes : (twoPipes : Providers (Client E) (Job K)).Aloof :=
  ⟨fun _ _ => .done _, fun _ => .done _, fun _ => .done _, fun _ _ => .done _⟩

/-- The server behind the first pipe has written a message. -/
def Client.heard (message : String) (c : Client E) : Client E :=
  HasWiring.modify (fun w => (w.offer 0 (Utf8.encode (Frame.encode message.toList)) 0).1) c

theorem Client.beside_heard (message : String) (c : Client E) : c.Beside given (c.heard message) :=
  ⟨c.editor.documents, fun _ => .inl, c.ledger_modifyWiring (c.wiring.quiet_offer 0 _ 0)⟩

namespace House

/-- One server, which nobody has started yet, and two pipes for it. -/
def opening : House (fun _ => True) 1 Unit Unit where
  runtime :=
    { world :=
        { Client.new () with
          wiring := { Wiring.empty with pipes := ⟨[Pipe.open_, Pipe.open_]⟩ }
          servers := ⟨[Server.new ⟨[], [], .rawCommand [], none⟩ ['/']]⟩ }
      tasks := []
      nextId := 1
      perform := Job.perform .twoPipes fun _ => .done () }
  calls := []

abbrev openingRules : Hall.Rules (Client Unit) (Job Unit) fun _ : Demand (fun _ => True) 1 => Unit :=
  rules (fun _ => True) 1 .twoPipes

theorem new_opening : New Providers.twoPipes (fun _ => .done ()) opening where
  length_eq := rfl
  servers _ hx := ⟨_, _, List.mem_singleton.1 hx⟩
  sessions := rfl
  index := rfl
  links := rfl
  transcript := rfl
  tasks := rfl
  calls := rfl
  perform_eq := rfl

end House

end LanguageClient
