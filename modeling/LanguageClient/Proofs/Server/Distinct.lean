import LanguageClient.Proofs.Server.Ordering
import Mathlib.Data.List.Nodup
namespace LanguageClient

/-!
# No document twice

No server is connected to a document twice, and none has a document waiting twice. The index enters
no session but those that the servers have and those that are about to be closed.
-/

open Scene (Leads)

variable {E K : Type} {may : TaskId → String → Prop} {given : String → Prop}

namespace Server

variable (x y : Server)

@[simp, grind =] theorem queue_move (status : ServerStatus) : (x.move status).queue = x.queue := by
  obtain ⟨_, _, _, h⟩ := x.exists_move status
  rw [h]

@[simp, grind =] theorem queue_beginStart : x.beginStart.1.queue = x.queue := by
  obtain ⟨_, _, _, _, h⟩ := x.exists_beginStart
  rw [h]

@[simp, grind =] theorem queue_endStop : x.endStop.queue = x.queue := by
  obtain ⟨_, _, _, _, h⟩ := x.exists_endStop
  rw [h]

attribute [grind =] queue_becomeStarted

/-- The document is connected or waits. -/
def Has (uri : String) : Prop := x.isConnectedTo uri = true ∨ x.isPending uri = true

structure Distinct : Prop where
  connected : (x.connected.map (·.1)).Nodup
  queue : (x.queue.map (·.uri)).Nodup

variable {x y}

theorem isConnectedTo_eq_false {uri : String} :
    x.isConnectedTo uri = false ↔ uri ∉ x.connected.map (·.1) := by
  rw [isConnectedTo, List.any_eq_false]
  simp only [beq_iff_eq, List.mem_map, not_exists, not_and]

theorem isPending_eq_false {uri : String} :
    x.isPending uri = false ↔ uri ∉ x.queue.map (·.uri) := by
  simp [isPending]

namespace Distinct

/-- Less is connected, and less waits. -/
theorem of_sublist (h : x.Distinct) (hc : y.connected.Sublist x.connected)
    (hq : y.queue.Sublist x.queue) : y.Distinct :=
  ⟨h.connected.sublist (hc.map _), h.queue.sublist (hq.map _)⟩

theorem enqueue (h : x.Distinct) (d : OpenDocument) : (x.enqueue d).Distinct := by
  unfold Server.enqueue
  split
  · exact h
  · rename_i hd
    have hfresh : d.uri ∉ x.queue.map (·.uri) := isPending_eq_false.1 (Bool.eq_false_iff.2 hd)
    refine { h with queue := ?_ }
    rw [List.map_append, List.map_singleton, ← List.concat_eq_append]
    exact List.Nodup.concat hfresh h.queue

theorem connect (h : x.Distinct) {uri : String} (hfresh : x.isConnectedTo uri = false)
    (session : SessionId) :
    Distinct { x with connected := x.connected ++ [(uri, session)] } := by
  refine { h with connected := ?_ }
  rw [List.map_append, List.map_singleton, ← List.concat_eq_append]
  exact List.Nodup.concat (isConnectedTo_eq_false.1 hfresh) h.connected

end Distinct

end Server

namespace Affairs

variable {A B : Affairs K}

def Distinct (A : Affairs K) : Prop := ∀ s, (A.server s).Distinct

theorem Distinct.put (h : A.Distinct) {s : ServerId} {x : Server} (hx : x.Distinct) :
    (A.put s x).Distinct := by
  intro r
  rw [server_put]
  split
  · exact hx
  · exact h r

theorem queue_act (hAB : Act A B) (s : ServerId) :
    (B.server s).queue = (A.server s).queue ∨ (B.server s).queue = [] := by
  cases hAB <;> grind

theorem distinct_aside (h : A.Distinct) (hAB : Aside may given A B) : B.Distinct := by
  cases hAB with
  | same | lists | reads | lets | hears | talks => exact h
  | @empties s => exact h.put { h s with queue := .nil }
  | @removes s uri => exact h.put ((h s).of_sublist List.filter_sublist List.filter_sublist)
  | @drops s uri => exact h.put ((h s).of_sublist List.filter_sublist List.filter_sublist)
  | @enqueues _ s d => exact h.put ((h s).enqueue d)
  | @enters _ s d _ hd => exact fun r => (h.put ((h s).connect hd _)) r

theorem distinct_step (h : A.Distinct) (hAB : Step may given A B) : B.Distinct := by
  cases hAB with
  | aside hAB => exact distinct_aside h hAB
  | act hAB =>
    intro s
    refine (h s).of_sublist ?_ ?_
    · rcases connected_act hAB s with hsame | hnone
      · exact hsame ▸ .refl _
      · exact hnone ▸ List.nil_sublist _
    · rcases queue_act hAB s with hsame | hnone
      · exact hsame ▸ .refl _
      · exact hnone ▸ List.nil_sublist _

/-! ## The index -/

/-- A task has the lifecycle of the server, and has still to close the session that it took out. -/
def Owes (A : Affairs K) (t : TaskId) (s : ServerId) (e : String × SessionId) : Prop :=
  (A.roles t).hold.map (·.1) = some s ∧ e ∈ (A.roles t).dues

/-- Every entry of the index is of a session that its server has, or of one that is going to be
closed. -/
def Neat (A : Affairs K) : Prop :=
  ∀ (uri : String) (e : DocumentIndex.Entry), (uri, e) ∈ A.ledger.index.entries →
    e.server < A.ledger.servers.length →
    (uri, e.session) ∈ (A.server e.server).connected ∨ ∃ t, A.Owes t e.server (uri, e.session)

theorem mem_remove {x : DocumentIndex} {uri : String} {e : DocumentIndex.Entry}
    {d : String × SessionId} :
    (uri, e) ∈ (x.remove d.1 d.2).entries ↔ (uri, e) ∈ x.entries ∧ (uri, e.session) ≠ d := by
  obtain ⟨uri', session⟩ := d
  simp [DocumentIndex.remove, List.mem_filter, or_iff_not_imp_left]

@[simp, grind =] theorem index_put (s : ServerId) (x : Server) :
    (A.put s x).ledger.index = A.ledger.index := rfl

@[simp, grind =] theorem index_say (l : LinkId) (e : Link.Event) :
    (A.say l e).ledger.index = A.ledger.index := rfl

@[simp, grind =] theorem index_addLink : A.addLink.ledger.index = A.ledger.index := rfl

@[simp, grind =] theorem index_strike (d : String × SessionId) :
    (A.strike d).ledger.index = A.ledger.index.remove d.1 d.2 := rfl

/-- A task closes a session by taking it out of the index. -/
theorem owes_act (hAB : Act A B) {t : TaskId} {s : ServerId} {d : String × SessionId}
    (h : A.Owes t s d) : B.Owes t s d ∨ B.ledger.index = A.ledger.index.remove d.1 d.2 := by
  unfold Owes at *
  cases hAB <;> grind

/-- A session that is taken out of its server is to be closed. -/
theorem owes_of_connected (hAB : Act A B) {s : ServerId} {d : String × SessionId}
    (h : d ∈ (A.server s).connected) :
    d ∈ (B.server s).connected ∨ ∃ t, B.Owes t s d := by
  cases hAB with
  | @clears t r phase hold =>
    by_cases hr : s = r
    · subst hr
      refine .inr ⟨t, ?_, ?_⟩ <;> grind
    · grind
  | _ => grind

theorem neat_act (h : A.Neat) (hAB : Act A B) : B.Neat := by
  intro uri e he hs
  rw [length_act hAB] at hs
  have hmem : (uri, e) ∈ A.ledger.index.entries := by
    cases hAB <;> grind [mem_remove]
  rcases h uri e hmem hs with hconnected | ⟨t, howes⟩
  · exact owes_of_connected hAB hconnected
  · rcases owes_act hAB howes with howes' | hstruck
    · exact .inr ⟨t, howes'⟩
    · rw [hstruck] at he
      exact absurd rfl (mem_remove.1 he).2

/-- Nobody has to close anything else, and what is in the index stays connected. -/
theorem Neat.of_kept (h : A.Neat) (hroles : B.roles = A.roles)
    (hlength : B.ledger.servers.length = A.ledger.servers.length)
    (hkept : ∀ (uri : String) (e : DocumentIndex.Entry), (uri, e) ∈ B.ledger.index.entries →
      e.server < A.ledger.servers.length →
      (uri, e.session) ∈ (B.server e.server).connected ∨ ((uri, e) ∈ A.ledger.index.entries ∧
        (uri, e.session) ∉ (A.server e.server).connected)) : B.Neat := by
  intro uri e he hs
  rw [hlength] at hs
  rcases hkept uri e he hs with hconnected | ⟨hmem, hnot⟩
  · exact .inl hconnected
  · obtain ⟨t, howes⟩ := (h uri e hmem hs).resolve_left hnot
    exact .inr ⟨t, by rwa [Owes, hroles]⟩

theorem neat_aside (h : A.Neat) (hd : A.Distinct) (hAB : Aside may given A B) : B.Neat := by
  cases hAB with
  | same | lists | reads | lets | hears | talks => exact h
  | empties | enqueues =>
    refine h.of_kept rfl (Ledger.length_put ..) fun uri e he hs => ?_
    by_cases hconnected : (uri, e.session) ∈ (A.server e.server).connected
    · exact .inl (by grind)
    · exact .inr ⟨he, hconnected⟩
  | @removes s uri' hnone =>
    refine h.of_kept rfl (Ledger.length_put ..) fun uri e he hs => ?_
    by_cases hconnected : (uri, e.session) ∈ (A.server e.server).connected
    · refine .inl ?_
      rw [server_put]
      split
      · rename_i hes
        rw [hes.1] at hconnected
        refine List.mem_filter.2 ⟨hconnected, bne_iff_ne.2 fun heq => ?_⟩
        exact bne_iff_ne.1 (List.lookup_eq_none_iff.1 hnone _ hconnected) heq.symm
      · exact hconnected
    · exact .inr ⟨he, hconnected⟩
  | @drops s uri' session hsome =>
    refine h.of_kept rfl (Ledger.length_put ..) fun uri e he hs => ?_
    obtain ⟨hmem, hne⟩ := mem_remove.1 he
    by_cases hconnected : (uri, e.session) ∈ (A.server e.server).connected
    · refine .inl ?_
      rw [server_strike, server_put]
      split
      · rename_i hes
        rw [hes.1] at hconnected
        refine List.mem_filter.2 ⟨hconnected, bne_iff_ne.2 fun heq => hne ?_⟩
        -- The server has one session for the document.
        exact List.inj_on_of_nodup_map (hd s).connected hconnected
          (Server.mem_of_session? hsome) heq
      · exact hconnected
    · exact .inr ⟨hmem, hconnected⟩
  | @enters t s d hmay hfresh =>
    let x : Server := { A.server s with
      connected := (A.server s).connected ++ [(d.uri, A.ledger.uris.length)] }
    refine h.of_kept rfl (Ledger.length_put ..) fun uri e he hs => ?_
    change (uri, e.session) ∈ ((A.put s x).server e.server).connected ∨ _
    rw [server_put]
    rcases List.mem_append.1 he with he | he
    · have hmem : (uri, e) ∈ A.ledger.index.entries := (List.mem_filter.1 he).1
      by_cases hconnected : (uri, e.session) ∈ (A.server e.server).connected
      · refine .inl ?_
        split
        · rename_i hes
          exact List.mem_append_left _ (hes.1 ▸ hconnected)
        · exact hconnected
      · exact .inr ⟨hmem, hconnected⟩
    · obtain ⟨rfl, rfl⟩ := Prod.mk.inj (List.mem_singleton.1 he)
      rw [if_pos ⟨rfl, hs⟩]
      exact .inl (List.mem_append_right _ (List.mem_singleton_self _))

theorem neat_step (h : A.Neat) (hd : A.Distinct) (hAB : Step may given A B) : B.Neat := by
  cases hAB with
  | aside hAB => exact neat_aside h hd hAB
  | act hAB => exact neat_act h hAB

end Affairs

/-! ## The documents of a server -/

namespace Scene

variable {o x : Scene (Client E) (Job K) (Role K)}

theorem Leads.distinct (h : Leads given o x) (ho : o.Sane) (hd : o.affairs.Distinct) :
    x.affairs.Distinct :=
  h.keeps ho hd fun _ hAB hA => Affairs.distinct_step hA hAB

theorem Leads.neat (h : Leads given o x) (ho : o.Sane) (hd : o.affairs.Distinct)
    (hn : o.affairs.Neat) : x.affairs.Neat :=
  (h.keeps (P := fun A => A.Distinct ∧ A.Neat) ho ⟨hd, hn⟩ fun _ hAB hA =>
    ⟨Affairs.distinct_step hA.1 hAB, Affairs.neat_step hA.2 hA.1 hAB⟩).2

/-- Nobody has the lifecycle of the server: the index has only sessions that the server has. -/
theorem connected_of_index (h : x.Sane) (hn : x.affairs.Neat) {s : ServerId}
    (hs : s < x.world.ledger.servers.length) (hfree : (x.world.server s).lifecycle.owner ≠ .taken)
    {uri : String} {session : SessionId} (he : (uri, ⟨session, s⟩) ∈ x.world.index.entries) :
    (uri, session) ∈ (x.world.server s).connected := by
  have hserver : x.affairs.server s = (x.world.server s).plain := x.world.server_ledger s
  rcases hn uri ⟨session, s⟩ he hs with hconnected | ⟨t, howes, -⟩
  · rwa [hserver] at hconnected
  · obtain ⟨⟨r, phase⟩, hold, rfl⟩ := Option.map_eq_some_iff.1 howes
    have htaken := h.taken hold
    rw [hserver] at htaken
    exact absurd ((Server.owner_plain _).1 htaken) hfree

theorem map_uri_documents (h : x.Sane) (s : ServerId) :
    (Server.documents s x.world).map (·.uri) = (x.world.server s).connected.map (·.1) ++
      ((x.world.server s).queue.filter
        fun d => !(x.world.server s).isConnectedTo d.uri).map (·.uri) := by
  rw [Server.documents, List.map_append, List.map_map]
  refine congrArg (· ++ _) (List.map_congr_left fun e he => ?_)
  exact keyed_uri h.keyed rfl he

theorem mem_documents (h : x.Sane) (s : ServerId) (uri : String) :
    uri ∈ (Server.documents s x.world).map (·.uri) ↔ (x.world.server s).Has uri := by
  have hconnected : uri ∈ (x.world.server s).connected.map (·.1) ↔
      (x.world.server s).isConnectedTo uri = true := by
    rw [← Bool.not_eq_false, Server.isConnectedTo_eq_false, not_not]
  have hpending : uri ∈ (x.world.server s).queue.map (·.uri) ↔
      (x.world.server s).isPending uri = true := by
    rw [← Bool.not_eq_false, Server.isPending_eq_false, not_not]
  rw [map_uri_documents h, List.mem_append, hconnected, Server.Has, ← hpending]
  refine ⟨Or.imp_right fun hw => ?_, fun hor => ?_⟩
  · exact (List.filter_sublist.map _).subset hw
  · by_cases hc : (x.world.server s).isConnectedTo uri = true
    · exact .inl hc
    · obtain ⟨d, hd, rfl⟩ := List.mem_map.1 (hor.resolve_left hc)
      refine .inr (List.mem_map_of_mem (List.mem_filter.2 ⟨hd, ?_⟩))
      rw [Bool.eq_false_iff.2 hc]
      rfl

theorem nodup_documents (h : x.Sane) (hd : x.affairs.Distinct) (s : ServerId) :
    ((Server.documents s x.world).map (·.uri)).Nodup := by
  have hd : (x.world.server s).plain.Distinct := x.world.server_ledger s ▸ hd s
  rw [map_uri_documents h, List.nodup_append]
  refine ⟨hd.connected, hd.queue.sublist (List.filter_sublist.map _), ?_⟩
  rintro uri hc _ hw rfl
  obtain ⟨d, hd, rfl⟩ := List.mem_map.1 hw
  have hnot : (x.world.server s).isConnectedTo d.uri = false := by
    simpa using (List.mem_filter.1 hd).2
  exact Server.isConnectedTo_eq_false.1 hnot hc

end Scene

theorem House.New.distinct {n : Nat} {net : Providers (Client E) (Job K)}
    {outside : K → Prog E K Unit} {c : House given n E K} (hc : New net outside c) :
    c.scene.affairs.Distinct := by
  intro s
  obtain ⟨definition, root, h⟩ := hc.server_eq s
  rw [h]
  exact ⟨.nil, .nil⟩

theorem House.New.neat {n : Nat} {net : Providers (Client E) (Job K)}
    {outside : K → Prog E K Unit} {c : House given n E K} (hc : New net outside c) :
    c.scene.affairs.Neat := by
  intro uri e he
  have hindex : c.scene.affairs.ledger.index = DocumentIndex.empty := hc.index
  rw [hindex] at he
  exact nomatch he

end LanguageClient
