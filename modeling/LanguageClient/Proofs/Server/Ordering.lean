import LanguageClient.Proofs.Server.House
import LanguageClient.Proofs.Task.Play
namespace LanguageClient

/-!
# The order of moves and messages

However the tasks of a house take turns, the status of each server moves as it may, and each link is
spoken on in order. Generations only rise, and nobody reaches a server through an access of an older
generation.
-/

open Regime
open Scene (Leads)

variable {E K : Type} {may : TaskId → String → Prop} {given : String → Prop}

/-! ## What one step says -/

namespace Affairs

variable {A B : Affairs K}

theorem generation_act (hAB : Act A B) (s : ServerId) :
    (A.server s).generation ≤ (B.server s).generation := by
  cases hAB <;> grind

theorem Sane.generation_step (h : A.Sane) (hAB : Step may given A B) (s : ServerId) :
    (A.server s).generation ≤ (B.server s).generation := by
  cases hAB with
  | aside hAB => exact Nat.le_of_eq ((h.still hAB).servers s).generation.symm
  | act hAB => exact generation_act hAB s

/-- Over this link a server can be reached through its gate. -/
def Serves (A : Affairs K) (l : LinkId) : Prop := ∃ s a, (A.server s).access = some a ∧ a.link = l

/-- What may be added to a link: what goes through a gate only while the link serves. -/
structure Adds (A : Affairs K) (l : LinkId) (e : Link.Event) : Prop where
  serves (u : Link.Utterance) : e.utterance? = some u → u.isTraffic = true → A.Serves l

/-- One event at most is added to a link. -/
def Says (A B : Affairs K) (l : LinkId) : Prop :=
  B.ledger.said l = A.ledger.said l ∨
    ∃ e, B.ledger.said l = A.ledger.said l ++ [e] ∧ A.Adds l e

theorem says_say {m : LinkId} {e : Link.Event} (h : A.Adds m e) (l : LinkId)
    (hB : B.ledger.transcript = (A.ledger.say m e).transcript) : A.Says B l := by
  have hsaid : B.ledger.said l = (A.ledger.say m e).said l := by
    rw [Ledger.said, Ledger.said, hB]
  by_cases hl : m = l
  · subst hl
    exact .inr ⟨e, by rw [hsaid, Ledger.said_say_same], h⟩
  · exact .inl (by rw [hsaid, Ledger.said_say_ne _ _ hl])

theorem adds_of_not_traffic {l : LinkId} {e : Link.Event} {u : Link.Utterance}
    (h : e.utterance? = some u) (hu : u.isTraffic = false) : A.Adds l e := by
  refine ⟨fun v hv htraffic => ?_⟩
  obtain rfl := Option.some.inj (h.symm.trans hv)
  rw [hu] at htraffic
  cases htraffic

theorem adds_answered {l : LinkId} {method : String} {outcome : Except ClientError Json} :
    A.Adds l (.answered method outcome) := ⟨fun _ h => nomatch h⟩

theorem says_step (hAB : Step may given A B) (l : LinkId) : A.Says B l := by
  cases hAB with
  | aside hAB =>
    cases hAB with
    | hears _ => exact says_say adds_answered l rfl
    | @talks a e u ha he hu =>
      exact says_say ⟨fun _ _ _ => ⟨_, a, ha, rfl⟩⟩ l rfl
    | _ => exact .inl rfl
  | act hAB =>
    cases hAB with
    | asks | greets | closes | exits => exact says_say (adds_of_not_traffic rfl (by decide)) l rfl
    | heeds => exact says_say adds_answered l rfl
    | _ => exact .inl rfl

/-! ## An access of an older generation -/

/-- The access belongs to a generation that is over. -/
structure Outdated (A : Affairs K) (a : Access) : Prop where
  genuine : A.Genuine a
  ne : a.generation ≠ (A.server a.server).generation

theorem Outdated.step {a : Access} (h : A.Outdated a) (hA : A.Sane)
    (hAB : Step may given A B) : B.Outdated a := by
  refine ⟨hA.genuine_step hAB h.genuine, ?_⟩
  have hlt : a.generation < (A.server a.server).generation := Nat.lt_of_le_of_ne h.genuine.le h.ne
  exact Nat.ne_of_lt (Nat.lt_of_lt_of_le hlt (hA.generation_step hAB _))

/-- A link is greeted by one task only, which greets for one generation. -/
theorem Outdated.not_serves {a : Access} (h : A.Outdated a) (hA : A.Sane) : ¬ A.Serves a.link := by
  rintro ⟨s, b, hb, hlink⟩
  obtain ⟨t, ht⟩ := h.genuine.greeted
  obtain ⟨u, hu⟩ := hA.greeted hb
  obtain ⟨-, hgeneration, -⟩ := hA.access_eq hb
  rw [hlink] at hu
  obtain rfl := hA.hand ht hu
  have howner := congrArg Prod.fst (Option.some.inj (ht.symm.trans hu))
  obtain ⟨rfl, hab⟩ := LinkOwner.mk.inj howner
  exact h.ne (hab.trans hgeneration)

end Affairs

/-- Nothing that gates let through is among the events. -/
def Link.Mute (events : List Link.Event) : Prop :=
  ∀ e ∈ events, ∀ u, e.utterance? = some u → u.isTraffic = false

namespace Scene

variable {s s' : Scene (Client E) (Job K) (Role K)}

/-- Nothing more goes through the gate of an older generation. -/
theorem Leads.mute (h : Leads given s s') (hs : s.Sane) {a : Access}
    (ha : s.affairs.Outdated a) : ∃ new, s'.world.wiring.said a.link =
      s.world.wiring.said a.link ++ new ∧ Link.Mute new := by
  let P (A : Affairs K) : Prop := A.Outdated a ∧
    ∃ new, A.ledger.said a.link = s.world.wiring.said a.link ++ new ∧ Link.Mute new
  have hstart : P s.affairs := ⟨ha, [], by simp, List.forall_mem_nil _⟩
  refine (h.keeps (P := P) hs hstart ?_).2
  rintro may A B hA hAB ⟨hout, new, hsaid, hmute⟩
  refine ⟨hout.step hA hAB, ?_⟩
  rcases Affairs.says_step hAB a.link with hsame | ⟨e, hadd, hadds⟩
  · exact ⟨new, hsame.trans hsaid, hmute⟩
  · refine ⟨new ++ [e], by rw [hadd, hsaid, List.append_assoc], fun e' he' u hu => ?_⟩
    rcases List.mem_append.1 he' with he' | he'
    · exact hmute e' he' u hu
    · obtain rfl := List.mem_singleton.1 he'
      exact Bool.eq_false_iff.2 fun htraffic => hout.not_serves hA (hadds.serves u hu htraffic)

end Scene

/-! ## The life of one server -/

namespace House

/-- The server is started and answers to `initialize`. -/
def startup : List (Hall.Cue (Client Unit) (Demand (fun _ => True) 1)) :=
  [.begins (.start 0), .call 0, .task 1,
    .changes (Client.heard "\x7b\"id\":1,\"result\":\x7b\"capabilities\":\x7b\x7d\x7d\x7d"),
    .task 1, .task 1]

/-- A stop is called, and the server is asked to shut down. -/
def farewell : List (Hall.Cue (Client Unit) (Demand (fun _ => True) 1)) :=
  [.begins (.stop 0), .call 0]

/-- The server answers that it shuts down. -/
def shutdown : List (Hall.Cue (Client Unit) (Demand (fun _ => True) 1)) :=
  [.changes (Client.heard "\x7b\"id\":2,\"result\":null\x7d"), .task 0, .call 0]

theorem allowed_startup : ∀ cue ∈ startup, cue.Allowed openingRules := by
  simp [startup, Hall.Cue.Allowed, rules, Client.beside_heard]

theorem allowed_farewell : ∀ cue ∈ farewell, cue.Allowed openingRules := by
  simp [farewell, Hall.Cue.Allowed]

theorem allowed_shutdown : ∀ cue ∈ shutdown, cue.Allowed openingRules := by
  simp [shutdown, Hall.Cue.Allowed, rules, Client.beside_heard]

/-! ## All houses -/

variable {n : Nat} {net : Providers (Client E) (Job K)} {outside : K → Prog E K Unit}
  {c d e f : House given n E K} {past later last : List (Moment (Client E) (Job K))}
  (hc : New net outside c) (hnet : net.Aloof) (houtside : ∀ k, (outside k).Aloof)

include hc hnet houtside in
/-- In every house that is reached, the moves of each server are a chain from stopped to its status,
each of them allowed, and no move was ever refused. -/
theorem New.moves_chained (w : Hall.Walk (rules given n net) c past d) (s : ServerId) :
    (d.world.server s).Traced := by
  obtain ⟨scene, hleads, hkept⟩ := hc.reaches hnet houtside w 0
  have htraced : (scene.affairs.server s).Traced := (hleads.sane hc.sane).traced s
  rw [Affairs.server, Scene.ledger_affairs, Client.server_ledger, hkept.world_eq] at htraced
  exact htraced.of_eq rfl rfl rfl

theorem New.moves_chained_lifetime : ∃ past d, Hall.Walk openingRules opening past d ∧
    (d.world.server 0).moves =
      [(.stopped, .starting), (.starting, .started), (.started, .stopped)] ∧
    (d.world.server 0).Traced := by
  obtain ⟨past, d, w, hmoves⟩ := Hall.exists_walk_of_play
    (P := fun _ d => (d.world.server 0).moves =
      [(.stopped, .starting), (.starting, .started), (.started, .stopped)])
    (d := opening) (List.forall_mem_append.2 ⟨allowed_startup,
      List.forall_mem_append.2 ⟨allowed_farewell, allowed_shutdown⟩⟩)
    (by decide +kernel)
  exact ⟨past, d, w, of_decide_eq_true hmoves,
    new_opening.moves_chained Providers.aloof_twoPipes (fun _ => .done ()) w 0⟩

include hc hnet houtside in
/-- Each link is spoken on in order, and once an access that a server had belongs to an older
generation, nobody ever speaks through it again. -/
theorem New.links_orderly (w : Hall.Walk (rules given n net) c past d) :
    (∀ l, Link.Orderly (d.world.wiring.said l)) ∧
      ∀ (s : ServerId) (a : Access), (d.world.server s).access = some a →
        ∀ later e, Hall.Walk (rules given n net) d later e →
          a.generation ≠ (e.world.server s).generation →
          ∀ last f, Hall.Walk (rules given n net) e last f →
            ∃ new, f.world.wiring.said a.link = e.world.wiring.said a.link ++ new ∧
              Link.Mute new := by
  refine ⟨fun l => ?_, fun s a ha later e v hne last f u => ?_⟩
  · obtain ⟨scene, hleads, hkept⟩ := hc.reaches hnet houtside w 0
    obtain ⟨stage, hstage⟩ := Option.isSome_iff_exists.1 ((hleads.sane hc.sane).orderly l)
    rw [Affairs.stage?, Scene.ledger_affairs, Client.said_ledger, hkept.world_eq] at hstage
    exact Link.orderly_of_after hstage
  · obtain ⟨m, hthen⟩ := hc.reaches_on hnet houtside u
    obtain ⟨m', hon⟩ := hc.reaches_on hnet houtside v
    obtain ⟨sd, hd, hkd⟩ := hc.reaches hnet houtside w (0 + m + m')
    obtain ⟨se, he, hke⟩ := hon (0 + m) hkd
    obtain ⟨sf, hf, hkf⟩ := hthen 0 hke
    have hsd := hd.sane hc.sane
    have haccess : (sd.affairs.server s).access = some a := by
      rw [Affairs.server, Scene.ledger_affairs, Client.server_ledger, hkd.world_eq]
      exact ha
    have hserver : a.server = s := (hsd.access_eq haccess).1
    have hout : se.affairs.Outdated a := by
      refine ⟨he.genuine hsd (hsd.genuine haccess), ?_⟩
      rw [Affairs.server, Scene.ledger_affairs, Client.server_ledger, hke.world_eq, hserver]
      exact hne
    have hmute := hf.mute (he.sane hsd) hout
    rw [hkf.world_eq, hke.world_eq] at hmute
    exact hmute

theorem New.links_orderly_shutdown : ∃ past d a later e last f,
    Hall.Walk openingRules opening past d ∧ (d.world.server 0).access = some a ∧
      Hall.Walk openingRules d later e ∧ a.generation ≠ (e.world.server 0).generation ∧
      Hall.Walk openingRules e last f ∧
      Link.utterances (f.world.wiring.said a.link) =
        [.request "initialize", .notification "initialized", .request "shutdown",
          .notification "exit"] ∧
      Link.Orderly (f.world.wiring.said a.link) ∧
      ∃ new, f.world.wiring.said a.link = e.world.wiring.said a.link ++ new ∧ Link.Mute new := by
  let ended (a : Access) (f : House (fun _ => True) 1 Unit Unit) : Bool :=
    Link.utterances (f.world.wiring.said a.link) =
      [.request "initialize", .notification "initialized", .request "shutdown",
        .notification "exit"]
  let ends (a : Access) (e : House (fun _ => True) 1 Unit Unit) : Bool :=
    a.generation ≠ (e.world.server 0).generation ∧
      (e.play openingRules shutdown).any fun r => ended a r.2
  let started (d : House (fun _ => True) 1 Unit Unit) : Bool :=
    (d.world.server 0).access.any fun a =>
      (d.play openingRules farewell).any fun r => ends a r.2
  obtain ⟨past, d, w, hd⟩ := Hall.exists_walk_of_play (P := fun _ => started) (d := opening)
    allowed_startup (by decide +kernel)
  obtain ⟨a, ha, hd⟩ := (Option.any_eq_true _ _).1 hd
  obtain ⟨later, e, v, he⟩ := Hall.exists_walk_of_play (P := fun _ => ends a) allowed_farewell hd
  obtain ⟨hne, he⟩ := of_decide_eq_true he
  obtain ⟨last, f, u, hf⟩ := Hall.exists_walk_of_play (P := fun _ => ended a) allowed_shutdown he
  have horderly {past d} (w : Hall.Walk openingRules opening past d) :=
    new_opening.links_orderly Providers.aloof_twoPipes (fun _ => .done ()) w
  exact ⟨past, d, a, later, e, last, f, w, ha, v, hne, u, of_decide_eq_true hf,
    (horderly ((w.trans v).trans u)).1 a.link, (horderly w).2 0 a ha later e v hne last f u⟩

end House

end LanguageClient
