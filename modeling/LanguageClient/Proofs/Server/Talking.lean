import LanguageClient.Proofs.Server.Courtesy
namespace LanguageClient

/-!
# Talking to servers
-/

open Regime
open Scene (Leads Stays Rests Lasting)

variable {E K : Type} {given : String → Prop} {t : TaskId}
  {P : Scene (Client E) (Job K) (Role K) → Prop}

/-! ## Wires -/

theorem courteous_write (hP : Lasting given t P) (p : PipeId) (bytes : Bytes) :
    Courteous given t P (Program.write p bytes : Prog E K _) fun _ => P := by
  refine courteous_iterate (fun rest => ?_) bytes
  refine courteous_await hP (fun c => ?_) fun _ => rfl
  exact c.ledger_visitWiring (c.wiring.quiet_offer p rest t)

theorem courteous_outcome (hP : Lasting given t P) (promise : PromiseId) :
    Courteous given t P (Program.outcome promise : Prog E K _) fun _ => P := by
  refine courteous_await hP (fun c => ?_) fun _ => rfl
  exact c.ledger_visitWiring (.of_eq rfl rfl)

theorem courteous_receive (hP : Lasting given t P) (p : PipeId) :
    Courteous given t P (Program.receive p : Prog E K _) fun _ => P := by
  refine courteous_await hP (fun c => ?_) fun _ => rfl
  exact c.ledger_visitWiring (c.wiring.quiet_visitPipe p _)

theorem courteous_wiring {f : Wiring → Wiring} (hP : Lasting given t P)
    (hf : ∀ w : Wiring, w.Quiet (f w)) :
    Courteous given t P (Program.modify (HasWiring.modify f) : Prog E K Unit) fun _ => P :=
  courteous_modify hP fun c => c.ledger_modifyWiring (hf c.wiring)

namespace Link

theorem ledger_writingLock (l : LinkId) (lock : Lock) (c : Client E) :
    ((writingLock l).write lock c).ledger = c.ledger :=
  c.ledger_modifyWiring (c.wiring.quiet_updateLink l fun _ => rfl)

theorem courteous_send (hP : Lasting given t P) (l : LinkId) (m : OutgoingMessage) :
    Courteous given t P (send l m : Prog E K _) fun _ => P := by
  refine courteous_locked (ledger_writingLock l) hP (fun _ => hP) ?_
  refine (courteous_look hP).bind fun output => ?_
  cases output with
  | none => exact courteous_pure _
  | some p => exact courteous_write hP p _

theorem courteous_request (hP : Lasting given t P) (l : LinkId) (method : String) (params : Json) :
    Courteous given t P (request l method params : Prog E K _) fun _ => P := by
  refine (courteous_quiet hP fun c => c.ledger_visitWiring (c.wiring.quiet_enterRequest l)).bind
    fun entered => ?_
  cases entered with
  | none => exact courteous_pure _
  | some entered =>
    obtain ⟨id, promise⟩ := entered
    refine Courteous.holding (fun c => ?_) ?_ fun _ => hP
    · exact c.ledger_modifyWiring (c.wiring.quiet_updateLink l fun _ => rfl)
    · refine (courteous_send hP l _).bind fun sent => ?_
      cases sent with
      | error e => exact courteous_pure _
      | ok _ => exact courteous_outcome hP promise

theorem courteous_notify (hP : Lasting given t P) (l : LinkId) (method : String) (params : Json) :
    Courteous given t P (notify l method params : Prog E K _) fun _ => P := by
  refine (courteous_look hP).bind fun connected => ?_
  cases connected with
  | false => exact courteous_pure _
  | true => exact courteous_send hP l _

/-! ## What is handed over -/

variable {a : Access}

/-- Whoever has reached a server through its access can talk to it. -/
theorem courteous_talk (hP : Lasting given t P) {e : Link.Event} {u : Utterance}
    (he : e.utterance? = some u) (hu : u.isTraffic = true) :
    Courteous given t (fun s => P s ∧ (s.affairs.server a.server).access = some a)
      (Program.modify (HasWiring.modify (·.note a.link e)) : Prog E K Unit) fun _ => P := by
  refine courteous_act fun s hs hp γ k => ?_
  have hl : Leads given s (s.asked t ((Program.modify (HasWiring.modify (·.note a.link e))).bind k)
      (HasWiring.modify (·.note a.link e) s.world)) :=
    .one hs (.aside (.talks hp.2 he hu))
  exact ⟨hl, hP hs hp.1 hl rfl⟩

theorem courteous_hear (hP : Lasting given t P) {l : LinkId} {method : String}
    {outcome : Except ClientError Json} (h : method ≠ "shutdown" ∨ outcome.isOk = false) :
    Courteous given t P
      (Program.modify (HasWiring.modify (·.note l (.answered method outcome))) : Prog E K Unit)
      fun _ => P := by
  refine courteous_act fun s hs hp γ k => ?_
  have hl : Leads given s (s.asked t
      ((Program.modify (HasWiring.modify (·.note l (.answered method outcome)))).bind k)
      (HasWiring.modify (·.note l (.answered method outcome)) s.world)) :=
    .one hs (.aside (.hears h))
  exact ⟨hl, hP hs hp hl rfl⟩

theorem courteous_ask (hP : Lasting given t P) {method : String} {params : Json}
    (hu : (Utterance.request method).isTraffic = true) (hm : method ≠ "shutdown") :
    Courteous given t (fun s => P s ∧ (s.affairs.server a.server).access = some a)
      (ask a.link method params : Prog E K _) fun _ => P := by
  refine (courteous_talk hP rfl hu).bind fun _ => ?_
  refine (courteous_request hP a.link method params).bind fun outcome => ?_
  exact (courteous_hear hP (.inl hm)).bind fun _ => courteous_pure _

theorem courteous_tell (hP : Lasting given t P) {method : String} {params : Json}
    (hu : (Utterance.notification method).isTraffic = true) :
    Courteous given t (fun s => P s ∧ (s.affairs.server a.server).access = some a)
      (tell a.link method params : Prog E K _) fun _ => P :=
  (courteous_talk hP rfl hu).bind fun _ => courteous_notify hP a.link method params

end Link

namespace Access

variable {a : Access}

theorem access_eq_of_admits {s : Scene (Client E) (Job K) (Role K)} {f : Feature} {params : Json}
    (ha : s.affairs.Genuine a)
    (h : (a.gate : Gate (Client E) (Job K)).admits f params s.world = true) :
    (s.affairs.server a.server).access = some a := by
  refine ha.eq ?_
  by_contra hg
  have hstatus : a.status s.world = .stopped := by
    refine if_neg fun heq => hg ?_
    rw [Affairs.server, Scene.ledger_affairs, Client.server_ledger, Server.generation_plain, heq]
  simp only [Gate.admits, gate, hstatus] at h
  cases h

variable (hP : Lasting given t P)
  (ha : ∀ s : Scene (Client E) (Job K) (Role K), P s → s.affairs.Genuine a)

include hP ha

theorem courteous_report (f : Feature) (e : ClientError) :
    Courteous given t P ((a.gate : Gate (Client E) (Job K)).report f e) fun _ => P := by
  unfold Gate.report
  split
  · refine (courteous_look hP).bind fun b => ?_
    cases b with
    | false => exact courteous_pure _
    | true =>
      refine (courteous_start _ hP (fun s hs hp => ?_) rfl).bind fun _ => courteous_pure _
      exact hs.begun_of_genuine (ha s hp)
  · exact courteous_pure _

theorem courteous_call (f : Feature) (params : Json) :
    Courteous given t P ((a.gate : Gate (Client E) (Job K)).call f params) fun _ => P := by
  have hadmits : Courteous given t P
      (Program.read ((a.gate : Gate (Client E) (Job K)).admits f params))
      fun b s => P s ∧ (b = true → (s.affairs.server a.server).access = some a) := by
    refine courteous_read hP fun s hs hp s' hs' hp' => ⟨hp', fun hb => ?_⟩
    rw [hs']
    exact access_eq_of_admits (ha s hp) hb
  refine hadmits.bind fun b => ?_
  cases b with
  | false => exact courteous_done fun _ hp => hp.1
  | true =>
    have hu := Link.Utterance.isTraffic_ofFeature f
    unfold Link.Utterance.ofFeature at hu
    refine Courteous.mono (P := fun s => P s ∧ (s.affairs.server a.server).access = some a) ?_
      (fun s _ hp => ⟨hp.1, hp.2 rfl⟩) fun _ _ => id
    simp only [if_true]
    split <;> rename_i hn
    · rw [if_pos hn] at hu
      refine (Link.courteous_tell hP hu).bind fun told => ?_
      cases told with
      | ok _ => exact courteous_pure _
      | error e => exact (courteous_report hP ha f e).bind fun _ => courteous_pure _
    · rw [if_neg hn] at hu
      refine (Link.courteous_ask hP hu f.method_ne_shutdown).bind fun asked => ?_
      cases asked with
      | ok answer => exact courteous_pure _
      | error e => exact (courteous_report hP ha f e).bind fun _ => courteous_pure _

theorem courteous_tell (f : Feature) (params : Json) :
    Courteous given t P (a.tell f params : Prog E K Unit) fun _ => P :=
  (courteous_call hP ha f params).bind fun _ => courteous_pure _

theorem courteous_ask (kind : RequestKind) (f : Feature) (params : Json) :
    Courteous given t P (a.ask kind f params : Prog E K _) fun _ => P :=
  courteous_limited kind hP ((courteous_call hP ha f params).bind fun _ => courteous_pure _)

end Access

end LanguageClient
