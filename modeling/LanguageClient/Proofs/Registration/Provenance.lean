import LanguageClient.Proofs.Client.Estate
import LanguageClient.Proofs.Server.Crashes
namespace LanguageClient

/-!
# Where registrations come from

A stop empties the table of its server at its end. What is in a table was put there since by a task
that answers a request of the server. Nobody asks that task whether the connection that the request
came over is still the live one.
-/

variable {E K : Type} {c c' : Client E}

namespace Moment

/-- A task begins to answer a request of a server to register something, the entry among it. -/
inductive Registers (owner : LinkOwner) (e : String × (DynamicMethod ⊕ List FileWatcher)) :
    Moment (Client E) (Job K) → Prop where
  | intro {α : Type} {t : TaskId} {k : Unit → Prog E K α} {l : LinkId} {id : RequestId}
      {params j : Json} {r : Registration} {c : Client E}
      (hparams : LinkOwner.params Shape.registrationParams params = .ok j)
      (hr : r ∈ (LinkOwner.list j "registrations").map LinkOwner.registration)
      (he : e ∈ (RegistrationTable.empty.register r).entries) :
      Registers owner e (.asks t
        ((Link.answer owner.handler l id "client/registerCapability" params).bind k) c
        (c.enroll owner.server ((LinkOwner.list j "registrations").map LinkOwner.registration)))

/-- A stop of the server comes to its end. -/
def EndsStop (s : ServerId) (m : Moment (Client E) (Job K)) : Prop :=
  ∃ (α : Type) (t : TaskId) (k : Unit → Prog E K α) (u v : Client E),
    m = .asks t ((Program.modify (Client.updateServer s Server.endStop)).bind k) u v

end Moment

theorem Server.registrations_endStop (x : Server) : x.endStop.registrations = .empty := by
  unfold endStop
  dsimp only
  split
  · rfl
  · unfold move
    split
    · rfl
    · split <;> rfl

theorem Client.registrations_endStop (s : ServerId) (c : Client E) :
    ((c.updateServer s Server.endStop).server s).registrations = .empty := by
  obtain ⟨watchers, hservers⟩ := servers_visitServer s (fun x => (x.endStop, ())) c
  rw [updateServer, server, hservers]
  cases hs : c.servers.get? s with
  | none =>
    rw [Store.update_of_isNone hs, Store.get, hs]
    rfl
  | some x =>
    rw [Store.get_update_of_isSome (by rw [hs]; rfl)]
    exact Server.registrations_endStop _

/-- Where a stop has come to its end the table is empty. -/
theorem Moment.EndsStop.registrations {s : ServerId} {m : Moment (Client E) (Job K)}
    (h : m.EndsStop s) (hm : m.Faithful) : (m.after.server s).registrations = .empty := by
  obtain ⟨α, t, k, u, v, rfl⟩ := h
  obtain rfl := hm _ _ _ _ rfl
  exact Client.registrations_endStop s u

/-- A registration adds what it brings to the table of one server. -/
theorem Client.mem_enroll {s r : ServerId} {rs : List Registration}
    {e : String × (DynamicMethod ⊕ List FileWatcher)}
    (h : e ∈ ((c.enroll r rs).server s).registrations.entries) :
    e ∈ (c.server s).registrations.entries ∨
      r = s ∧ ∃ x ∈ rs, e ∈ (RegistrationTable.empty.register x).entries := by
  rcases server_enroll r s rs c with heq | ⟨rfl, _, heq⟩
  · exact .inl (congrArg (·.registrations.entries) heq ▸ h)
  · have h : e ∈ (rs.foldl (·.register ·) (c.server s).registrations).entries :=
      congrArg (·.registrations.entries) heq ▸ h
    exact (RegistrationTable.mem_entries_registerAll h).imp_right fun hx => ⟨rfl, hx⟩

/-! ## Walks -/

namespace Estate

/-- The entry was put into the table by an answer to a request of the server, and it has been there
ever since; no stop has come to its end since. -/
def Registered (past : List (Moment (Client E) (Job K))) (s : ServerId)
    (e : String × (DynamicMethod ⊕ List FileWatcher)) : Prop :=
  ∃ (owner : LinkOwner) (earlier since : List (Moment (Client E) (Job K)))
    (m : Moment (Client E) (Job K)), past = earlier ++ m :: since ∧ owner.server = s ∧
      m.Registers owner e ∧ ∀ m' ∈ since, e ∈ (m'.after.server s).registrations.entries

variable {past : List (Moment (Client E) (Job K))} {s : ServerId}
  {e : String × (DynamicMethod ⊕ List FileWatcher)}

theorem Registered.told (h : Registered past s e) {m : Moment (Client E) (Job K)}
    (hm : e ∈ (m.after.server s).registrations.entries) : Registered (past ++ [m]) s e := by
  obtain ⟨owner, earlier, since, first, rfl, howner, hfirst, hsince⟩ := h
  refine ⟨owner, earlier, since ++ [m], first, by simp, howner, hfirst, ?_⟩
  exact List.forall_mem_append.2 ⟨hsince, List.forall_mem_singleton.2 hm⟩

/-- All that is in tables was registered. -/
def Accounted (past : List (Moment (Client E) (Job K))) (c : Client E) : Prop :=
  ∀ s, ∀ e ∈ (c.server s).registrations.entries, Registered past s e

theorem keeps_accounted : (Client.custom : Custom (Client E) (Job K)).Keeps Accounted where
  quiet h hc s e he := h s e ((hc.server s).registrations he)
  moment {past m} h hm s e he := by
    have hsame (hserver : m.after.server s = m.before.server s) : Registered (past ++ [m]) s e :=
      (h s e (hserver ▸ he)).told he
    cases hm with
    | mild hc => exact (h s e ((hc.server s).registrations he)).told he
    | adds hm =>
      cases hm with
      | @finds _ _ _ definition root c =>
        rcases Routing.serverFor_cases definition root c with heq | ⟨_, heq⟩
        · exact hsame (congrArg (Client.server · s) heq)
        rcases Client.server_addServer (Server.new definition root) s c with hold | hnew
        · exact hsame ((congrArg (Client.server · s) heq).trans hold)
        · rw [Moment.after, (congrArg (Client.server · s) heq).trans hnew] at he
          exact nomatch he
      | lists => exact hsame (Routing.server_prune_track _ s _)
      | registers _ _ owner _ _ _ hparams =>
        rcases Client.mem_enroll he with hbefore | ⟨howner, r, hr, hentry⟩
        · exact (h s e hbefore).told he
        · exact ⟨owner, past, [], _, rfl, howner, .intro hparams hr hentry, List.forall_mem_nil _⟩

variable {net : Providers (Client E) (Job K)} {outside : K → Prog E K Unit} {a d : Estate E K}

/-- What is in the table of a server was registered by an answer to a request of the server, over
whatever connection, and since then no stop of the server has come to its end. -/
theorem New.registered_since_stop (ha : New net outside a) (hnet : net.Discreet)
    (houtside : ∀ k, (outside k).Discreet) (w : Hall.Walk (rules net) a past d)
    (he : e ∈ (d.world.server s).registrations.entries) :
    ∃ (owner : LinkOwner) (earlier since : List (Moment (Client E) (Job K)))
      (m : Moment (Client E) (Job K)), past = earlier ++ m :: since ∧ owner.server = s ∧
        m.Registers owner e ∧
        ∀ m' ∈ since, ¬ m'.EndsStop s ∧ e ∈ (m'.after.server s).registrations.entries := by
  have hbegin : Accounted ([] : List (Moment (Client E) (Job K))) a.world := by
    intro s e he
    rw [Client.server_of_length_le (ha.servers ▸ Nat.zero_le s)] at he
    exact nomatch he
  obtain ⟨owner, earlier, since, m, rfl, howner, hm, hsince⟩ :=
    ha.keeps hnet houtside w Client.civil_custom Client.mild_of_same keeps_accounted hbegin s e he
  refine ⟨owner, earlier, since, m, rfl, howner, hm, fun m' hm' => ⟨fun hends => ?_, hsince m' hm'⟩⟩
  have hempty := hends.registrations (w.faithful
    (List.mem_append_right _ (List.mem_cons_of_mem _ hm')))
  have hthere := hsince m' hm'
  rw [hempty] at hthere
  exact nomatch hthere

/-! ## An answer that comes late -/

end Estate

theorem Providers.discreet_freshPipes : (freshPipes : Providers (Client E) (Job K)).Discreet where
  acquire _ _ := Program.spares_done _
  start _ := Program.spares_act fun _ => rfl
  stop _ := Program.spares_done _
  release _ _ := Program.spares_done _

namespace Estate

/-- A server answers to `shutdown` and asks to register something at once. The stop that waited for
the answer comes to its end before the request is answered. -/
def parting : List (Hall.Cue (Client Unit) Wish) :=
  [.begins (.opened (document 'f')), .call 0, .task 1,
    .changes (Client.heard "\x7b\"id\":1,\"result\":\x7b\"capabilities\":\x7b\x7d\x7d\x7d"),
    .task 1, .task 1, .begins (.stop 0), .call 0,
    .changes (Client.heard "\x7b\"id\":2,\"result\":null\x7d"),
    .changes (Client.heard <| "\x7b\"id\":7,\"method\":\"client/registerCapability\"," ++
      "\"params\":\x7b\"registrations\":" ++
      "[\x7b\"id\":\"r\",\"method\":\"textDocument/hover\"\x7d]\x7d\x7d"),
    .task 0, .call 0]

theorem allowed_parting : ∀ cue ∈ parting, cue.Allowed (settlementRules .freshPipes) := by
  have hheard (message : String) (c : Client Unit) :
      Client.estateView.Same c (c.heard message) := rfl
  simp [parting, Hall.Cue.Allowed, rules, hheard]

/-- The server is stopped, and its table is empty. -/
def vacant (c : Client Unit) : Bool :=
  (c.server 0).status = .stopped ∧ (c.server 0).connection.isNone ∧
    (c.server 0).registrations = .empty

theorem New.registered_since_stop_parting : ∃ past later d d' e,
    Hall.Walk (settlementRules .freshPipes) (settlement .freshPipes) past d ∧
      vacant d.world = true ∧ Hall.Walk (settlementRules .freshPipes) d later d' ∧
      (d'.world.server 0).connection.isNone = true ∧
      e ∈ (d'.world.server 0).registrations.entries ∧
      ∃ (owner : LinkOwner) (earlier since : List (Moment (Client Unit) (Job Unit)))
        (m : Moment (Client Unit) (Job Unit)), past ++ later = earlier ++ m :: since ∧
          owner.server = 0 ∧ m.Registers owner e ∧
          ∀ m' ∈ since, ¬ m'.EndsStop 0 ∧ e ∈ (m'.after.server 0).registrations.entries := by
  let answers (d : Estate Unit Unit) := d.play (settlementRules .freshPipes) [.task 1]
  obtain ⟨past, d, w, hd⟩ := Hall.exists_walk_of_play (d := settlement .freshPipes)
    (P := fun _ d => vacant d.world ∧ ((answers d).any fun r =>
      (r.2.world.server 0).connection.isNone ∧
        (r.2.world.server 0).registrations.entries.length = 1) = true)
    allowed_parting (by decide +kernel)
  obtain ⟨hleft, hanswers⟩ := of_decide_eq_true hd
  obtain ⟨⟨later, d'⟩, hplay, hregistered⟩ := (Option.any_eq_true _ _).1 hanswers
  obtain ⟨hconnection, hlength⟩ := of_decide_eq_true hregistered
  have hlater : Hall.Walk (settlementRules .freshPipes) d later d' :=
    Hall.Walk.start.play (by simp [Hall.Cue.Allowed]) hplay
  obtain ⟨e, he⟩ := List.exists_mem_of_length_pos (Nat.lt_of_lt_of_eq Nat.zero_lt_one hlength.symm)
  exact ⟨past, later, d, d', e, w, hleft, hlater, hconnection, he,
    (new_settlement .freshPipes).registered_since_stop Providers.discreet_freshPipes
      (fun _ => Program.spares_done _) (w.trans hlater) he⟩

end Estate

end LanguageClient
