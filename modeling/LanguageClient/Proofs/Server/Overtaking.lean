import LanguageClient.Proofs.Client.Lenience
import LanguageClient.Proofs.Server.Crashes
import LanguageClient.Proofs.Task.Sparing
namespace LanguageClient

/-!
# Overtaken decisions

Who connects a document looks at the status of the server once, and who disconnects one finds out
once whether it was the last. Both act on it later, when the server may have changed: a server that
failed meanwhile is started again, and a document that came meanwhile is closed. Where the decision
was right at the beginning neither can happen.
-/

variable {E K G : Type} {α β : Type}

/-! ## Programs that leave the servers as they are -/

/-- The servers are what is seen. -/
def Client.serversView : View (Client E) (Store Server) := ⟨Client.servers, fun _ _ => rfl⟩

abbrev Prog.Spares (p : Prog E K α) : Prop := Program.Spares Client.serversView p

theorem Client.lenient_serversView :
    (Client.serversView.custom : Custom (Client E) (Job K)).Lenient := fun _ _ h _ _ _ => h

open Program

theorem Server.spares_closeSession (x : SessionId) :
    Prog.Spares (closeSession x : Prog E K Unit) :=
  Spares.bind (spares_modify fun _ => rfl) fun _ =>
    follows_custom_iff.1 (Session.follows_tellClosed Client.lenient_serversView x)

/-! ## Documents that are lost -/

namespace Server

/-- The document is there, and no other. -/
def HasOnly (x : Server) (uri : String) : Prop := ∀ other, x.Has other ↔ other = uri

instance (x : Server) (uri : String) : Decidable (x.Has uri) := inferInstanceAs (Decidable (_ ∨ _))

theorem has_remove {x : Server} {uri other : String} (h : x.Has other) (hne : other ≠ uri) :
    (x.remove uri).Has other := by
  rcases h with h | h
  · obtain ⟨e, he, heq⟩ := List.any_eq_true.1 h
    obtain rfl := beq_iff_eq.1 heq
    exact .inl (List.any_eq_true.2 ⟨e, List.mem_filter.2 ⟨he, bne_iff_ne.2 hne⟩, heq⟩)
  · obtain ⟨d, hd, heq⟩ := List.any_eq_true.1 h
    obtain rfl := beq_iff_eq.1 heq
    exact .inr (List.any_eq_true.2 ⟨d, List.mem_filter.2 ⟨hd, bne_iff_ne.2 hne⟩, heq⟩)

/-- A disconnect goes on to stop the server only after the last document. -/
theorem hasOnly_of_takeDocument {x : Server} {uri : String}
    (h : ((takeDocument uri x).2.2.1 && (takeDocument uri x).2.2.2) = true) : x.HasOnly uri := by
  obtain ⟨hwas, hleft⟩ := Bool.and_eq_true_iff.1 h
  obtain ⟨hconnected, hqueue⟩ := Bool.and_eq_true_iff.1 hleft
  have hhere : x.Has uri := Bool.or_eq_true_iff.1 hwas
  refine fun other => ⟨fun hother => ?_, fun heq => heq ▸ hhere⟩
  by_contra hne
  have hremoved := has_remove hother hne
  rw [Has, isConnectedTo, isPending, List.isEmpty_iff.1 hconnected, List.isEmpty_iff.1 hqueue]
    at hremoved
  simp at hremoved

end Server

namespace Moment

/-- The server has the document no more. -/
def Loses (s : ServerId) (uri : String) (m : Moment (Client E) (Job K)) : Prop :=
  (m.before.server s).Has uri ∧ ¬ (m.after.server s).Has uri

/-- The server had failed and is started again. -/
def Revives (s : ServerId) (m : Moment (Client E) (Job K)) : Prop :=
  (m.before.server s).status = .failed ∧ (m.after.server s).status = .starting

variable {s : ServerId} {m : Moment (Client E) (Job K)}

instance (uri : String) : Decidable (m.Loses s uri) := inferInstanceAs (Decidable (_ ∧ _))

instance : Decidable (m.Revives s) := inferInstanceAs (Decidable (_ ∧ _))

theorem server_eq_of_same (h : Client.serversView.Same m.before m.after) :
    m.after.server s = m.before.server s := congrArg (Store.get · s) h

theorem Loses.not_same {uri : String} (h : m.Loses s uri) :
    ¬ Client.serversView.Same m.before m.after := by
  intro hsame
  obtain ⟨hbefore, hafter⟩ := h
  rw [server_eq_of_same hsame] at hafter
  exact hafter hbefore

theorem Revives.not_same (h : m.Revives s) : ¬ Client.serversView.Same m.before m.after := by
  intro hsame
  obtain ⟨hbefore, hafter⟩ := h
  rw [server_eq_of_same hsame, hbefore] at hafter
  cases hafter

end Moment

/-- Who takes a document out takes no other one. -/
theorem Client.has_takeDocument {s : ServerId} {uri other : String} {c : Client E}
    (h : (c.server s).Has other) (hne : other ≠ uri) :
    ((c.visitServer s (Server.takeDocument uri)).1.server s).Has other := by
  have hledger := c.ledger_visitServer_of_commutes s (f := Server.takeDocument uri)
    (Server.commutes_remove uri)
  have hplain (c : Client E) (uri : String) :
      (c.server s).Has uri ↔ (c.ledger.server s).Has uri := by
    rw [c.server_ledger]
    rfl
  rw [hplain] at h ⊢
  rw [hledger]
  by_cases hs : s < c.ledger.servers.length
  · rw [Ledger.server_put_same _ _ hs]
    exact Server.has_remove h hne
  · rwa [Ledger.put, List.set_eq_of_length_le (Nat.le_of_not_lt hs)]

namespace Server

variable {net : Providers (Client E) (Job K)} {s : ServerId} {c : Client E}

/-- What is done with a document that was taken out. -/
def closeTaken (net : Providers (Client E) (Job K)) (s : ServerId)
    (taken : Option SessionId × Bool × Bool) : Prog E K Unit := do
  match taken.1 with
  | none => pure ()
  | some session => closeSession session
  if taken.2.1 && taken.2.2 then stop net s

theorem disconnect_eq_bind (uri : String) : disconnect net s uri =
    (Program.act (Client.visitServer s (takeDocument uri))).bind (closeTaken net s) := rfl

theorem spares_closeTaken {taken : Option SessionId × Bool × Bool}
    (h : (taken.2.1 && taken.2.2) = false) :
    Prog.Spares (closeTaken net s taken : Prog E K Unit) := by
  obtain ⟨session, wasHere, nothingLeft⟩ := taken
  have hstop : Prog.Spares (if wasHere && nothingLeft then stop net s else pure ()) := by
    rw [h]
    exact spares_done ()
  cases session with
  | none => exact Spares.bind (spares_done ()) fun _ => hstop
  | some session => exact Spares.bind (spares_closeSession session) fun _ => hstop

theorem spares_disconnect {uri : String} (h : ¬ (c.server s).HasOnly uri) :
    Prog.Spares (closeTaken net s (c.visitServer s (takeDocument uri)).2) :=
  spares_closeTaken (Bool.eq_false_iff.2 fun hlast => h (hasOnly_of_takeDocument hlast))

/-- What is done with a document once the status has been looked at. -/
def connectUnless (net : Providers (Client E) (Job K)) (s : ServerId) (d : OpenDocument)
    (failed : Bool) : Prog E K Unit := do
  if failed then return ()
  start net s
  connectStarted s d

theorem connect_eq_bind (d : OpenDocument) : connect net s d =
    (Program.read fun c => (c.server s).status == .failed).bind (connectUnless net s d) := rfl

theorem spares_connect {d : OpenDocument} (h : ¬ (c.server s).status ≠ .failed) :
    Prog.Spares (connectUnless net s d ((c.server s).status == .failed)) := by
  rw [not_not.1 h]
  exact spares_done ()

end Server

/-- Providers whose processes fail a while after they are started. -/
def Providers.reluctant : Providers (Client E) (Job K) where
  acquire _ _ := .done (.ok 0)
  start _ := (Program.sleep 1000).bind fun _ => .done (.error .timeout)
  stop _ := .done ()
  release _ _ := .done ()

namespace House

variable {given : String → Prop} {n : Nat} {net : Providers (Client E) (Job K)}
  {outside : K → Prog E K Unit} {c d : House given n E K}
  {past moments : List (Moment (Client E) (Job K))} {rt rt' : Runtime (Client E) (Job K)}
  {left : List (Task (Client E) (Job K) Unit)} {m : Moment (Client E) (Job K)}

/-- A disconnect takes another document from the server only if its own was the last one when it
began. -/
theorem New.lost_by_disconnect (hc : New net outside c)
    (w : Hall.Walk (rules given n net) c past d) {s : Fin n} {uri other : String}
    {task : Task (Client E) (Job K) Unit} (hcall : ⟨.disconnect s uri, task⟩ ∈ d.calls)
    (hturn : rt.Turn task moments rt' left) (hm : m ∈ moments) (hne : other ≠ uri)
    (hlost : m.Loses s other) :
    ∃ u v, .asks task.id (Server.disconnect net s uri) u v ∈ past ++ moments ∧
      (u.server s).HasOnly uri := by
  have hdecided := w.decided (Server.disconnect_eq_bind uri)
    (fun _ => @Server.spares_disconnect E K net s _ uri) hc.calls hcall
  rcases hdecided.turn (fun _ => Server.spares_disconnect) hturn with h | ⟨_, hmoments⟩
  · exact h
  · rcases hmoments m hm with rfl | hsame
    · exact absurd (Client.has_takeDocument hlost.1 hne) hlost.2
    · exact absurd hsame hlost.not_same

/-- The server reads nothing for a while: the pipe to it holds no more than so many bytes. -/
def stalled (capacity : Nat) (c : Client E) : Client E :=
  HasWiring.modify (fun w => (w.visitPipe 1 fun p => ({ p with capacity }, p.writer, ())).1) c

theorem beside_stalled (capacity : Nat) (c : Client E) : c.Beside given (stalled capacity c) :=
  ⟨c.editor.documents, fun _ => .inl, c.ledger_modifyWiring (c.wiring.quiet_visitPipe 1 _)⟩

/-- A document is to be connected to the only server. -/
def connecting (uri : String) (path : Path) : Hall.Cue (Client Unit) (Demand (fun _ => True) 1) :=
  .begins (.connect ⟨0, Nat.zero_lt_one⟩ ⟨uri, path, ['/'], 0⟩ trivial)

/-- While its only document is being closed, a server that is slow to read gets another one. -/
def closing : List (Hall.Cue (Client Unit) (Demand (fun _ => True) 1)) :=
  [connecting "file:///a" ['/', 'a'], .call 0, .task 1,
    .changes (Client.heard
      "\x7b\"id\":1,\"result\":\x7b\"capabilities\":\x7b\"textDocumentSync\":1\x7d\x7d\x7d"),
    .task 1, .task 1, .changes (stalled 0),
    .begins (.disconnect ⟨0, Nat.zero_lt_one⟩ "file:///a"), .call 0,
    connecting "file:///b" ['/', 'b'], .call 1, .changes (stalled Pipe.standardCapacity)]

theorem allowed_closing : ∀ cue ∈ closing, cue.Allowed workshopRules := by
  simp [closing, connecting, Hall.Cue.Allowed, rules, Client.beside_heard, beside_stalled]

/-- In its next turn a disconnect of another document takes this one from the server. -/
def takesNext (uri : String) (rt : Runtime (Client Unit) (Job Unit)) :
    Hall.Call (Client Unit) (Job Unit) (fun _ : Demand (fun _ => True) 1 => Unit) → Bool
  | ⟨.disconnect s own, task⟩ => uri ≠ own ∧
    (rt.finish Hall.patience task).any fun r => r.1.any fun m => m.Loses s uri
  | _ => false

theorem New.lost_by_disconnect_closing : ∃ past d, ∃ s : Fin 1, ∃ uri task moments rt' left m,
    Hall.Walk workshopRules workshop past d ∧ ⟨.disconnect s uri, task⟩ ∈ d.calls ∧
      d.runtime.Turn task moments rt' left ∧ m ∈ moments ∧ "file:///b" ≠ uri ∧
      m.Loses s "file:///b" ∧
      ∃ u v, .asks task.id (Server.disconnect .freshPipes s uri) u v ∈ past ++ moments ∧
        (u.server s).HasOnly uri := by
  obtain ⟨past, d, w, hd⟩ := Hall.exists_walk_of_play (d := workshop)
    (P := fun _ d => d.calls.any (takesNext "file:///b" d.runtime)) allowed_closing
    (by decide +kernel)
  obtain ⟨⟨name, task⟩, hcall, hnext⟩ := List.any_eq_true.1 hd
  cases name with
  | disconnect s uri =>
    obtain ⟨hne, hfinish⟩ := of_decide_eq_true hnext
    obtain ⟨⟨moments, rt', left⟩, hturn, hmoments⟩ := (Option.any_eq_true _ _).1 hfinish
    obtain ⟨m, hm, hlost⟩ := List.any_eq_true.1 hmoments
    have hlost := of_decide_eq_true hlost
    have hturn := Runtime.turn_of_finish hturn
    exact ⟨past, d, s, uri, task, moments, rt', left, m, w, hcall, hturn, hm, hne, hlost,
      new_workshop.lost_by_disconnect w hcall hturn hm hne hlost⟩
  | _ => cases hnext

/-- A connect starts a failed server only if it had not failed when the connect began. -/
theorem New.revived_by_connect (hc : New net outside c)
    (w : Hall.Walk (rules given n net) c past d) {s : Fin n} {doc : OpenDocument}
    {hdoc : given doc.uri} {task : Task (Client E) (Job K) Unit}
    (hcall : ⟨.connect s doc hdoc, task⟩ ∈ d.calls)
    (hturn : rt.Turn task moments rt' left) (hm : m ∈ moments) (hrevives : m.Revives s) :
    ∃ u v, .asks task.id (Server.connect net s doc) u v ∈ past ++ moments ∧
      (u.server s).status ≠ .failed := by
  have hdecided := w.decided (Server.connect_eq_bind doc)
    (fun _ => @Server.spares_connect E K net s _ doc) hc.calls hcall
  rcases hdecided.turn (fun _ => Server.spares_connect) hturn with h | ⟨_, hmoments⟩
  · exact h
  · rcases hmoments m hm with rfl | hsame
    · exact absurd rfl hrevives.not_same
    · exact absurd hsame hrevives.not_same

/-- Some time passes. -/
def later (c : Client E) : Client E := HasAgenda.modify (·.turnTo 1000) c

theorem beside_later (c : Client E) : c.Beside given (later c) :=
  ⟨c.editor.documents, fun _ => .inl, rfl⟩

/-- A server whose processes fail a while after they are started. -/
def infirmary : House (fun _ => True) 1 Unit Unit :=
  { workshop with
    runtime := { workshop.runtime with perform := Job.perform .reluctant fun _ => .done () } }

abbrev infirmaryRules :
    Hall.Rules (Client Unit) (Job Unit) fun _ : Demand (fun _ => True) 1 => Unit :=
  rules (fun _ => True) 1 .reluctant

theorem new_infirmary : New Providers.reluctant (fun _ => .done ()) infirmary where
  length_eq := rfl
  servers := new_workshop.servers
  sessions := rfl
  index := rfl
  links := rfl
  transcript := rfl
  tasks := rfl
  calls := rfl
  perform_eq := rfl

/-- Two documents are connected to a server that does not start; the second waits for the lifecycle
while the first has it. -/
def failing : List (Hall.Cue (Client Unit) (Demand (fun _ => True) 1)) :=
  [connecting "file:///a" ['/', 'a'], .call 0, connecting "file:///b" ['/', 'b'], .call 1,
    .changes later, .call 0]

theorem allowed_failing : ∀ cue ∈ failing, cue.Allowed infirmaryRules := by
  simp [failing, connecting, Hall.Cue.Allowed, rules, beside_later]

/-- In its next turn a connect starts a failed server. -/
def revivesNext (rt : Runtime (Client Unit) (Job Unit)) :
    Hall.Call (Client Unit) (Job Unit) (fun _ : Demand (fun _ => True) 1 => Unit) → Bool
  | ⟨.connect s _ _, task⟩ =>
    (rt.finish Hall.patience task).any fun r => r.1.any fun m => m.Revives s
  | _ => false

theorem New.revived_by_connect_failing : ∃ past d, ∃ s : Fin 1, ∃ doc h task moments rt' left m,
    Hall.Walk infirmaryRules infirmary past d ∧ ⟨.connect s doc h, task⟩ ∈ d.calls ∧
      d.runtime.Turn task moments rt' left ∧ m ∈ moments ∧ m.Revives s ∧
      ∃ u v, .asks task.id (Server.connect .reluctant s doc) u v ∈ past ++ moments ∧
        (u.server s).status ≠ .failed := by
  obtain ⟨past, d, w, hd⟩ := Hall.exists_walk_of_play (d := infirmary)
    (P := fun _ d => d.calls.any (revivesNext d.runtime)) allowed_failing (by decide +kernel)
  obtain ⟨⟨name, task⟩, hcall, hnext⟩ := List.any_eq_true.1 hd
  cases name with
  | connect s doc h =>
    obtain ⟨⟨moments, rt', left⟩, hturn, hmoments⟩ := (Option.any_eq_true _ _).1 hnext
    obtain ⟨m, hm, hrevives⟩ := List.any_eq_true.1 hmoments
    have hrevives := of_decide_eq_true hrevives
    have hturn := Runtime.turn_of_finish hturn
    exact ⟨past, d, s, doc, h, task, moments, rt', left, m, w, hcall, hturn, hm, hrevives,
      new_infirmary.revived_by_connect w hcall hturn hm hrevives⟩
  | _ => cases hnext

end House

end LanguageClient
