import LanguageClient.Proofs.Server.Launching
namespace LanguageClient

/-!
# The lifecycle of a server

Whoever waits for the lifecycle of a server changes nothing that others rely on; once it is taken,
the task keeps it until it gives it back.
-/

open Function (update)
open Regime Courteous
open Scene (Leads Stays Rests Lasting Durable Holds)

variable {E K : Type} {α β : Type} {given : String → Prop} {t : TaskId} {ρ : Role K}

/-- A lock without who waits for it. -/
def Lock.plain (lock : Lock) : Lock := if lock.owner = .taken then ⟨.taken, []⟩ else Lock.free

namespace Lock

theorem plain_eq_of_owner {l m : Lock} (h : l.owner = m.owner) : l.plain = m.plain := by
  unfold plain
  rw [h]

theorem plain_of_taken {l : Lock} (h : l.owner = .taken) : l.plain = ⟨.taken, []⟩ := if_pos h

theorem plain_of_ne_taken {l : Lock} (h : l.owner ≠ .taken) : l.plain = free := if_neg h

/-- A task gets a lock that nobody has, and else leaves the owner as it was. -/
theorem acquire_cases (l : Lock) (t : TaskId) :
    ((l.acquire t).2 = some () ∧ l.owner ≠ .taken ∧ (l.acquire t).1.owner = .taken) ∨
      ((l.acquire t).2 = none ∧ (l.acquire t).1.owner = l.owner) := by
  unfold acquire
  cases h : l.owner with
  | nobody => exact .inl ⟨rfl, nofun, rfl⟩
  | taken =>
    refine .inr ⟨rfl, ?_⟩
    dsimp only
    split
    · exact h
    · rfl
  | promised u =>
    dsimp only
    split
    · exact .inl ⟨rfl, nofun, rfl⟩
    · refine .inr ⟨rfl, ?_⟩
      dsimp only
      split
      · exact h
      · rfl

theorem plain_release (l : Lock) : l.release.1.plain = free :=
  plain_of_ne_taken l.owner_release_ne_taken

theorem plain_giveUp (l : Lock) (t : TaskId) : (l.giveUp t).1.plain = l.plain := by
  unfold giveUp
  split
  · rename_i h
    rw [plain_release, plain_of_ne_taken]
    rw [h]
    exact nofun
  · exact plain_eq_of_owner rfl

end Lock

namespace Client

variable (c : Client E) (s : ServerId)

theorem ledger_writeLifecycle (lock : Lock) :
    ((lifecycleLock s).write lock c).ledger =
      c.ledger.put s { c.ledger.server s with lifecycle := lock.plain } := by
  rw [server_ledger]
  exact c.ledger_updateServer s _

theorem ledger_writeLifecycle_of_plain {lock : Lock}
    (h : lock.plain = (c.server s).lifecycle.plain) :
    ((lifecycleLock s).write lock c).ledger = c.ledger := by
  rw [ledger_writeLifecycle, h]
  have hserver : { c.ledger.server s with lifecycle := (c.server s).lifecycle.plain } =
      c.ledger.server s := by
    rw [server_ledger]
    rfl
  rw [hserver, Ledger.put_server]

theorem ledger_giveUpLifecycle (t : TaskId) :
    ((lifecycleLock s).giveUp t c).ledger = c.ledger :=
  (ledger_wakeAll _ _).trans (c.ledger_writeLifecycle_of_plain s (Lock.plain_giveUp _ t))

theorem ledger_releaseLifecycle : ((lifecycleLock s).release c).ledger =
    c.ledger.put s { c.ledger.server s with lifecycle := Lock.free } := by
  refine (ledger_wakeAll _ _).trans ((c.ledger_writeLifecycle s _).trans ?_)
  rw [Lock.plain_release]

end Client

namespace Server

/-- The lifecycle is waited for, taken, and given back in the end. -/
theorem handles_locked {s : ServerId} {p : Prog E K α} {C : Role K → Prop}
    {F : Scene (Client E) (Job K) (Role K) → Prop} (hF : Durable given F)
    (hs : ∀ x, F x → s < x.world.ledger.servers.length) (hold : ρ.hold = none)
    (hdrives : ρ.origin.Drives s) (hlink : ρ.origin.greeting? ≠ none ∨ ρ.link = none)
    (h : Handles given t (fun x => x.roles t = at_ ρ s .idle ∧ F x) p
      fun _ x => ∃ ρ', C ρ' ∧ ρ'.hold = none ∧ ρ'.dues = [] ∧ x.roles t = at_ ρ' s .idle) :
    Handles given t (fun x => x.roles t = ρ ∧ F x) (Program.locked (Client.lifecycleLock s) p)
      fun _ x => C (x.roles t) := by
  rintro o x ho hx ⟨hrole, hf⟩
  have hfree : (x.roles t).hold = none := (congrArg Role.hold hrole).trans hold
  refine From.bind (p := .await (Client.lifecycleLock s).acquire (Client.lifecycleLock s).giveUp .done)
    (Q := fun _ o' x' => Leads given o' (x'.become t (at_ ρ s .idle)) ∧
      Leads given x (x'.become t (at_ ρ s .idle)))
    (from_await (ℓ := ρ) ?_ fun x' hl hrole' γ k => ?_) fun _ o' x' ⟨howed, hsince⟩ => ?_
  · rw [← hrole, Scene.become_roles]
    exact ho
  · rw [← hrole, Scene.become_roles] at hl
    have hl : Leads given x x' := hl
    have hx' : x'.Sane := hl.sane hx
    have hleft : Holds t x x' ∧ (ofClient given).Spares t x' (x'.gaveUp t
        (.await (Client.lifecycleLock s).acquire (Client.lifecycleLock s).giveUp k)
        ((Client.lifecycleLock s).giveUp t x'.world)) := by
      refine ⟨fun h => absurd hfree h, fun _ => ⟨x'.roles t, ?_⟩⟩
      rw [← Scene.roles_gaveUp x' t, Scene.become_roles]
      exact .gaveUp (x'.world.ledger_giveUpLifecycle s t)
    rcases Lock.acquire_cases (x'.world.server s).lifecycle t with ⟨hgot, hne, hown⟩ | ⟨hnot, hown⟩
    · refine ⟨fun {u b} hpoll => ?_, fun {u} hpoll => ?_, hleft⟩
      · obtain rfl := (Prod.mk.inj hpoll).1
        suffices hl' : Leads given x' _ from ⟨hl', hl.trans hl'⟩
        refine Scene.One.leads hx' (.act ?_)
        have hrole' : x'.affairs.roles t = ρ := hrole'
        have hserver : x'.affairs.server s = (x'.world.server s).plain := x'.world.server_ledger s
        have hact := Act.takes (A := x'.affairs) (t := t) (s := s) (hs x' (hF hx hf hl))
          (by rwa [hrole']) (by rwa [hrole']) (by rwa [hrole'])
          (by rw [hserver]; exact fun h => hne ((Server.owner_plain _).1 h))
        rw [hrole'] at hact
        have hledger := x'.world.ledger_writeLifecycle s
          ((x'.world.server s).lifecycle.acquire t).1
        rw [Lock.plain_of_taken hown] at hledger
        exact (congrArg (fun L => Act x'.affairs ⟨update x'.roles t _, L⟩) hledger).mpr hact
      · have hnone : ((x'.world.server s).lifecycle.acquire t).2 = none := congrArg Prod.snd hpoll
        rw [hgot] at hnone
        exact nomatch hnone
    · refine ⟨fun {u b} hpoll => ?_, fun {u} hpoll => ?_, hleft⟩
      · have hsome : ((x'.world.server s).lifecycle.acquire t).2 = some b := congrArg Prod.snd hpoll
        rw [hnot] at hsome
        exact nomatch hsome
      · obtain rfl := (Prod.mk.inj hpoll).1
        exact .asked hx' (x'.world.ledger_writeLifecycle_of_plain s (Lock.plain_eq_of_owner hown))
  -- The task has the lifecycle from here on.
  have hx' : (x'.become t (at_ ρ s .idle)).Sane := hsince.sane hx
  have hrole' := Scene.roles_become_same x' t (at_ ρ s .idle)
  have hheld : ((x'.become t (at_ ρ s .idle)).roles t).hold ≠ none := by
    rw [hrole']
    exact nofun
  have hbody : (ofClient given).From t o' (x'.become t (at_ ρ s .idle))
      (.holding (Client.lifecycleLock s).release p)
      (fun _ o'' x'' => ∃ ρ', C ρ' ∧ Leads given o'' (x''.become t ρ') ∧
        Leads given (x'.become t (at_ ρ s .idle)) (x''.become t ρ'))
      fun o'' x'' => Holds t x o'' ∧ (ofClient given).Spares t o'' x'' := by
    refine From.holding ((h howed hx' ⟨hrole', hF hx hf hsince⟩).mono ?_ ?_)
    · rintro _ o'' x'' ⟨howed', hsince', -, ρ', hC, hold', hdues', hrole''⟩
      suffices hback : Leads given x'' ((x''.put ((Client.lifecycleLock s).release x''.world)).become
          t ρ') from ⟨ρ', hC, howed'.trans hback, hsince'.trans hback⟩
      refine .single ⟨[], (List.append_nil _).symm, nofun, .nil ?_, .act ?_⟩
      · have hledger := x''.world.ledger_releaseLifecycle s
        exact hledger ▸ .put rfl rfl
      have hrole : x''.affairs.roles t = at_ ρ' s .idle := hrole''
      have hact := Act.returns (A := x''.affairs) (congrArg Role.hold hrole)
        ((congrArg Role.dues hrole).trans hdues')
      rw [hrole, ← hold'] at hact
      have hledger := x''.world.ledger_releaseLifecycle s
      exact (congrArg (fun L => Act x''.affairs ⟨update x''.roles t _, L⟩) hledger).mpr hact
    · rintro o'' x'' ⟨hpaused, -⟩
      exact ⟨fun h => absurd hfree h, fun hdrop => absurd hdrop (hpaused hheld)⟩
  refine From.become (hbody.cast fun _ o'' x'' ⟨ρ', hC, howed', hsince'⟩ => ?_)
  refine ⟨ρ', howed', hsince.trans hsince', fun h => absurd hfree h, ?_⟩
  change C ((x''.become t ρ').roles t)
  rwa [Scene.roles_become_same]

end Server

end LanguageClient
