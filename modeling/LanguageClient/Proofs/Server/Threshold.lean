import LanguageClient.Proofs.Client.Estate
import LanguageClient.Proofs.Server.Crashes
namespace LanguageClient

/-!
# The crash threshold

A report of a crash that brings a server to the threshold takes all documents from it, and the user
has been told once since the last restart that it keeps crashing. It has failed then, unless it was
stopped before.
-/

open Program

variable {E K : Type} {t : TaskId} {s : ServerId} {c c' : Client E}

/-! ## What the user is told -/

/-- What the user is told of a server that keeps crashing. -/
def Server.complaint (x : Server) (e : ClientError) : Display :=
  let who := s!"Language server {x.id} for {String.ofList x.root}"
  .error errorTitle s!"{who} keeps crashing due to\n{e.message}\nCheck settings."

namespace Client

/-- The user is told that server `s` keeps crashing. -/
inductive Complains (s : ServerId) : Moment (Client E) (Job K) → Prop where
  | shows {α : Type} {t : TaskId} {k : Unit → Prog E K α} {e : ClientError} {c : Client E}
      (hs : s < c.servers.entries.length)
      (h : (Server.showCrash s e c).editor.shown = c.editor.shown ++ [(c.server s).complaint e]) :
      Complains s (.asks t ((modify (Server.showCrash s e)).bind k) c (Server.showCrash s e c))

/-- A restart of server `s` forgives its crashes. -/
inductive Forgives (s : ServerId) : Moment (Client E) (Job K) → Prop where
  | forgives {α : Type} {t : TaskId} {k : Unit → Prog E K α} {c : Client E} :
      Forgives s (.asks t ((modify (updateServer s Server.forgive)).bind k) c
        (c.updateServer s Server.forgive))

/-- So often the user was told that server `s` keeps crashing, since its crashes were forgiven. -/
inductive Complained (s : ServerId) : List (Moment (Client E) (Job K)) → Nat → Prop where
  | start : Complained s [] 0
  | forgiven {past : List (Moment (Client E) (Job K))} {m : Moment (Client E) (Job K)} {n : Nat}
      (h : Complained s past n) (hm : Forgives s m) : Complained s (past ++ [m]) 0
  | told {past : List (Moment (Client E) (Job K))} {m : Moment (Client E) (Job K)} {n : Nat}
      (h : Complained s past n) (hm : Complains s m) : Complained s (past ++ [m]) (n + 1)
  | other {past : List (Moment (Client E) (Job K))} {m : Moment (Client E) (Job K)} {n : Nat}
      (h : Complained s past n) (hforgives : ¬ Forgives s m) (hcomplains : ¬ Complains s m) :
      Complained s (past ++ [m]) n

end Client

namespace Server

theorem showCrash_of_shown {e : ClientError} (h : (c.server s).crashShown = true) :
    showCrash s e c = c := if_pos h

theorem showCrash_of_not_shown {e : ClientError} (h : (c.server s).crashShown = false) :
    showCrash s e c = (c.updateServer s fun x => { x with crashShown := true }).show_
      ((c.server s).complaint e) := if_neg (Bool.eq_false_iff.1 h)

theorem shown_showCrash {e : ClientError} (h : (c.server s).crashShown = false) :
    (showCrash s e c).editor.shown = c.editor.shown ++ [(c.server s).complaint e] := by
  have heditor : (c.updateServer s fun x => { x with crashShown := true }).editor = c.editor := by
    unfold Client.updateServer Client.visitServer
    dsimp only
    split <;> rfl
  rw [showCrash_of_not_shown h]
  exact congrArg (fun editor : Editor => editor.shown ++ [(c.server s).complaint e]) heditor

theorem crashShown_showCrash {e : ClientError} (hs : s < c.servers.entries.length) :
    ((showCrash s e c).server s).crashShown = true := by
  cases h : (c.server s).crashShown with
  | true => rwa [showCrash_of_shown h]
  | false =>
      obtain ⟨watchers, hservers⟩ :=
        Client.servers_visitServer s (fun x => ({ x with crashShown := true }, ())) c
      have hthere : (c.servers.get? s).isSome := by simp [Store.get?, hs]
      rw [showCrash_of_not_shown h]
      refine (congrArg (fun servers => (Store.get servers s).crashShown) hservers).trans ?_
      rw [Store.get_update_of_isSome hthere]

/-- Of the other servers nothing is said. -/
theorem crashShown_showCrash_ne {e : ClientError} {r : ServerId} (h : r ≠ s) :
    ((showCrash s e c).server r).crashShown = (c.server r).crashShown := by
  cases hshown : (c.server s).crashShown with
  | true => rw [showCrash_of_shown hshown]
  | false =>
      rw [showCrash_of_not_shown hshown]
      rcases Client.server_visitServer s r (fun x => ({ x with crashShown := true }, ())) c with
        heq | ⟨hr, -⟩
      · exact congrArg crashShown heq
      · exact absurd hr h

theorem crashShown_forgive : ((c.updateServer s forgive).server s).crashShown = false := by
  obtain ⟨watchers, hservers⟩ := Client.servers_visitServer s (fun x => (x.forgive, ())) c
  refine (congrArg (fun servers => (Store.get servers s).crashShown) hservers).trans ?_
  exact c.servers.get_update_eq s crashShown (fun _ => rfl) rfl

theorem crashShown_forgive_ne {r : ServerId} (h : r ≠ s) :
    ((c.updateServer s forgive).server r).crashShown = (c.server r).crashShown := by
  rcases Client.server_visitServer s r (fun x => (x.forgive, ())) c with heq | ⟨hr, -⟩
  · exact congrArg crashShown heq
  · exact absurd hr h

end Server

namespace Client

/-- Nothing is said of crashes, and none are forgiven. -/
def Silent (c c' : Client E) : Prop := ∀ s, (c'.server s).crashShown = (c.server s).crashShown

theorem silent_serverFor (definition : ServerDefinition) (root : Path) (c : Client E) :
    c.Silent (Routing.serverFor definition root c).1 := by
  intro s
  rcases Routing.serverFor_cases definition root c with heq | ⟨_, heq⟩
  · rw [heq]
  · rw [heq]
    change ((c.addServer (Server.new definition root)).1.server s).crashShown = _
    rcases Nat.lt_or_ge s c.servers.entries.length with hs | hs
    · rw [server_addServer_of_lt _ hs]
    -- Of a server that is made nothing was said before.
    · rcases server_addServer (Server.new definition root) s c with hold | hnew
      · rw [hold]
      · rw [hnew, server_of_length_le hs]
        rfl

theorem silent_enroll (s : ServerId) (rs : List Registration) (c : Client E) :
    c.Silent (c.enroll s rs) := by
  intro r
  rcases server_enroll s r rs c with heq | ⟨rfl, _, heq⟩
  · rw [heq]
  · rw [heq]

/-- Crashes are told of and forgiven in moments of their own. -/
def alarm : Custom (Client E) (Job K) where
  Quiet := Silent
  Allows m := m.before.Silent m.after ∨ Warns m
  refl _ _ := rfl
  trans h k s := (k s).trans (h s)
  agenda _ _ _ := rfl
  allows := .inl

theorem civil_alarm : (alarm : Custom (Client E) (Job K)).Civil where
  gentle h := h.crashShown
  warns := .inr
  adds h := by
    refine .inl ?_
    cases h with
    | finds => exact silent_serverFor _ _ _
    | lists => exact fun s => congrArg Server.crashShown (Routing.server_prune_track _ s _)
    | registers => exact silent_enroll _ _ _

theorem Forgives.crashShown {m : Moment (Client E) (Job K)} (h : Forgives s m) :
    (m.after.server s).crashShown = false := by
  cases h
  exact Server.crashShown_forgive

/-- The user is told what was not told before. -/
theorem Complains.crashShown {m : Moment (Client E) (Job K)} (h : Complains s m) :
    (m.before.server s).crashShown = false ∧ (m.after.server s).crashShown = true := by
  cases h with
  | @shows _ t k e c hs hshows =>
      refine ⟨Bool.eq_false_iff.2 fun hshown => ?_, Server.crashShown_showCrash hs⟩
      have hshown : (c.server s).crashShown = true := hshown
      rw [Server.showCrash_of_shown hshown] at hshows
      exact List.cons_ne_nil _ _ (List.self_eq_append_right.1 hshows)

/-- What is neither a complaint about a server nor a restart of it leaves what was shown of it. -/
theorem crashShown_of_other {m : Moment (Client E) (Job K)}
    (h : (alarm : Custom (Client E) (Job K)).Allows m) (hforgives : ¬ Forgives s m)
    (hcomplains : ¬ Complains s m) :
    (m.after.server s).crashShown = (m.before.server s).crashShown := by
  rcases h with h | h
  · exact h s
  cases h with
  | @shows _ t k r e c =>
      by_cases hr : s = r
      · subst hr
        change ((Server.showCrash s e c).server s).crashShown = (c.server s).crashShown
        cases hshown : (c.server s).crashShown with
        | true => rw [Server.showCrash_of_shown hshown, hshown]
        | false =>
            -- It would be a complaint if there was such a server.
            have hs : c.servers.entries.length ≤ s := by
              refine Nat.le_of_not_lt fun hs => hcomplains ?_
              exact .shows hs (Server.shown_showCrash hshown)
            have hlength : (Server.showCrash s e c).servers.entries.length ≤ s := by
              rw [Server.showCrash_of_not_shown hshown]
              exact Nat.le_trans (Nat.le_of_eq
                (length_visitServer s (fun x => ({ x with crashShown := true }, ())) c)) hs
            rw [server_of_length_le hlength]
            rfl
      · exact Server.crashShown_showCrash_ne hr
  | @forgives _ t k r c =>
      by_cases hr : s = r
      · subst hr
        exact absurd .forgives hforgives
      · exact Server.crashShown_forgive_ne hr

theorem keeps_complained (s : ServerId) : (alarm : Custom (Client E) (Job K)).Keeps fun past c =>
    Complained s past (if (c.server s).crashShown then 1 else 0) where
  quiet h hquiet := by rwa [hquiet s]
  moment {past m} h hallows := by
    by_cases hforgives : Forgives s m
    · rw [hforgives.crashShown]
      exact h.forgiven hforgives
    by_cases hcomplains : Complains s m
    · obtain ⟨hbefore, hafter⟩ := hcomplains.crashShown
      rw [hbefore] at h
      rw [hafter]
      exact h.told hcomplains
    rw [crashShown_of_other hallows hforgives hcomplains]
    exact h.other hforgives hcomplains

end Client

/-- The user was told as often as it is remembered. -/
theorem Estate.New.complained {net : Providers (Client E) (Job K)} {outside : K → Prog E K Unit}
    {a d : Estate E K} {past : List (Moment (Client E) (Job K))} (ha : New net outside a)
    (hnet : net.Discreet) (houtside : ∀ k, (outside k).Discreet)
    (w : Hall.Walk (rules net) a past d) (s : ServerId) :
    Client.Complained s past (if (d.world.server s).crashShown then 1 else 0) := by
  refine ha.keeps hnet houtside w Client.civil_alarm (fun h s => ?_) (Client.keeps_complained s) ?_
  · rename_i c c'
    have hservers : c'.servers = c.servers := congrArg Prod.fst h
    rw [Client.server, Client.server, hservers]
  · have hnone : a.world.server s = default :=
      Client.server_of_length_le (ha.servers ▸ Nat.zero_le s)
    rw [hnone]
    exact .start

/-! ## At the threshold -/

theorem Client.crashShown_releaseLifecycle (s r : ServerId) (c : Client E) :
    (((lifecycleLock s).release c).server r).crashShown = (c.server r).crashShown := by
  let free (x : Server) : Server × Unit :=
    ({ x with lifecycle := ((lifecycleLock s).read c).release.1 }, ())
  change ((c.visitServer s free).1.server r).crashShown = (c.server r).crashShown
  rcases server_visitServer s r free c with heq | ⟨rfl, _, heq⟩
  · rw [heq]
  · rw [heq]

/-- However a server stands, a report of a crash that brings it to the threshold takes all documents
from it. It has failed then, but only if it was not stopped. The user has been told once that it
keeps crashing, whatever the history that leads there, since its crashes were forgiven last. -/
theorem Server.crash_at_limit {net : Providers (Client E) (Job K)} (hnet : net.Still)
    (rt : Runtime (Client E) (Job K)) (e : ClientError) (t : TaskId) (aborted : Bool)
    (hs : s < rt.world.servers.entries.length)
    (hlimit : rt.world.crashThreshold ≤ (rt.world.server s).crashes + 1) :
    let report : Task (Client E) (Job K) Unit := ⟨t, reportCrash net s e, [], aborted⟩
    (net.Vital → (rt.world.server s).lifecycle.owner ≠ .taken →
      rt.Lively Client.gistView.Same report) ∧
    ∀ (n : Nat) (rt' : Runtime (Client E) (Job K)),
      Runtime.Ran Client.gistView.Same n rt report rt' () →
      (rt.world.server s).Broken (rt'.world.server s) ∧ (rt'.world.server s).crashShown = true ∧
        ∀ (outside : K → Prog E K Unit) (a d : Estate E K) (past : List (Moment (Client E) (Job K))),
          Estate.New net outside a → net.Discreet → (∀ k, (outside k).Discreet) →
          Hall.Walk (Estate.rules net) a past d → d.world = rt'.world →
          Client.Complained s past 1 := by
  obtain ⟨N, hN, hlink⟩ := rt.world.gist.exists_reached
  have hserver (c : Client E) : c.gist.server s = (c.server s).plain := c.server_gist s
  have hlength : s < rt.world.gist.ledger.servers.length :=
    Nat.lt_of_lt_of_eq hs (List.length_map ..).symm
  constructor
  · intro hvital hfree
    have hreport : Program.Vital Client.gistView t (Gist.Unheld s) (reportCrash net s e) :=
      (vital_read _).bind fun γ => vital_crashed hvital ⟨s, γ⟩ e
    exact hreport.lively (Client.unheld_iff.2 hfree)
  intro n rt' h
  have hbrings : (reportCrash net s e).Brings Client.gistView.Same t rt fun _ rt' =>
      (rt.world.gist.server s).Broken (rt'.world.gist.server s) ∧ ∃ c : Client E,
        s < c.gist.ledger.servers.length ∧
          rt'.world = (Client.lifecycleLock s).release (showCrash s e c) := by
    refine Brings.bind (brings_read (brings_crashed_final hnet hlength ?_ ?_ hN (hlink s)))
    · rw [hserver, generation_plain]
    · rw [hserver]
      exact hlimit
  obtain ⟨hbroken, c, hc, hworld⟩ := hbrings.ran h
  rw [hserver, hserver] at hbroken
  have hshown : (rt'.world.server s).crashShown = true := by
    rw [hworld, Client.crashShown_releaseLifecycle]
    exact crashShown_showCrash (Nat.lt_of_lt_of_eq hc (List.length_map ..))
  refine ⟨{ hbroken with }, hshown, fun outside a d past ha hdiscreet houtside w hd => ?_⟩
  have hcomplained := ha.complained hdiscreet houtside w s
  rw [hd, hshown] at hcomplained
  exact hcomplained

/-- A server that nobody has started is reported to have crashed. -/
theorem Server.crash_at_limit_stopped : ∃ (rt rt' : Runtime (Client Unit) (Job Unit)) (n : Nat),
    (rt.world.server 0).status = .stopped ∧
      rt.world.crashThreshold ≤ (rt.world.server 0).crashes + 1 ∧
      Runtime.Ran Client.gistView.Same n rt
        ⟨1, reportCrash .freshPipes 0 .timeout, [], false⟩ rt' () ∧
      (rt.world.server 0).Broken (rt'.world.server 0) ∧
      (rt'.world.server 0).status = .stopped ∧ (rt'.world.server 0).crashShown = true := by
  let rt : Runtime (Client Unit) (Job Unit) :=
    { House.workshop.runtime with world := { House.workshop.runtime.world with crashThreshold := 1 } }
  let report : Task (Client Unit) (Job Unit) Unit :=
    ⟨1, reportCrash .freshPipes 0 .timeout, [], false⟩
  obtain ⟨n, hran⟩ : ∃ n, Runtime.Ran Client.gistView.Same n rt report
      (rt.turn Hall.patience report).1 () := Runtime.exists_ran (by decide +kernel)
  obtain ⟨hbroken, hshown, -⟩ := (crash_at_limit Providers.still_freshPipes rt .timeout 1 false
    (by decide) (by decide)).2 n _ hran
  exact ⟨rt, _, n, rfl, by decide, hran, hbroken, hbroken.status, hshown⟩

end LanguageClient
