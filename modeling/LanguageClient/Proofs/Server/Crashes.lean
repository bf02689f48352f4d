import LanguageClient.Proofs.Server.Counting
import LanguageClient.Proofs.Server.Recovery
import LanguageClient.Proofs.Server.Vitality
namespace LanguageClient

/-!
# What becomes of a server that crashes

Below the threshold a crash costs a server no document, if nothing else comes in between. At the
threshold it has failed, unless it was stopped before.
-/

open Program

variable {E K : Type} {t : TaskId} {s : ServerId}

/-! ## Below the threshold -/

namespace Scene

variable {x : Scene (Client E) (Job K) (Role K)} (hx : x.Sane)

include hx

theorem reached : x.world.gist.Reached x.world.gist.links := by
  intro s a ha
  have ha : (x.affairs.server s).access = some a := by
    rw [Affairs.server, ledger_affairs, x.world.server_ledger, ← x.world.server_gist]
    exact ha
  have hlt : a.link < x.world.wiring.readers.length := hx.access_lt ha
  rwa [Wiring.readers, List.length_map, ← x.world.links_gist] at hlt

theorem connection_lt {s : ServerId} {k : Connection}
    (hk : (x.world.gist.server s).connection = some k) : k.link < x.world.gist.links := by
  have hk : (x.affairs.server s).connection = some k := by
    rw [Affairs.server, ledger_affairs, x.world.server_ledger, ← x.world.server_gist]
    exact hk
  obtain ⟨⟨owner, l⟩, hgreets, hl⟩ := Option.map_eq_some_iff.1 (hx.greeter hk)
  obtain rfl := (Prod.mk.inj hl).2
  have hlt : k.link < x.world.wiring.readers.length := hx.hand_lt hgreets
  rwa [Wiring.readers, List.length_map, ← x.world.links_gist] at hlt

theorem unopened {l : LinkId} (hl : x.world.gist.links ≤ l) :
    Link.opened (x.world.gist.said l) = [] := by
  have hfresh : x.affairs.stage? l = some .fresh := by
    refine hx.unspoken ?_
    change x.world.wiring.readers.length ≤ l
    rwa [Wiring.readers, List.length_map, ← x.world.links_gist]
  exact Link.opened_eq_nil_of_utterances (Link.Stage.spoke_after hfresh)

end Scene

/-- A server has answered to `initialize`, and wants to hear of the documents that are opened. -/
def Link.Event.isWelcome : Link.Event → Bool
  | .answered method (.ok answer) =>
    method == "initialize" &&
      match Server.capabilitiesOf? (.ok (.ok answer)) with
      | .ok capabilities => capabilities.openClose
      | .error _ => false
  | _ => false

theorem Link.Event.exists_of_isWelcome {e : Link.Event} (h : e.isWelcome = true) :
    ∃ answer capabilities, e = .answered "initialize" (.ok answer) ∧
      Server.capabilitiesOf? (.ok (.ok answer)) = .ok capabilities ∧
      capabilities.openClose = true := by
  cases e with
  | asked | told => exact nomatch h
  | answered method outcome =>
    cases outcome with
    | error e => exact nomatch h
    | ok answer =>
      rw [isWelcome, Bool.and_eq_true, beq_iff_eq] at h
      obtain ⟨rfl, h⟩ := h
      split at h
      · rename_i capabilities hcapabilities
        exact ⟨answer, capabilities, rfl, hcapabilities, h⟩
      · exact nomatch h

/-- Server `s` is started over link `l`. It is connected to the documents that it had before, and to
no others, and each of them was opened once with the text that it had. -/
structure Client.Reopened (s : ServerId) (l : LinkId) (before after : Client E) : Prop where
  status : (after.server s).status = .started
  queue : (after.server s).queue = []
  connected (uri : String) : (after.server s).isConnectedTo uri = true ↔
    (before.server s).Has uri
  nodup : ((Server.documents s before).map (·.uri)).Nodup
  opened : Link.opened (after.wiring.said l) = (Server.documents s before).map fun d =>
    Params.didOpen d.uri (Server.languageOf d) 0 (before.editor.text d.buffer)

open LanguageClient.Runtime (Ran)

variable {net : Providers (Client E) (Job K)} {n : Nat} {rt rt' : Runtime (Client E) (Job K)}

theorem Scene.recovered {x : Scene (Client E) (Job K) (Role K)} (hx : x.Sane)
    (hdistinct : x.affairs.Distinct) (hnet : net.Still) {outside : K → Prog E K Unit}
    (hperform : rt.perform = Job.perform net outside) {e : ClientError}
    (hs : s < x.world.ledger.servers.length)
    (hruns : (x.world.server s).status = .starting ∨ (x.world.server s).status = .started)
    (hbelow : (x.world.server s).crashes + 1 < x.world.crashThreshold)
    (hlaunches : net.Launches (x.world.server s).definition (x.world.server s).root)
    (hrt : rt.world = x.world)
    (h : Ran Client.gistView.Same n rt
      ⟨t, Server.crashed net ⟨s, (x.world.server s).generation⟩ e, [], false⟩ rt' ()) :
    Recovered s (x.world.gist.documents s) x.world.gist rt' ∧ rt'.world.gist.Unheld s := by
  have hserver : x.world.gist.server s = (x.world.server s).plain := x.world.server_gist s
  have hnodup := nodup_documents hx hdistinct s
  rw [x.world.documents_gist s] at hnodup
  rw [← hrt] at hserver hnodup hruns hbelow hlaunches h ⊢
  refine (Server.brings_crashed hnet hperform ?_ (congrArg Server.generation hserver) ?_ ?_ ?_ ?_
    hnodup ?_).ran h
  · exact hrt ▸ hs
  · rw [hserver]
    exact hruns
  · rw [hserver]
    exact hbelow
  · exact hrt ▸ reached hx
  · exact fun k hk => hrt ▸ connection_lt hx (hrt ▸ hk)
  · rw [hserver]
    exact hlaunches

theorem Relaunched.reopened {before : Client E} {k : Connection}
    (h : Relaunched s (before.gist.documents s) before.gist k rt)
    (hnodup : ((Server.documents s before).map (·.uri)).Nodup)
    (hmem : ∀ uri, uri ∈ (Server.documents s before).map (·.uri) ↔ (before.server s).Has uri)
    (hunopened : Link.opened (before.gist.said k.link) = []) {rt₁ : Runtime (Client E) (Job K)}
    (hsame : Client.gistView.Same rt.world rt₁.world) {params : Json}
    (hran : Ran Client.gistView.Same n rt₁ ⟨t, Server.handshake
      ⟨s, (rt.world.server s).generation⟩ k.link params, [], false⟩ rt' ()) :
    ∃ later, rt'.world.wiring.said k.link = rt₁.world.wiring.said k.link ++ later ∧
      (later.any Link.Event.isWelcome = true → Client.Reopened s k.link before rt'.world) := by
  have hserver (c : Client E) : c.gist.server s = (c.server s).plain := c.server_gist s
  have hgist : rt.world.gist = rt₁.world.gist := hsame.symm
  rw [← before.documents_gist] at h
  have hlt := h.lt
  have hstatus := h.status
  have hconnected := h.connected
  have hqueue := h.queue
  rw [hgist] at hlt hstatus hconnected hqueue
  have hanswered : Server.Answered s (rt.world.server s).generation k.link rt₁.world.gist
      rt'.world.gist := by
    refine (Server.alone_handshake hlt ?_ hstatus hconnected (hqueue ▸ hnodup)).ran hran
    rw [← hgist, hserver, Server.generation_plain]
  obtain ⟨later, hsaid, hthen⟩ := hanswered
  refine ⟨later, hsaid, fun hwelcome => ?_⟩
  obtain ⟨_, hanswer, hwelcome⟩ := List.any_eq_true.1 hwelcome
  obtain ⟨answer, capabilities, rfl, hcapabilities, hopen⟩ :=
    Link.Event.exists_of_isWelcome hwelcome
  obtain ⟨hserves, hopened⟩ := hthen answer capabilities hanswer hcapabilities
  rw [hserver rt'.world] at hserves
  have huris : (rt'.world.server s).connected.map (·.1) =
      (Server.documents s before).map (·.uri) := by
    rw [← hqueue]
    exact hserves.connected
  exact {
    status := hserves.status
    queue := hserves.queue
    connected := fun uri => by
      rw [← hmem, ← huris, ← Bool.not_eq_false, Server.isConnectedTo_eq_false, not_not]
    nodup := hnodup
    opened := by
      refine (congrArg Link.opened hsaid).trans ?_
      rw [Link.opened_append, ← hgist, h.said _ (Nat.le_of_eq h.link.symm), hunopened,
        List.nil_append, hopened, Gist.openings, if_pos hopen, hqueue, ← hgist, h.text]
      rfl }

/-- Providers that open two new pipes for every process. -/
def Providers.freshPipes : Providers (Client E) (Job K) where
  acquire _ _ := .done (.ok 0)
  start _ := Program.act fun c =>
    let (c, output) := HasWiring.visit (·.openPipe Pipe.open_) c
    let (c, input) := HasWiring.visit (·.openPipe Pipe.open_) c
    (c, .ok ⟨output, input, none⟩)
  stop _ := .done ()
  release _ _ := .done ()

theorem Providers.aloof_freshPipes : (freshPipes : Providers (Client E) (Job K)).Aloof :=
  ⟨fun _ _ => .done _, fun _ => .await (fun _ _ => rfl) fun _ _ => rfl, fun _ => .done _,
    fun _ _ => .done _⟩

theorem Providers.still_freshPipes : (freshPipes : Providers (Client E) (Job K)).Still :=
  ⟨fun _ _ => still_done _, fun _ => still_act fun _ => rfl, fun _ => still_done _,
    fun _ _ => still_done _⟩

theorem Providers.vital_freshPipes : (freshPipes : Providers (Client E) (Job K)).Vital :=
  ⟨fun _ _ => vital_done _, fun _ => vital_visit _, fun _ => vital_done _, fun _ _ => vital_done _⟩

theorem Providers.launches_freshPipes (definition : ServerDefinition) {root : Path}
    (h : ∀ directory, ∃ uri, Uri.ofPath directory root = .ok uri) :
    (freshPipes : Providers (Client E) (Job K)).Launches definition root where
  acquire := solo_done ⟨rfl, 0, rfl⟩
  start _ := solo_act fun _ hc => ⟨hc, _, rfl⟩
  uri := h

namespace House

variable {m : Nat} {given : String → Prop} {outside : K → Prog E K Unit} {c d : House given n E K}
  {past : List (Moment (Client E) (Job K))}

/-- While a crash below the threshold is dealt with nothing else is done to the server. Its handling
ends, if nobody has the lifecycle of the server. Without documents the server stays stopped. With
documents it gets a new link and a task to initialize it there, which ends too; and once the server
has answered to that task it is started and has the documents again. -/
theorem New.crash_recovered (hc : New net outside c) (hnet : net.Aloof) (hstill : net.Still)
    (hvital : net.Vital) (houtside : ∀ k, (outside k).Aloof)
    (w : Hall.Walk (rules given n net) c past d) (s : Fin n)
    (hruns : (d.world.server s).status = .starting ∨ (d.world.server s).status = .started)
    (hbelow : (d.world.server s).crashes + 1 < d.world.crashThreshold)
    (hlaunches : net.Launches (d.world.server s).definition (d.world.server s).root)
    (e : ClientError) (t : TaskId) :
    let crash : Task (Client E) (Job K) Unit :=
      ⟨t, Server.crashed net ⟨s, (d.world.server s).generation⟩ e, [], false⟩
    ((d.world.server s).lifecycle.owner ≠ .taken → d.runtime.Lively Client.gistView.Same crash) ∧
    ∀ (m : Nat) (rt₁ : Runtime (Client E) (Job K)),
      Ran Client.gistView.Same m d.runtime crash rt₁ () →
      ((∀ uri, ¬ (d.world.server s).Has uri) →
        (rt₁.world.server s).status = .stopped ∧ (rt₁.world.server s).connected = [] ∧
          (rt₁.world.server s).queue = []) ∧
      ((∃ uri, (d.world.server s).Has uri) → ∃ (k : Connection) (params : Json),
        let greeting : Task (Client E) (Job K) Unit := ⟨k.handshake, Server.handshake
          ⟨s, (rt₁.world.server s).generation⟩ k.link params, [], false⟩
        (rt₁.world.server s).connection = some k ∧
        k.link = d.world.wiring.links.entries.length ∧ greeting ∈ rt₁.tasks ∧
        ∀ rt₂ : Runtime (Client E) (Job K), Client.gistView.Same rt₁.world rt₂.world →
          rt₂.Lively Client.gistView.Same greeting ∧
          ∀ (m' : Nat) (rt₃ : Runtime (Client E) (Job K)),
            Ran Client.gistView.Same m' rt₂ greeting rt₃ () →
            ∃ later, rt₃.world.wiring.said k.link = rt₂.world.wiring.said k.link ++ later ∧
              (later.any Link.Event.isWelcome = true →
                Client.Reopened s k.link d.world rt₃.world)) := by
  obtain ⟨x, hleads, hkept⟩ := hc.reaches hnet houtside w 0
  have hx : x.Sane := hleads.sane hc.sane
  have hdistinct : x.affairs.Distinct := hleads.distinct hc.sane hc.distinct
  have hlength : s < x.world.ledger.servers.length := by
    have heq : x.world.ledger.servers.length = n :=
      (hleads.length_eq hc.sane).trans hc.length_ledger
    exact Nat.lt_of_lt_of_eq s.isLt heq.symm
  have hmem := Scene.mem_documents hx s
  have hrt : d.runtime.world = x.world := hkept.world_eq.symm
  rw [← hkept.world_eq] at hruns hbelow hlaunches ⊢
  refine ⟨fun hfree => ?_, fun m rt₁ hcrashed => ?_⟩
  · refine (Server.vital_crashed hvital ⟨s, _⟩ e).lively ?_
    rw [hrt]
    exact Client.unheld_iff.2 hfree
  obtain ⟨hrecovered, hunheld⟩ := Scene.recovered hx hdistinct hstill hkept.perform_eq hlength
    hruns hbelow hlaunches hrt hcrashed
  have hserver : rt₁.world.gist.server s = (rt₁.world.server s).plain := rt₁.world.server_gist s
  refine ⟨fun hnone => ?_, fun ⟨uri, huri⟩ => ?_⟩
  · have hempty : x.world.gist.documents s = [] := by
      rw [← x.world.documents_gist, ← List.map_eq_nil_iff, List.eq_nil_iff_forall_not_mem]
      exact fun uri huri => hnone uri ((hmem uri).1 huri)
    have hidle := hrecovered.idle hempty
    rwa [hserver] at hidle
  · have hnonempty : x.world.gist.documents s ≠ [] := by
      rintro hempty
      rw [← hmem, x.world.documents_gist, hempty] at huri
      exact nomatch huri
    obtain ⟨k, hk⟩ := hrecovered.relaunched hnonempty
    have hconnection := hk.connection
    obtain ⟨params, hgreets⟩ := hk.greets
    rw [hserver] at hconnection hgreets
    refine ⟨k, params, hconnection, hk.link.trans x.world.links_gist, hgreets, fun rt₂ hsame => ?_⟩
    refine ⟨(Server.vital_handshake _ k.link params).lively ?_, fun m' rt₃ hran => ?_⟩
    · have hgist : Client.gistView.see rt₂.world = rt₁.world.gist := hsame
      rw [hgist]
      exact hunheld
    · exact hk.reopened (Scene.nodup_documents hx hdistinct s) hmem
        (Scene.unopened hx (Nat.le_of_eq hk.link.symm)) hsame hran

/-! ## A server that breaks while a document is open -/

/-- One server, which gets new pipes whenever it starts, and a buffer. -/
def workshop : House (fun _ => True) 1 Unit Unit where
  runtime :=
    { world :=
        { Client.new () with
          editor := { Editor.new with buffers := ⟨[Buffer.new ['o', 'n', 'e']]⟩ }
          servers := ⟨[Server.new ⟨[], [], .rawCommand [], none⟩ ['/']]⟩ }
      tasks := []
      nextId := 1
      perform := Job.perform .freshPipes fun _ => .done () }
  calls := []

abbrev workshopRules :
    Hall.Rules (Client Unit) (Job Unit) fun _ : Demand (fun _ => True) 1 => Unit :=
  rules (fun _ => True) 1 .freshPipes

theorem new_workshop : New Providers.freshPipes (fun _ => .done ()) workshop where
  length_eq := rfl
  servers _ hx := ⟨_, _, List.mem_singleton.1 hx⟩
  sessions := rfl
  index := rfl
  links := rfl
  transcript := rfl
  tasks := rfl
  calls := rfl
  perform_eq := rfl

/-- A document is connected to the server, which is started for it and answers to `initialize`. After
that the server goes away. -/
def drafting : List (Hall.Cue (Client Unit) (Demand (fun _ => True) 1)) :=
  [.begins (.connect ⟨0, Nat.zero_lt_one⟩ ⟨"file:///a", ['/', 'a'], ['/'], 0⟩ trivial), .call 0,
    .task 1,
    .changes (Client.heard "\x7b\"id\":1,\"result\":\x7b\"capabilities\":\x7b\x7d\x7d\x7d"),
    .task 1, .task 1, .changes Client.deserted, .task 0]

theorem allowed_drafting : ∀ cue ∈ drafting, cue.Allowed workshopRules := by
  simp [drafting, Hall.Cue.Allowed, rules, Client.beside_heard, Client.beside_deserted]

theorem New.crash_recovered_draft : ∃ past d m rt₁ k params m' rt₂,
    Hall.Walk workshopRules workshop past d ∧ (d.world.server 0).status = .started ∧
      (d.world.server 0).crashes + 1 < d.world.crashThreshold ∧
      (d.world.server 0).Has "file:///a" ∧
      d.runtime.Lively Client.gistView.Same
        ⟨50, Server.crashed .freshPipes ⟨0, (d.world.server 0).generation⟩ .timeout, [], false⟩ ∧
      Ran Client.gistView.Same m d.runtime
        ⟨50, Server.crashed .freshPipes ⟨0, (d.world.server 0).generation⟩ .timeout, [], false⟩
        rt₁ () ∧
      (rt₁.world.server 0).connection = some k ∧
      ⟨k.handshake, Server.handshake ⟨0, (rt₁.world.server 0).generation⟩ k.link params, [], false⟩ ∈
        rt₁.tasks ∧
      Ran Client.gistView.Same m' rt₁ ⟨k.handshake, Server.handshake
        ⟨0, (rt₁.world.server 0).generation⟩ k.link params, [], false⟩ rt₂ () ∧
      Client.Reopened 0 k.link d.world rt₂.world := by
  let answered : Client Unit → Client Unit := HasWiring.modify
    (·.complete 1 1 (.ok (Json.object [("capabilities", Json.object [])])))
  have hanswered : ∀ f ∈ [answered], ∀ c, Client.gistView.Same c (f c) :=
    List.forall_mem_singleton.2 fun c => c.gist_modifyWiring (c.wiring.quiet_complete 1 1 _)
  let crash (d : House (fun _ => True) 1 Unit Unit) : Task (Client Unit) (Job Unit) Unit :=
    ⟨50, Server.crashed .freshPipes ⟨0, (d.world.server 0).generation⟩ .timeout, [], false⟩
  let welcomed (rt : Runtime (Client Unit) (Job Unit)) (k : Connection) : Bool :=
    (rt.world.wiring.said k.link).any Link.Event.isWelcome
  let greeted (rt₁ : Runtime (Client Unit) (Job Unit)) (k : Connection) : Bool :=
    !welcomed rt₁ k && (rt₁.tasks.filter (·.id == k.handshake)).all fun greeting =>
      (rt₁.attend [answered] Hall.patience greeting).any fun r => welcomed r.1 k
  obtain ⟨past, d, w, hd⟩ := Hall.exists_walk_of_play (d := workshop)
    (P := fun _ d => (d.world.server 0).status = .started ∧
      (d.world.server 0).crashes + 1 < d.world.crashThreshold ∧
      (d.world.server 0).isConnectedTo "file:///a" ∧
      (d.world.server 0).lifecycle.owner ≠ .taken ∧ (d.world.server 0).root = ['/'] ∧
      ((d.runtime.attend [] Hall.patience (crash d)).any fun r =>
        (r.1.world.server 0).connection.any (greeted r.1)) = true)
    allowed_drafting (by decide +kernel)
  obtain ⟨hstatus, hbelow, hconnected, hfree, hroot, hcrash⟩ := of_decide_eq_true hd
  obtain ⟨⟨rt₁, _⟩, hcrash, hrelaunched⟩ := (Option.any_eq_true _ _).1 hcrash
  obtain ⟨k, hk, hgreeted⟩ := (Option.any_eq_true _ _).1 hrelaunched
  obtain ⟨m, hcrashed⟩ : ∃ m, Ran Client.gistView.Same m d.runtime (crash d) rt₁ () :=
    Runtime.ran_of_attend (List.forall_mem_nil _) hcrash
  have hlaunches : (Providers.freshPipes (E := Unit) (K := Unit)).Launches
      (d.world.server 0).definition (d.world.server 0).root :=
    Providers.launches_freshPipes _ fun _ => ⟨_, by rw [hroot]; rfl⟩
  obtain ⟨hlively, hall⟩ := new_workshop.crash_recovered Providers.aloof_freshPipes
    Providers.still_freshPipes Providers.vital_freshPipes (fun _ => .done ()) w 0 (.inr hstatus)
    hbelow hlaunches .timeout 50
  obtain ⟨k', params, hk', -, hmem, hthen⟩ := (hall m rt₁ hcrashed).2 ⟨_, .inl hconnected⟩
  obtain rfl : k = k' := Option.some.inj (hk.symm.trans hk')
  -- Only the task of the connection is asked to answer, whatever it was started with.
  obtain ⟨hnot, hgreeted⟩ := Bool.and_eq_true_iff.1 hgreeted
  have hgreeting := List.all_eq_true.1 hgreeted _ (List.mem_filter.2 ⟨hmem, beq_self_eq_true _⟩)
  obtain ⟨⟨rt₂, _⟩, hgreet, hwelcome⟩ := (Option.any_eq_true _ _).1 hgreeting
  obtain ⟨m', hran⟩ := Runtime.ran_of_attend hanswered hgreet
  obtain ⟨later, hsaid, hreopened⟩ := (hthen rt₁ rfl).2 m' rt₂ hran
  refine ⟨past, d, m, rt₁, k, params, m', rt₂, w, hstatus, hbelow, .inl hconnected, hlively hfree,
    hcrashed, hk, hmem, hran, hreopened ?_⟩
  have hwelcomed : (rt₂.world.wiring.said k.link).any Link.Event.isWelcome = true := hwelcome
  rw [hsaid, List.any_append, Bool.or_eq_true] at hwelcomed
  refine hwelcomed.resolve_left fun h => ?_
  rw [Bool.not_eq_true'] at hnot
  exact nomatch hnot.symm.trans h

end House

end LanguageClient
