import LanguageClient.Proofs.Server.Opening
namespace LanguageClient

/-!
# Recovery

What the handling of a crash makes of a server when nothing else is done to it meanwhile.
-/

open Program

variable {E K : Type} {t : TaskId} {g : Gist} {s : ServerId}

/-! ## A server that was stopped -/

namespace Server

variable (x : Server)

@[simp] theorem connected_halted : x.halted.connected = [] := connected_endStop _

@[simp] theorem connection_halted : x.halted.connection = none := connection_endStop _

@[simp] theorem access_halted : x.halted.access = none := access_endStop _

@[simp] theorem queue_halted : x.halted.queue = [] := by
  obtain ⟨_, _, _, _, h⟩ := x.takeSessions.1.beginStop.1.exists_endStop
  rw [halted, h]
  rfl

@[simp] theorem crashes_halted : x.halted.crashes = x.crashes := crashes_endStop _

theorem status_halted (h : x.status ≠ .failed) : x.halted.status = .stopped :=
  (status_endStop _).trans (if_neg h)

theorem status_halted_of_failed (h : x.status = .failed) : x.halted.status = .failed :=
  (status_endStop _).trans (if_pos h)

end Server

/-- The documents of a server, connected and waiting. -/
def Gist.documents (g : Gist) (s : ServerId) : List OpenDocument :=
  ((g.server s).connected.map fun e =>
    let x := g.session e.2
    ⟨x.uri, x.path, (g.server s).root, x.buffer⟩) ++
  (g.server s).queue.filter fun d => !(g.server s).isConnectedTo d.uri

theorem Client.documents_gist (c : Client E) (s : ServerId) :
    Server.documents s c = c.gist.documents s := by
  simp only [Server.documents, Gist.documents, c.server_gist, c.session_gist]
  rfl

/-- A server that has crashed once more, while its lifecycle is taken. -/
def Gist.onceMore (s : ServerId) (g : Gist) : Server :=
  { g.server s with lifecycle := ⟨.taken, []⟩, crashes := (g.server s).crashes + 1 }

/-- The gist once the crash is counted. -/
def Gist.counted (s : ServerId) (g : Gist) : Gist := g.put s (g.onceMore s)

open LanguageClient.Runtime (Greets)

/-- The server is starting again over a new link, where it is being initialized, and the documents
`ds` wait for it. -/
structure Relaunched (s : ServerId) (ds : List OpenDocument) (g : Gist) (k : Connection)
    (rt : Runtime (Client E) (Job K)) : Prop where
  connection : (rt.world.gist.server s).connection = some k
  greets : rt.Greets ⟨s, (rt.world.gist.server s).generation⟩ k
  link : k.link = g.links
  lt : s < rt.world.gist.ledger.servers.length
  status : (rt.world.gist.server s).status = .starting
  connected : (rt.world.gist.server s).connected = []
  queue : (rt.world.gist.server s).queue = ds
  text : rt.world.gist.text = g.text
  said : ∀ l, g.links ≤ l → rt.world.gist.said l = g.said l

/-- How the handling of a crash ends: without documents the server stays stopped, and otherwise it is
relaunched. -/
structure Recovered (s : ServerId) (ds : List OpenDocument) (g : Gist)
    (rt : Runtime (Client E) (Job K)) : Prop where
  idle : ds = [] → (rt.world.gist.server s).status = .stopped ∧
    (rt.world.gist.server s).connected = [] ∧ (rt.world.gist.server s).queue = []
  relaunched : ds ≠ [] → ∃ k, Relaunched s ds g k rt

section

variable {ds : List OpenDocument} {rt : Runtime (Client E) (Job K)}

/-- The lifecycle is given back in the end. -/
theorem Recovered.returned (h : Recovered s ds g rt) (hs : s < rt.world.gist.ledger.servers.length) :
    Recovered s ds g { rt with world := (Client.lifecycleLock s).release rt.world } := by
  have hgist : ((Client.lifecycleLock s).release rt.world).gist = rt.world.gist.returned s :=
    rt.world.gist_releaseLifecycle s
  have hx : ((Client.lifecycleLock s).release rt.world).gist.server s =
      { rt.world.gist.server s with lifecycle := Lock.free } := by
    rw [hgist, Gist.server_returned hs]
  constructor
  · intro hds
    rw [hx]
    exact h.idle hds
  · intro hds
    obtain ⟨k, hk⟩ := h.relaunched hds
    exact ⟨k, {
      connection := by rw [hx]; exact hk.connection
      greets := by rw [hx]; exact hk.greets
      link := hk.link
      lt := by rw [hgist, Gist.returned, Gist.length_putLifecycle]; exact hs
      status := by rw [hx]; exact hk.status
      connected := by rw [hx]; exact hk.connected
      queue := by rw [hx]; exact hk.queue
      text := by rw [hgist]; exact hk.text
      said := fun l hl => by rw [hgist]; exact hk.said l hl }⟩

end

namespace Server

variable {net : Providers (Client E) (Job K)} {rt : Runtime (Client E) (Job K)}

/-- Documents that a starting server has not seen wait from now on. -/
theorem brings_connectAll {ds : List OpenDocument} (hs : s < rt.world.gist.ledger.servers.length)
    (hstatus : (rt.world.gist.server s).status = .starting)
    (hconnected : (rt.world.gist.server s).connected = [])
    (hqueue : (rt.world.gist.server s).queue = []) (hnodup : (ds.map (·.uri)).Nodup) :
    (Program.each (connectStarted s) ds : Prog E K Unit).Brings Client.gistView.Same t rt
      fun _ rt' => rt'.world.gist = rt.world.gist.put s { rt.world.gist.server s with queue := ds } ∧
        rt'.tasks = rt.tasks := by
  let P (left : List OpenDocument) (rt' : Runtime (Client E) (Job K)) : Prop :=
    ∃ done, done ++ left = ds ∧ rt'.tasks = rt.tasks ∧
      rt'.world.gist = rt.world.gist.put s { rt.world.gist.server s with queue := done }
  have hstart : P ds rt := ⟨[], rfl, rfl, by rw [← hqueue, Gist.put_server]⟩
  refine (brings_each (P := P) ?_ ds hstart).mono ?_
  · rintro d left rt' ⟨done, hds, htasks, hgist⟩
    have hx : rt'.world.gist.server s = { rt.world.gist.server s with queue := done } := by
      rw [hgist, Gist.server_put_same hs]
    have hfresh : d.uri ∉ done.map (·.uri) := by
      rw [← hds, List.map_append, List.map_cons] at hnodup
      exact fun hd => (List.nodup_append.1 hnodup).2.2 _ hd _ List.mem_cons_self rfl
    refine (brings_connectStarted hx hstatus ?_ ?_).mono ?_
    · simp [isConnectedTo, hconnected]
    · exact isPending_eq_false.2 hfresh
    · rintro _ rt'' ⟨hgist', htasks'⟩
      refine ⟨done ++ [d], ?_, htasks'.trans htasks, ?_⟩
      · rw [List.append_assoc]
        exact hds
      · rw [hgist', hgist, Gist.put_put]
  · rintro _ rt' ⟨done, hds, htasks, hgist⟩
    rw [List.append_nil] at hds
    exact ⟨hds ▸ hgist, htasks⟩

/-- A crash of the generation that runs is counted, and `p` or `q` is done about it. -/
theorem brings_counted {γ : Nat} {p q : Prog E K Unit} {Q : Runtime (Client E) (Job K) → Prop}
    (hs : s < rt.world.gist.ledger.servers.length)
    (hγ : (rt.world.gist.server s).generation = γ)
    (hbelow : (rt.world.gist.server s).crashes + 1 < rt.world.crashThreshold →
      ∀ rt₁ : Runtime (Client E) (Job K), rt₁.world.gist = rt.world.gist.counted s →
        rt₁.perform = rt.perform → p.Brings Client.gistView.Same t rt₁ fun _ rt' =>
          Q { rt' with world := (Client.lifecycleLock s).release rt'.world })
    (hlimit : ¬ (rt.world.gist.server s).crashes + 1 < rt.world.crashThreshold →
      ∀ rt₁ : Runtime (Client E) (Job K), rt₁.world.gist = rt.world.gist.counted s →
        q.Brings Client.gistView.Same t rt₁ fun _ rt' =>
          Q { rt' with world := (Client.lifecycleLock s).release rt'.world }) :
    (Program.locked (Client.lifecycleLock s) do
      if ← Program.read fun c => (c.server s).generation != γ then return ()
      let count ← Program.act (Client.visitServer s countCrash)
      if count < (← Program.read (·.crashThreshold)) then p else q).Brings
        Client.gistView.Same t rt fun _ => Q := by
  let x : Server := { rt.world.gist.server s with lifecycle := ⟨.taken, []⟩ }
  have hx : (rt.world.gist.taken s).server s = x := Gist.server_put_same hs
  refine Prog.brings_lifecycle fun rt₁ hgist hperform => Brings.bind (brings_read ?_)
  have hplain : (rt₁.world.server s).plain = x := by rw [← rt₁.world.server_gist, hgist, hx]
  have hcurrent : ((rt₁.world.server s).generation != γ) = false := by
    rw [← (rt₁.world.server s).generation_plain, hplain]
    simpa [x] using hγ
  rw [hcurrent]
  refine Brings.bind (brings_act ?_)
  have hcounted : (rt₁.world.visitServer s countCrash).1.gist = rt.world.gist.counted s := by
    refine (rt₁.world.gist_visitServer_of_commutes s (f := countCrash) fun _ => rfl).trans ?_
    rw [hgist, hx, Gist.taken, Gist.putLifecycle, Gist.put_put]
    rfl
  have hcount : (rt₁.world.visitServer s countCrash).2 = (rt.world.gist.server s).crashes + 1 := by
    have hcrashes : (rt₁.world.server s).plain.crashes = (rt.world.gist.server s).crashes := by
      rw [hplain]
    exact congrArg (· + 1) hcrashes
  rw [hcount]
  refine Brings.bind (brings_read ?_)
  have hthreshold : (rt₁.world.visitServer s countCrash).1.crashThreshold =
        rt.world.crashThreshold := congrArg Gist.crashThreshold hcounted
  rw [hthreshold]
  split
  · rename_i h
    exact hbelow h _ hcounted hperform
  · rename_i h
    exact hlimit h _ hcounted

theorem gist_showCrash (e : ClientError) (c : Client E) : (showCrash s e c).gist = c.gist := by
  unfold showCrash
  dsimp only
  split
  · rfl
  · exact c.gist_updateServer_of_plain s rfl

variable (hnet : net.Still)

include hnet

/-- A server is stopped and, if it had documents, started again with them. -/
theorem brings_relaunch {outside : K → Prog E K Unit} (hperform : rt.perform = Job.perform net outside)
    {ds : List OpenDocument} (hs : s < rt.world.gist.ledger.servers.length)
    (hfailed : (rt.world.gist.server s).status ≠ .failed)
    (hN : rt.world.gist.Reached rt.world.gist.links)
    (hlink : ∀ k, (rt.world.gist.server s).connection = some k → k.link < rt.world.gist.links)
    (hnodup : (ds.map (·.uri)).Nodup)
    (hlaunches : net.Launches (rt.world.gist.server s).definition (rt.world.gist.server s).root) :
    (show Prog E K Unit from do
      stopHeld net s
      if ds.isEmpty then return ()
      startHeld net s
      Program.each (connectStarted s) ds).Brings Client.gistView.Same t rt
      fun _ rt' => s < rt'.world.gist.ledger.servers.length ∧ Recovered s ds rt.world.gist rt' := by
  let g : Gist := rt.world.gist
  let y : Server := (g.server s).halted
  have hstopped : y.status = .stopped := (g.server s).status_halted hfailed
  refine Brings.bind ((alone_stopHeld hnet hs hN hlink).brings.mono ?_)
  rintro _ rt₁ ⟨hbelow, hperform₁⟩
  have hbelow : (g.put s y).Below g.links rt₁.world.gist := hbelow
  have hy : rt₁.world.gist.server s = y := hbelow.server_put hs
  have hs₁ : s < rt₁.world.gist.ledger.servers.length := by
    rw [hbelow.servers]
    exact Nat.lt_of_lt_of_eq hs (Ledger.length_put ..).symm
  cases ds with
  | nil =>
      refine brings_done ⟨hs₁, fun _ => ?_, fun h => absurd rfl h⟩
      rw [hy]
      exact ⟨hstopped, (g.server s).connected_halted, (g.server s).queue_halted⟩
  | cons d ds =>
      have hlaunches₁ : net.Launches (rt₁.world.gist.server s).definition
          (rt₁.world.gist.server s).root := by
        rw [hy, definition_halted, root_halted]
        exact hlaunches
      refine Brings.bind ((brings_startHeld (hperform₁.trans hperform) hs₁
        (.inl (hy ▸ hstopped)) hlaunches₁).mono ?_)
      rintro _ rt₂ ⟨k, hk⟩
      rw [hy] at hk
      let z : Server := { y.beginStart.1 with connection := some k }
      have hgist₂ : rt₂.world.gist = (rt₁.world.gist.put s z).addLink := by
        refine hk.gist.trans ?_
        rw [Gist.server_put_same hs₁, Gist.put_put]
      have hz : rt₂.world.gist.server s = z := by
        rw [hgist₂]
        exact Gist.server_put_same hs₁
      have hs₂ : s < rt₂.world.gist.ledger.servers.length := by
        rw [hgist₂]
        exact Nat.lt_of_lt_of_eq hs₁ (Ledger.length_put ..).symm
      have hstatus : z.status = .starting := status_beginStart (.inl hstopped)
      have hconnected : z.connected = [] :=
        y.connected_beginStart.trans (g.server s).connected_halted
      have hqueue : z.queue = [] := y.queue_beginStart.trans (g.server s).queue_halted
      have hgeneration : z.generation = y.generation + 1 := generation_beginStart (.inl hstopped)
      refine (brings_connectAll hs₂ (hz ▸ hstatus) (hz ▸ hconnected) (hz ▸ hqueue) hnodup).mono ?_
      rintro _ rt₃ ⟨hgist₃, htasks⟩
      rw [hz] at hgist₃
      have hx : rt₃.world.gist.server s = { z with queue := d :: ds } := by
        rw [hgist₃, Gist.server_put_same hs₂]
      have hs₃ : s < rt₃.world.gist.ledger.servers.length := by
        rw [hgist₃]
        exact Nat.lt_of_lt_of_eq hs₂ (Ledger.length_put ..).symm
      refine ⟨hs₃, fun h => absurd h (List.cons_ne_nil d ds), fun _ => ⟨k, ?_⟩⟩
      exact {
        connection := by rw [hx]
        greets := by
          rw [hx, hgeneration, Greets, htasks]
          exact hk.greets
        link := hk.link.trans hbelow.links
        lt := hs₃
        status := by rw [hx]; exact hstatus
        connected := by rw [hx]; exact hconnected
        queue := by rw [hx]
        text := by rw [hgist₃, hgist₂]; exact hbelow.text
        said := fun l hl => by rw [hgist₃, hgist₂]; exact hbelow.said l hl }

theorem brings_crashed {outside : K → Prog E K Unit} (hperform : rt.perform = Job.perform net outside)
    {γ : Nat} {e : ClientError} (hs : s < rt.world.gist.ledger.servers.length)
    (hγ : (rt.world.gist.server s).generation = γ)
    (hruns : (rt.world.gist.server s).status = .starting ∨
      (rt.world.gist.server s).status = .started)
    (hbelow : (rt.world.gist.server s).crashes + 1 < rt.world.crashThreshold)
    (hN : rt.world.gist.Reached rt.world.gist.links)
    (hlink : ∀ k, (rt.world.gist.server s).connection = some k → k.link < rt.world.gist.links)
    (hnodup : ((rt.world.gist.documents s).map (·.uri)).Nodup)
    (hlaunches : net.Launches (rt.world.gist.server s).definition (rt.world.gist.server s).root) :
    (crashed net ⟨s, γ⟩ e).Brings Client.gistView.Same t rt fun _ rt' =>
      Recovered s (rt.world.gist.documents s) rt.world.gist rt' ∧ rt'.world.gist.Unheld s := by
  let g : Gist := rt.world.gist
  refine brings_counted (Q := fun rt' => Recovered s (g.documents s) g rt' ∧ rt'.world.gist.Unheld s)
    hs hγ (fun _ rt₁ hgist hperform₁ => ?_) (absurd hbelow)
  have hy : rt₁.world.gist.server s = g.onceMore s := by
    rw [hgist]
    exact Gist.server_put_same hs
  refine Brings.bind (brings_read ?_)
  have hdocuments : documents s rt₁.world = g.documents s := by
    rw [rt₁.world.documents_gist, Gist.documents, hy, hgist]
    rfl
  rw [hdocuments]
  have hs₁ : s < rt₁.world.gist.ledger.servers.length := by
    rw [hgist]
    exact Nat.lt_of_lt_of_eq hs (Ledger.length_put ..).symm
  have hreached : rt₁.world.gist.Reached rt₁.world.gist.links := by
    rw [hgist]
    exact hN.put (hN s)
  have hlinks : rt₁.world.gist.links = g.links := by rw [hgist]; rfl
  have hperform₁ : rt₁.perform = Job.perform net outside := hperform₁.trans hperform
  refine (brings_relaunch hnet hperform₁ hs₁ ?_ hreached ?_ hnodup ?_).mono ?_
  · rw [hy]
    rcases hruns with h | h <;> simp [Gist.onceMore, g, h]
  · rw [hy, hlinks]
    exact hlink
  · rw [hy]
    exact hlaunches
  · rintro _ rt' ⟨hs', hrecovered⟩
    have h : Recovered s (g.documents s) g rt' := by
      refine ⟨hrecovered.idle, fun hds => ?_⟩
      obtain ⟨k, hk⟩ := hrecovered.relaunched hds
      rw [hgist] at hk
      exact ⟨k, { hk with }⟩
    exact ⟨h.returned hs', rt'.world.unheld_release s⟩

/-- What a crash at the threshold makes of a server: a server that was stopped stays so. -/
structure Broken (x y : Server) : Prop where
  crashes : y.crashes = x.crashes + 1
  connected : y.connected = []
  queue : y.queue = []
  status : y.status = if x.status = .stopped then .stopped else .failed

omit hnet in
theorem broken_halted {x y z z' : Server} {lifecycle : Lock} (hcrashes : y.crashes = x.crashes + 1)
    (hstatus : y.status = x.status) (hz : z = (y.move .failed).halted)
    (hz' : z' = { z with lifecycle }) : x.Broken z' where
  crashes := by
    rw [hz', hz, crashes_halted, crashes_move, hcrashes]
  connected := by
    rw [hz', hz, connected_halted]
  queue := by
    rw [hz', hz, queue_halted]
  status := by
    rw [hz', hz, ← hstatus]
    split
    · rename_i h
      have hrefused : (y.move .failed).status = .stopped := by
        rw [move_of_not_canMove] <;> simp [h, ServerStatus.canMove]
      refine status_halted _ ?_
      rw [hrefused]
      decide
    · rename_i h
      exact status_halted_of_failed _ (status_move_failed h)

/-- The last that is done about it is to show it. -/
theorem brings_crashed_final {γ : Nat} {e : ClientError}
    (hs : s < rt.world.gist.ledger.servers.length)
    (hγ : (rt.world.gist.server s).generation = γ)
    (hlimit : rt.world.crashThreshold ≤ (rt.world.gist.server s).crashes + 1)
    {N : LinkId} (hN : rt.world.gist.Reached N)
    (hlink : ∀ k, (rt.world.gist.server s).connection = some k → k.link < N) :
    (crashed net ⟨s, γ⟩ e).Brings Client.gistView.Same t rt fun _ rt' =>
      (rt.world.gist.server s).Broken (rt'.world.gist.server s) ∧ ∃ c : Client E,
        s < c.gist.ledger.servers.length ∧
          rt'.world = (Client.lifecycleLock s).release (showCrash s e c) := by
  let g : Gist := rt.world.gist
  let y : Server := (g.onceMore s).move .failed
  refine brings_counted hs hγ (fun h => absurd hlimit (Nat.not_le_of_lt h)) fun _ rt₁ hgist => ?_
  have hlt : s < (g.put s y).ledger.servers.length := by rwa [Gist.put, Ledger.length_put]
  have hy : (g.put s y).server s = y := Gist.server_put_same hs
  refine Brings.bind (brings_modify ?_)
  have hfailed : (rt₁.world.updateServer s (·.move .failed)).gist = g.put s y := by
    refine (rt₁.world.gist_updateServer_of_commutes s (commutes_move .failed)).trans ?_
    rw [hgist, Gist.counted, Gist.server_put_same hs, Gist.put_put]
  have hreached : (g.put s y).Reached N := by
    refine hN.put fun a ha => hN s a ?_
    rwa [access_move] at ha
  have hstop : Prog.Alone t (stopHeld net s) (rt₁.world.updateServer s (·.move .failed)).gist
      fun _ g' => ((g.put s y).put s y.halted).Below N g' := by
    rw [hfailed]
    have hstop := alone_stopHeld (t := t) hnet hlt hreached fun k hk => ?_
    · rw [hy] at hstop
      exact hstop
    · rw [hy, connection_move] at hk
      exact hlink k hk
  refine Brings.bind (hstop.brings.mono ?_)
  rintro _ rt₂ ⟨hbelow, -⟩
  have hbelow : ((g.put s y).put s y.halted).Below N rt₂.world.gist := hbelow
  have hhalted : rt₂.world.gist.server s = y.halted := hbelow.server_put hlt
  have hlength : s < rt₂.world.gist.ledger.servers.length := by
    rw [hbelow.servers]
    exact Nat.lt_of_lt_of_eq hlt (Ledger.length_put ..).symm
  have hcrashes : (g.onceMore s).crashes = (g.server s).crashes + 1 := rfl
  have hstatus : (g.onceMore s).status = (g.server s).status := rfl
  refine brings_modify ⟨?_, rt₂.world, hlength, rfl⟩
  have hreleased : ((Client.lifecycleLock s).release (showCrash s e rt₂.world)).gist =
      rt₂.world.gist.returned s := by
    rw [Client.gist_releaseLifecycle, gist_showCrash]
  rw [hreleased]
  exact broken_halted hcrashes hstatus hhalted (Gist.server_returned hlength)

end Server

/-- There are only so many links through which servers are reached. -/
theorem Gist.exists_reached (g : Gist) : ∃ N, g.Reached N ∧
    ∀ s k, (g.server s).connection = some k → k.link < N := by
  have hall (servers : List Server) : ∃ N, ∀ x ∈ servers,
      (∀ a, x.access = some a → a.link < N) ∧ ∀ k, x.connection = some k → k.link < N := by
    induction servers with
    | nil => exact ⟨0, List.forall_mem_nil _⟩
    | cons x servers ih =>
      obtain ⟨N, ih⟩ := ih
      let here := max (x.access.elim 0 (·.link + 1)) (x.connection.elim 0 (·.link + 1))
      refine ⟨max N here, fun y hy => ?_⟩
      rcases List.mem_cons.1 hy with rfl | hy
      · refine ⟨fun a ha => ?_, fun k hk => ?_⟩
        · have hle : a.link + 1 ≤ here := by
            simp only [here, ha, Option.elim_some]
            exact Nat.le_max_left ..
          exact Nat.le_trans hle (Nat.le_max_right ..)
        · have hle : k.link + 1 ≤ here := by
            simp only [here, hk, Option.elim_some]
            exact Nat.le_max_right ..
          exact Nat.le_trans hle (Nat.le_max_right ..)
      · obtain ⟨haccess, hconnection⟩ := ih y hy
        exact ⟨fun a ha => Nat.lt_of_lt_of_le (haccess a ha) (Nat.le_max_left ..),
          fun k hk => Nat.lt_of_lt_of_le (hconnection k hk) (Nat.le_max_left ..)⟩
  obtain ⟨N, hN⟩ := hall g.ledger.servers
  have hserver (s : ServerId) :
      (∀ a, (g.server s).access = some a → a.link < N) ∧
        ∀ k, (g.server s).connection = some k → k.link < N := by
    rw [Gist.server, Ledger.server]
    cases hs : g.ledger.servers[s]? with
    | none =>
      refine ⟨?_, ?_⟩
      · rintro _ ⟨⟩
      · rintro _ ⟨⟩
    | some x => exact hN x (List.mem_of_getElem? hs)
  exact ⟨N, fun s => (hserver s).1, fun s => (hserver s).2⟩

end LanguageClient
