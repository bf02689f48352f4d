import LanguageClient.Proofs.Client.Deeds
import LanguageClient.Proofs.Server.Alone
import LanguageClient.Routing.Workspace
namespace LanguageClient

/-!
# Changes of a settings file

When a file changes on disk, every started server that keeps its settings there takes them from the
editor again and is told of them. One server is left out: where the file is an open document and
was changed, the server of the document hears of a save and keeps the settings that it has.
-/

variable {E K : Type} {t : TaskId}

open Program

/-! ## What is pushed -/

/-- The settings that an event tells. -/
def Link.Event.settings? : Link.Event → Option Json
  | .told method params =>
    if method = Feature.didChangeConfiguration.method then some params else none
  | _ => none

/-- The settings that were handed to links, oldest first. -/
def Wiring.pushes (w : Wiring) : List (LinkId × Json) :=
  w.transcript.filterMap fun e => e.2.settings?.map (e.1, ·)

/-- The started servers that hear of a change as of a watched file. -/
def Routing.hearers (c : Client E) (uri : String) (change : FileChange) : List ServerId :=
  (started c).filter fun s =>
    !decide (change = .changed ∧ (c.index.find? uri).map (·.server) = some s)

/-! ## What is seen of a client -/

/-- The server without what has nothing to do with its settings. -/
def Server.bare (x : Server) : Server :=
  { x with
    moves := []
    refused := []
    crashes := 0
    failureShown := false
    crashShown := false
    lifecycle := Lock.free
    connection := none
    registrations := RegistrationTable.empty
    connected := []
    queue := []
    watchers := [] }

/-- What a client knows of the settings of its servers, and what it has pushed. -/
structure Upkeep where
  server : ServerId → Server
  /-- The servers in use. -/
  listed : List ServerId
  /-- The settings that the editor has for the server of a project with an id. -/
  stored : Path → String → ServerSettings
  /-- The file that they are kept in. -/
  file : Path → String → Option Path
  pushes : List (LinkId × Json)

namespace Upkeep

variable (g : Upkeep)

/-- The settings that the editor has for the server. -/
def storedFor (s : ServerId) : ServerSettings := g.stored (g.server s).root (g.server s).id

/-- The settings of the server are in the file. -/
def keepsAt (uri : String) (s : ServerId) : Bool :=
  ((Uri.toPath? uri.toList).bind fun p =>
    (g.file (g.server s).root (g.server s).id).map (Path.same p)).getD false

/-- The status of the server, as the access sees it. -/
def status (a : Access) : ServerStatus :=
  if (g.server a.server).generation = a.generation then (g.server a.server).status else .stopped

/-- What a server is told of the settings that the editor has for it: nothing where they are empty
or the connection does not reach the server. -/
def notice? (s : ServerId) : Option (LinkId × Json) :=
  (g.server s).access.bind fun a =>
    let settings := (g.storedFor s).toJson
    if g.status a = .started ∧ settings.isNull = false then
      some (a.link, Json.object [("settings", settings)])
    else none

/-- The server after it took its settings from the editor. -/
def loaded (s : ServerId) : Server :=
  { g.server s with settings := g.storedFor s }

def load (s : ServerId) : Upkeep :=
  { g with server := fun r => if r = s then g.loaded s else g.server r }

def push (sent : Option (LinkId × Json)) : Upkeep := { g with pushes := g.pushes ++ sent.toList }

theorem push_none : g.push none = g :=
  congrArg (fun pushes => { g with pushes }) (List.append_nil g.pushes)

/-- What a change of a file makes of one server that hears of it. -/
def attend (uri : String) (s : ServerId) : Upkeep :=
  if g.keepsAt uri s then (g.load s).push (g.notice? s) else g

/-- The same but for the settings of servers and for what is pushed. -/
structure Like (g' : Upkeep) : Prop where
  server : ∀ r, ∃ settings, g'.server r = { g.server r with settings }
  listed : g'.listed = g.listed
  stored : g'.stored = g.stored
  file : g'.file = g.file

variable {g} {g' : Upkeep}

theorem attend_of_keepsAt {uri : String} {s : ServerId} (h : g.keepsAt uri s = true) :
    g.attend uri s = (g.load s).push (g.notice? s) :=
  if_pos h

theorem attend_of_not_keepsAt {uri : String} {s : ServerId} (h : g.keepsAt uri s = false) :
    g.attend uri s = g := by
  rw [attend, h]
  rfl

namespace Like

theorem refl (g : Upkeep) : g.Like g := ⟨fun r => ⟨(g.server r).settings, rfl⟩, rfl, rfl, rfl⟩

theorem status_eq (h : g.Like g') (r : ServerId) : (g'.server r).status = (g.server r).status := by
  obtain ⟨settings, heq⟩ := h.server r
  rw [heq]

theorem storedFor_eq (h : g.Like g') (r : ServerId) : g'.storedFor r = g.storedFor r := by
  obtain ⟨settings, heq⟩ := h.server r
  rw [storedFor, storedFor, h.stored, heq]
  rfl

theorem access_eq (h : g.Like g') (r : ServerId) : (g'.server r).access = (g.server r).access := by
  obtain ⟨settings, heq⟩ := h.server r
  rw [heq]

theorem reach_eq (h : g.Like g') (a : Access) : g'.status a = g.status a := by
  obtain ⟨settings, heq⟩ := h.server a.server
  rw [status, status, heq]

theorem keepsAt_eq (h : g.Like g') (uri : String) : g'.keepsAt uri = g.keepsAt uri := by
  funext s
  obtain ⟨settings, heq⟩ := h.server s
  rw [keepsAt, keepsAt, h.file, heq]
  rfl

theorem notice?_eq (h : g.Like g') : g'.notice? = g.notice? := by
  funext s
  simp only [notice?, h.access_eq, h.storedFor_eq, h.reach_eq]

theorem loaded_eq (h : g.Like g') (s : ServerId) : g'.loaded s = g.loaded s := by
  obtain ⟨settings, heq⟩ := h.server s
  rw [loaded, loaded, h.storedFor_eq, heq]

end Like

theorem like_load (g : Upkeep) (s : ServerId) : g.Like (g.load s) := by
  refine ⟨fun r => ?_, rfl, rfl, rfl⟩
  by_cases hr : r = s
  · subst hr
    exact ⟨g.storedFor r, if_pos rfl⟩
  · exact ⟨(g.server r).settings, if_neg hr⟩

theorem like_attend (g : Upkeep) (uri : String) (s : ServerId) : g.Like (g.attend uri s) := by
  rw [attend]
  split
  · obtain ⟨hserver, hlisted, hstored, hfile⟩ := g.like_load s
    exact ⟨hserver, hlisted, hstored, hfile⟩
  · exact .refl g

/-- The servers that keep their settings in the file take them again, and are told of them one after
the other. -/
theorem foldl_attend (g : Upkeep) (uri : String) (servers : List ServerId) :
    (∀ r, (servers.foldl (attend · uri ·) g).server r =
      if r ∈ servers.filter (g.keepsAt uri) then g.loaded r else g.server r) ∧
    (servers.foldl (attend · uri ·) g).pushes =
      g.pushes ++ (servers.filter (g.keepsAt uri)).filterMap g.notice? := by
  induction servers generalizing g with
  | nil => exact ⟨fun _ => rfl, (List.append_nil _).symm⟩
  | cons s servers ih =>
    have hlike := g.like_attend uri s
    obtain ⟨hserver, hpushes⟩ := ih (g.attend uri s)
    rw [hlike.keepsAt_eq, hlike.notice?_eq] at hpushes
    rw [hlike.keepsAt_eq] at hserver
    rw [List.foldl_cons, List.filter_cons]
    cases hkeeps : g.keepsAt uri s with
    | false =>
      rw [attend_of_not_keepsAt hkeeps] at hserver hpushes ⊢
      exact ⟨hserver, hpushes⟩
    | true =>
      have hattend := attend_of_keepsAt hkeeps
      constructor
      · intro r
        rw [hserver r, hlike.loaded_eq, if_pos rfl]
        by_cases hmem : r ∈ servers.filter (g.keepsAt uri)
        · rw [if_pos hmem, if_pos (List.mem_cons_of_mem s hmem)]
        · rw [if_neg hmem, hattend]
          by_cases hr : r = s
          · subst hr
            rw [if_pos List.mem_cons_self]
            exact if_pos rfl
          · rw [if_neg fun h => (List.mem_cons.1 h).elim hr hmem]
            exact if_neg hr
      · rw [hpushes, hattend, if_pos rfl, List.filterMap_cons]
        cases hnotice : g.notice? s with
        | none => exact congrArg (· ++ _) (List.append_nil g.pushes)
        | some sent => exact List.append_assoc g.pushes [sent] _

end Upkeep

namespace Client

def upkeep (c : Client E) : Upkeep :=
  { server := fun s => (c.server s).bare
    listed := c.routes.servers
    stored := c.editor.settingsOf
    file := c.editor.settingsPath
    pushes := c.wiring.pushes }

/-- The upkeep is what solo runs are seen by. -/
def upkeepView : View (Client E) Upkeep := ⟨upkeep, fun _ _ => rfl⟩

theorem overlooks_upkeep : (upkeepView : View (Client E) Upkeep).Overlooks := by
  intro c w h
  have hpushes : w.pushes = c.wiring.pushes := by
    rw [Wiring.pushes, Wiring.pushes, h.transcript]
  exact congrArg (fun pushes => { c.upkeep with pushes }) hpushes

theorem upkeep_note (c : Client E) (l : LinkId) (e : Link.Event) :
    (HasWiring.modify (·.note l e) c).upkeep = c.upkeep.push (e.settings?.map (l, ·)) := by
  have hpushes : (c.wiring.note l e).pushes =
      c.wiring.pushes ++ (e.settings?.map (l, ·)).toList := by
    rw [Wiring.pushes, Wiring.note, List.filterMap_append]
    rfl
  exact congrArg (fun pushes => { c.upkeep with pushes }) hpushes

/-- A started server is there to be changed. -/
theorem isSome_of_started {c : Client E} {s : ServerId} (h : (c.server s).status = .started) :
    (c.servers.get? s).isSome := by
  cases hs : c.servers.get? s with
  | some x => rfl
  | none =>
    rw [server, Store.get, hs] at h
    cases h

theorem upkeep_loadSettings {c : Client E} {s : ServerId} (h : (c.server s).status = .started) :
    (Server.loadSettings s c).upkeep = c.upkeep.load s := by
  let load (x : Server) : Server := { x with settings := c.editor.settingsOf x.root x.id }
  have hservers : ∃ watchers, (Server.loadSettings s c).servers =
      c.servers.update s fun _ => { load (c.server s) with watchers } :=
    servers_visitServer s (fun x => (load x, ())) c
  have hserver : ∀ r, ((Server.loadSettings s c).server r).bare = (c.upkeep.load s).server r := by
    intro r
    obtain ⟨watchers, hservers⟩ := hservers
    rw [server, hservers]
    by_cases hr : r = s
    · subst hr
      rw [Store.get_update_of_isSome (isSome_of_started h)]
      exact (if_pos rfl).symm
    · rw [Store.get_update_ne _ _ (Ne.symm hr)]
      exact (if_neg hr).symm
  have hrest : (Server.loadSettings s c).upkeep =
      { c.upkeep with server := fun r => ((Server.loadSettings s c).server r).bare } := by
    unfold Server.loadSettings updateServer visitServer
    dsimp only
    split <;> rfl
  rw [hrest, funext hserver]
  rfl

end Client

/-! ## Running alone -/

variable {g : Upkeep}

namespace Access

variable {a : Access}

theorem status_upkeep (a : Access) (c : Client E) : c.upkeep.status a = a.status c := rfl

/-- Nothing is pushed but the settings. -/
theorem leaves_upkeep {f : Feature} (hf : f.isNotification = true)
    (hmethod : f.method ≠ Feature.didChangeConfiguration.method) (params : Json) :
    (a.tell f params : Prog E K Unit).Solo Client.upkeepView t g (fun _ g' => g' = g)
      fun _ => True := by
  refine solo_tell Client.overlooks_upkeep hf (fun c d _ _ hd => ?_) fun _ _ _ => rfl
  obtain rfl : d.upkeep = g := hd
  have hsilent : (Link.Event.told f.method params).settings? = none := if_neg hmethod
  have hnote := d.upkeep_note a.link (.told f.method params)
  rw [hsilent] at hnote
  exact hnote.trans d.upkeep.push_none

theorem pushes_settings (params : Json) :
    (a.tell .didChangeConfiguration params : Prog E K Unit).Solo Client.upkeepView t g
      (fun _ g' => g' = if g.status a = .started then g.push (some (a.link, params)) else g)
      fun _ => True := by
  have hadmits (c : Client E) :
      (a.gate (K := K)).admits .didChangeConfiguration params c = (a.status c == .started) :=
    Bool.and_true _
  refine solo_tell Client.overlooks_upkeep rfl (fun c d hc hpasses hd => ?_) fun c hc hpasses => ?_
  · obtain rfl : c.upkeep = g := hc
    rw [hadmits, beq_iff_eq] at hpasses
    rw [status_upkeep, if_pos hpasses, ← hd]
    exact d.upkeep_note a.link _
  · obtain rfl : c.upkeep = g := hc
    rw [hadmits, beq_eq_false_iff_ne] at hpasses
    rw [status_upkeep, if_neg hpasses]

end Access

namespace Session

theorem solo_tellSaved (x : SessionId) :
    (tellSaved x : Prog E K Unit).Solo Client.upkeepView t g (fun _ g' => g' = g)
      fun _ => True := by
  have hopen : Program.Still Client.upkeepView t (isOpenNow x : Prog E K Bool) :=
    (still_read _).locked fun _ _ => rfl
  refine Solo.bind (solo_modify fun c hc => ?_)
  obtain rfl : c.upkeep = g := hc
  refine Solo.bind (hopen.solo (fun isOpen => ?_) trivial)
  cases isOpen with
  | false => exact solo_done rfl
  | true =>
      refine Solo.bind (solo_read fun d _ => ?_)
      split
      · exact solo_done rfl
      · exact Solo.bind (solo_read fun _ _ => Access.leaves_upkeep rfl (by decide) _)

end Session

namespace Server

variable {s : ServerId}

theorem solo_pushSettings {a : Access} (ha : (g.server s).access = some a) :
    (pushSettings s a : Prog E K Unit).Solo Client.upkeepView t (g.load s)
      (fun _ g' => g' = (g.load s).push (g.notice? s)) fun _ => True := by
  refine Solo.bind (solo_read fun c hc => ?_)
  let settings := (g.storedFor s).toJson
  have hsettings : (c.server s).settings.toJson = settings := by
    have hserver : (c.server s).bare = g.loaded s := by
      have hserver : c.upkeep.server s = (g.load s).server s := congrArg (Upkeep.server · s) hc
      exact hserver.trans (if_pos rfl)
    exact congrArg (fun x : Server => x.settings.toJson) hserver
  have hnotice : g.notice? s =
      if g.status a = .started ∧ settings.isNull = false then
        some (a.link, Json.object [("settings", settings)])
      else none := by
    rw [Upkeep.notice?, ha]
    rfl
  rw [hsettings, hnotice]
  cases hnull : settings.isNull with
  | true =>
      have hsilent : ¬ (g.status a = .started ∧ true = false) := fun h => nomatch h.2
      rw [if_pos rfl, if_neg hsilent, Upkeep.push_none]
      exact solo_done rfl
  | false =>
      refine (Access.pushes_settings _).mono ?_ fun _ h => h
      rintro _ g' rfl
      rw [(g.like_load s).reach_eq]
      by_cases hstatus : g.status a = .started
      · rw [if_pos hstatus, if_pos ⟨hstatus, rfl⟩]
      · rw [if_neg hstatus, if_neg fun h => hstatus h.1, Upkeep.push_none]

theorem solo_fileChanged (uri : String) (change : FileChange)
    (hs : (g.server s).status = .started) :
    (fileChanged s uri change : Prog E K Unit).Solo Client.upkeepView t g
      (fun _ g' => g' = g.attend uri s) fun _ => True := by
  -- The connection is told of the change if the read says so, after the settings were or at once.
  have hforward {g' : Upkeep} (forwards : Client E → Bool) {tell : Prog E K Unit}
      (htell : tell.Solo Client.upkeepView t g' (fun _ g'' => g'' = g') fun _ => True) :
      Solo Client.upkeepView t
        (Program.read forwards >>= fun forward => if forward then tell else pure ()) g'
        (fun _ g'' => g'' = g') fun _ => True := by
    refine Solo.bind ((still_read _).solo (fun forward => ?_) trivial)
    cases forward with
    | false => exact solo_done rfl
    | true => exact htell
  refine Solo.bind (solo_read fun c hc => Solo.bind (solo_read fun d hd => ?_))
  have haccess : (c.server s).access = (g.server s).access :=
    congrArg (fun g : Upkeep => (g.server s).access) hc
  have hkeeps : ((Uri.toPath? uri.toList).bind fun p =>
      (d.editor.settingsPath (c.server s).root (c.server s).id).map (Path.same p)).getD false =
        g.keepsAt uri s := by
    have hfile : d.editor.settingsPath = g.file := congrArg Upkeep.file hd
    have hroot : (c.server s).root = (g.server s).root :=
      congrArg (fun g : Upkeep => (g.server s).root) hc
    have hid : (c.server s).id = (g.server s).id :=
      congrArg (fun g : Upkeep => (g.server s).id) hc
    rw [Upkeep.keepsAt, hfile, hroot, hid]
  have hload (e : Client E) (he : Client.upkeepView.see e = g) :
      Client.upkeepView.see (loadSettings s e) = g.load s := by
    obtain rfl : e.upkeep = g := he
    exact Client.upkeep_loadSettings hs
  rw [hkeeps, haccess]
  cases ha : (g.server s).access with
  | none =>
      have hnotice : g.notice? s = none := by
        rw [Upkeep.notice?, ha]
        rfl
      rw [Upkeep.attend, hnotice, Upkeep.push_none]
      cases g.keepsAt uri s with
      | false => exact hforward _ (solo_done rfl)
      | true =>
          refine Solo.bind (solo_modify fun e he => ?_)
          rw [hload e he]
          exact hforward _ (solo_done rfl)
  | some a =>
      have htell {g' : Upkeep} := Access.leaves_upkeep (E := E) (K := K) (t := t) (a := a) (g := g')
        (f := .didChangeWatchedFiles) rfl (by decide) (Params.watchedFile uri change)
      rw [Upkeep.attend]
      cases g.keepsAt uri s with
      | false => exact hforward _ htell
      | true =>
          refine Solo.bind (solo_modify fun e he => ?_)
          rw [hload e he]
          refine Solo.bind ((solo_pushSettings ha).mono ?_ fun _ h => h)
          rintro _ g' rfl
          exact hforward _ htell

end Server

namespace Routing

theorem solo_each_fileChanged (uri : String) (change : FileChange) {servers : List ServerId}
    (h : ∀ s ∈ servers, (g.server s).status = .started) :
    (Program.each (fun s => Server.fileChanged s uri change) servers : Prog E K Unit).Solo
      Client.upkeepView t g (fun _ g' => g' = servers.foldl (·.attend uri ·) g) fun _ => True := by
  let P (left : List ServerId) (g' : Upkeep) : Prop :=
    (∀ s ∈ left, (g'.server s).status = .started) ∧
      left.foldl (·.attend uri ·) g' = servers.foldl (·.attend uri ·) g
  refine (solo_each (P := P) ?_ servers ⟨h, rfl⟩).mono (fun _ _ hdone => hdone.2) fun _ h => h
  rintro s left g' ⟨hstarted, hleft⟩
  refine (Server.solo_fileChanged uri change (hstarted s List.mem_cons_self)).mono ?_ fun _ h => h
  rintro _ g'' rfl
  refine ⟨fun r hr => ?_, hleft⟩
  rw [(g'.like_attend uri s).status_eq]
  exact hstarted r (List.mem_cons_of_mem s hr)

theorem started_eq {c d : Client E} (h : c.upkeep = d.upkeep) : started c = started d := by
  have hlisted : c.routes.servers = d.routes.servers := congrArg Upkeep.listed h
  have hstatus (s : ServerId) : (c.server s).status = (d.server s).status :=
    congrArg (fun g : Upkeep => (g.server s).status) h
  simp only [started, hlisted, hstatus]

theorem status_of_mem_hearers {c : Client E} {uri : String} {change : FileChange} {s : ServerId}
    (h : s ∈ hearers c uri change) : (c.server s).status = .started :=
  beq_iff_eq.1 (List.mem_filter.1 (List.mem_filter.1 h).1).2

/-- The servers that hear of the change attend to it one after the other, and nobody else does. -/
theorem upkeep_fileChanged {n : Nat} {rt rt' : Runtime (Client E) (Job K)} {aborted : Bool}
    {uri : String} {change : FileChange}
    (h : Runtime.Ran Client.upkeepView.Same n rt ⟨t, fileChanged uri change, [], aborted⟩ rt' ()) :
    rt'.world.upkeep =
      (hearers rt.world uri change).foldl (·.attend uri ·) rt.world.upkeep := by
  let Q (_ : Unit) (g' : Upkeep) : Prop :=
    g' = (hearers rt.world uri change).foldl (·.attend uri ·) rt.world.upkeep
  have htold {entry : Option DocumentIndex.Entry} (hentry : rt.world.index.find? uri = entry) :
      Solo Client.upkeepView t (show Prog E K Unit from do
        let servers ← Program.read started
        let isOwn (s : ServerId) : Bool :=
          change = FileChange.changed ∧ entry.map (·.server) = some s
        Program.each (fun s => Server.fileChanged s uri change) (servers.filter fun s => !isOwn s))
        rt.world.upkeep Q fun _ => True := by
    subst hentry
    refine Solo.bind (solo_read fun c hc => ?_)
    rw [started_eq hc]
    exact solo_each_fileChanged uri change fun s hs => status_of_mem_hearers hs
  -- Whose document it is, is read at the start and not seen later on.
  obtain ⟨m, rfl, hrest⟩ := h.of_going (show rt.stride _ = (rt, _) from rfl)
  refine Solo.ran (Q := Q) (I := fun _ => True) ?_ hrest
  generalize hentry : Prod.snd _ = entry
  dsimp only [done_bind]
  split
  · cases entry with
    | none => exact htold hentry
    | some entry =>
        refine Solo.bind ((Session.solo_tellSaved entry.session).mono ?_ fun _ h => h)
        rintro _ g' rfl
        exact htold hentry
  · exact htold hentry

/-- The servers that hear of the change of a file and keep their settings there take them from the
editor, and each of them is told its own once if it can be reached and they are not empty. No other
server takes or is told settings, not even the one that owns the file as an open document when that
was changed. While the run waits, others may do whatever leaves the upkeep as it is. -/
theorem settings_fileChanged {n : Nat} {rt rt' : Runtime (Client E) (Job K)} {aborted : Bool}
    {uri : String} {change : FileChange}
    (h : Runtime.Ran Client.upkeepView.Same n rt ⟨t, fileChanged uri change, [], aborted⟩ rt' ()) :
    let followers := (hearers rt.world uri change).filter (rt.world.upkeep.keepsAt uri)
    (∀ s, (rt'.world.server s).settings =
      if s ∈ followers then
        rt.world.editor.settingsOf (rt.world.server s).root (rt.world.server s).id
      else (rt.world.server s).settings) ∧
    rt'.world.wiring.pushes =
      rt.world.wiring.pushes ++ followers.filterMap rt.world.upkeep.notice? := by
  intro followers
  have hupkeep := upkeep_fileChanged h
  obtain ⟨hserver, hpushes⟩ := rt.world.upkeep.foldl_attend uri (hearers rt.world uri change)
  rw [← hupkeep] at hserver hpushes
  refine ⟨fun s => ?_, hpushes⟩
  have hseen (c : Client E) : (c.server s).settings = (c.upkeep.server s).settings := rfl
  rw [hseen, hserver s]
  split <;> rfl

/-- Three started servers: two definitions in one project, whose settings are kept in one file that
is open on the first of them, and the first definition once more in another project. The editor has
new settings for all of them. -/
def smallFollowed : Client Unit :=
  let c := Client.small ['{', '}'] SyncKind.full
  let accessTo (s : ServerId) : Access :=
    { Client.smallAccess SyncKind.full with server := s, link := s }
  let second := Server.new ⟨['b'], [], .rawCommand [], none⟩ []
  let third := { c.server 0 with root := ['/', 'q'] }
  { c with
    wiring := { c.wiring with
      pipes := ⟨List.replicate 6 Pipe.open_⟩
      links := ⟨[Link.new 0 1, Link.new 2 3, Link.new 4 5]⟩ }
    editor := { c.editor with
      settings := fun root _ => some ⟨[(ServerSettings.globalScope, [("root", .ofText root)])]⟩
      settingsPath := fun root _ => some (root ++ ['/', 's']) }
    servers := ⟨[c.server 0, { second with status := .started, access := some (accessTo 1) },
      { third with access := some (accessTo 2) }]⟩
    index := ⟨[("file:///s", ⟨0, 0⟩)]⟩
    routes := { c.routes with servers := [0, 1, 2] } }

/-- Of the two servers that keep their settings in the changed file, the one that owns it keeps what
it had; so does the server of its definition in the other project. -/
theorem settings_fileChanged_owner :
    let rt := Runtime.start smallFollowed fun _ : Job Unit => .done ()
    let rt' := (rt.turn 200 ⟨1, fileChanged "file:///s" .changed, [], false⟩).1
    (rt'.world.server 0).settings = ServerSettings.none ∧
      (rt'.world.server 1).settings = smallFollowed.editor.settingsOf [] "b" ∧
      (rt'.world.server 2).settings = ServerSettings.none ∧
      rt'.world.wiring.pushes =
        [(1, Json.object [("settings", Json.object [("root", .str "")])])] := by
  intro rt rt'
  obtain ⟨n, hran⟩ : ∃ n, Runtime.Ran Client.upkeepView.Same n rt
      ⟨1, fileChanged "file:///s" .changed, [], false⟩ rt' () :=
    Runtime.exists_ran (by decide +kernel)
  obtain ⟨hsettings, hpushes⟩ := settings_fileChanged hran
  have hfollowers : (hearers rt.world "file:///s" .changed).filter
      (rt.world.upkeep.keepsAt "file:///s") = [1] := by decide +kernel
  have hnotices : [1].filterMap rt.world.upkeep.notice? =
      [(1, Json.object [("settings", Json.object [("root", .str "")])])] := by decide +kernel
  rw [hfollowers] at hsettings hpushes
  rw [hnotices] at hpushes
  exact ⟨hsettings 0, hsettings 1, hsettings 2, hpushes⟩

end Routing

end LanguageClient
