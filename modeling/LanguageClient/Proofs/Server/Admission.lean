import LanguageClient.Proofs.Task.Solo
import LanguageClient.Server.Gate
namespace LanguageClient

/-!
# What a gate lets through

The capabilities that each feature is offered by, apart from how the gate looks them up, and runs of
one call of a gate over a transport of any behaviour: it may answer at once, later or never, fail in
any way and change the world, and the server may stop or go away in the meantime.
-/

/-! ## Offers -/

/-- How a server offers something in its capabilities. -/
inductive Offer where
  /-- It need not. -/
  | free
  /-- By a provider that is a switch or options. -/
  | provider (name : String)
  /-- By a provider that is options. -/
  | options (name : String)
  /-- By a switch among the options of a provider. -/
  | inner (name field : String)
  | command
  | opening
  | change
  | saving
  /-- By a switch among the options of text synchronisation. -/
  | sync (field : String)

namespace Feature

def offer : Feature → Offer
  | didOpen | didClose => .opening
  | didChange => .change
  | willSave => .sync "willSave"
  | willSaveWaitUntil => .sync "willSaveWaitUntil"
  | didSave => .saving
  | didChangeConfiguration | didChangeWatchedFiles => .free
  | workspaceSymbol => .provider "workspaceSymbolProvider"
  | executeCommand => .command
  | hover => .provider "hoverProvider"
  | completion => .options "completionProvider"
  | resolveCompletion => .inner "completionProvider" "resolveProvider"
  | signatureHelp => .options "signatureHelpProvider"
  | references => .provider "referencesProvider"
  | documentHighlight => .provider "documentHighlightProvider"
  | documentSymbol => .provider "documentSymbolProvider"
  | formatting => .provider "documentFormattingProvider"
  | rangeFormatting => .provider "documentRangeFormattingProvider"
  | onTypeFormatting => .options "documentOnTypeFormattingProvider"
  | definition => .provider "definitionProvider"
  | codeAction => .provider "codeActionProvider"
  | codeLens => .options "codeLensProvider"
  | resolveCodeLens => .inner "codeLensProvider" "resolveProvider"
  | documentLink => .options "documentLinkProvider"
  | resolveDocumentLink => .inner "documentLinkProvider" "resolveProvider"
  | rename => .provider "renameProvider"
  | prepareRename => .inner "renameProvider" "prepareProvider"

/-- The registration by which a server offers a feature later. -/
def registration? : Feature → Option DynamicMethod
  | workspaceSymbol => some .workspaceSymbol
  | executeCommand => some .executeCommand
  | hover => some .hover
  | completion => some .completion
  | signatureHelp => some .signatureHelp
  | references => some .references
  | documentHighlight => some .documentHighlight
  | documentSymbol => some .documentSymbol
  | formatting => some .formatting
  | rangeFormatting => some .rangeFormatting
  | onTypeFormatting => some .onTypeFormatting
  | definition => some .definition
  | codeAction => some .codeAction
  | codeLens => some .codeLens
  | documentLink => some .documentLink
  | rename => some .rename
  | _ => none

end Feature

/-- The command that a request to execute one names. -/
def commandName (params : Json) : String := (params.get "command").str?.getD ""

namespace Capabilities

/-- An option of text synchronisation. -/
def syncOption? (c : Capabilities) (field : String) : Option Json :=
  c.syncOptions?.bind (·.get? field)

/-- What is offered: a provider that is not switched off, options that are there, a switch that is
on, a command that is listed. Documents are opened, closed and saved unless the options of
synchronisation say otherwise. -/
def Makes (c : Capabilities) (params : Json) : Offer → Prop
  | .free => True
  | .provider name => ∃ v, c.value.get? name = some v ∧ v ≠ .bool false
  | .options name => ∃ v, c.value.get? name = some v
  | .inner name field => (c.value.get name).get field = .bool true
  | .command => ∃ commands, c.commands? = some commands ∧ commandName params ∈ commands
  | .opening => c.syncOption? "openClose" ≠ some (.bool false)
  | .change => ∃ kind, kind ≠ SyncKind.none ∧
    (c.value.get? "textDocumentSync" = some (.int kind) ∨
      c.syncOption? "change" = some (.int kind))
  | .saving =>
    c.syncOptions? = none ∨ ∃ v, c.syncOption? "save" = some v ∧ v ≠ .bool false
  | .sync field => c.syncOption? field = some (.bool true)

/-- The registrations of a method count for a feature; a server that lists commands executes no
others. -/
def Consults (c : Capabilities) (f : Feature) (m : DynamicMethod) : Prop :=
  f.registration? = some m ∧ (f = .executeCommand → c.commands? = none)

theorem isOn_iff {c : Capabilities} {name : String} :
    c.isOn name = true ↔ ∃ v, c.value.get? name = some v ∧ v ≠ .bool false := by
  unfold isOn
  split
  · next b h => simp [h]
  · next v hv h =>
    simp only [h, Option.some.injEq, exists_eq_left', true_iff]
    exact hv false
  · next h => simp [h]

theorem has_iff {c : Capabilities} {name : String} :
    c.has name = true ↔ ∃ v, c.value.get? name = some v := Option.isSome_iff_exists

theorem bool?_getD_false {j : Json} : j.bool?.getD false = true ↔ j = .bool true := by
  cases j <;> simp [Json.bool?]

theorem option_iff {c : Capabilities} {name field : String} :
    c.option name field = true ↔ (c.value.get name).get field = .bool true := bool?_getD_false

theorem syncSwitch_false_iff {c : Capabilities} {field : String} :
    c.syncSwitch field false = true ↔ c.syncOption? field = some (.bool true) := by
  unfold syncSwitch syncOption?
  cases c.syncOptions?.bind (·.get? field) with
  | none => simp
  | some v => simpa using bool?_getD_false

theorem openClose_iff {c : Capabilities} :
    c.openClose = true ↔ c.syncOption? "openClose" ≠ some (.bool false) := by
  unfold openClose syncSwitch syncOption?
  cases c.syncOptions?.bind (·.get? "openClose") with
  | none => simp
  | some v => cases v <;> simp [Json.bool?]

theorem save_iff {c : Capabilities} :
    c.save = true ↔ c.syncOptions? = none ∨
      ∃ v, c.syncOption? "save" = some v ∧ v ≠ .bool false := by
  unfold save syncOption?
  cases c.syncOptions? with
  | none => simp
  | some options =>
    simp only [reduceCtorEq, false_or, Option.bind_some]
    cases options.get? "save" with
    | none => simp
    | some v => cases v <;> simp

theorem syncKind_iff {c : Capabilities} : c.syncKind ≠ SyncKind.none ↔
    ∃ kind, kind ≠ SyncKind.none ∧ (c.value.get? "textDocumentSync" = some (.int kind) ∨
      c.syncOption? "change" = some (.int kind)) := by
  unfold syncKind syncOption? syncOptions?
  cases c.value.get? "textDocumentSync" with
  | none => simp
  | some v =>
    cases v with
    | int n => simp
    | obj members =>
      simp only [Option.some.injEq, reduceCtorEq, false_or, Option.bind_some, Json.get]
      cases (Json.obj members).get? "change" with
      | none => simp [Json.int?]
      | some v => cases v <;> simp [Json.int?]
    | _ => simp [Json.get, Json.get?, Json.members, Json.int?]

theorem supportsCommand_iff {c : Capabilities} {registered : DynamicMethod → Bool}
    {command : String} :
    Feature.supportsCommand c registered command = true ↔
      (∃ commands, c.commands? = some commands ∧ command ∈ commands) ∨
        c.commands? = none ∧ registered .executeCommand = true := by
  unfold Feature.supportsCommand
  cases c.commands? with
  | none => simp
  | some commands => simp

/-- The gate's condition on a feature: it is offered, or registered where registrations count. -/
theorem isSupported_iff {c : Capabilities} {registered : DynamicMethod → Bool} {params : Json}
    {f : Feature} :
    f.isSupported c registered params = true ↔
      c.Makes params f.offer ∨ ∃ m, c.Consults f m ∧ registered m = true := by
  cases f
  case executeCommand =>
    rw [Feature.isSupported, supportsCommand_iff]
    simp only [Feature.offer, Makes, Consults, Feature.registration?, commandName,
      Option.some.injEq, true_implies, exists_eq_left', and_assoc]
  all_goals
    simp [Feature.isSupported, Feature.offer, Makes, Consults, Feature.registration?, isOn_iff,
      has_iff, option_iff, syncSwitch_false_iff, syncKind_iff, openClose_iff, save_iff, willSave,
      willSaveWaitUntil]

end Capabilities

/-! ## Failures -/

namespace Feature

/-- A failure that means a broken connection: the server did not give the request up or find it
stale, and a position that cannot be renamed at may be refused with any code. -/
def Breaks (f : Feature) (e : ClientError) : Prop :=
  (∀ reason, e ≠ .rpc (-32800) reason) ∧ (∀ reason, e ≠ .rpc (-32801) reason) ∧
    (f = .prepareRename → ∀ code reason, e ≠ .rpc code reason)

theorem isCrash_iff {f : Feature} {e : ClientError} : f.isCrash e = true ↔ f.Breaks e := by
  unfold Breaks
  cases e with
  | rpc code reason =>
    cases f
    case prepareRename => simp [isCrash]
    all_goals
      simp [isCrash, ClientError.isBenign, ClientError.requestCancelled,
        ClientError.contentModified]
  | _ => cases f <;> simp [isCrash, ClientError.isBenign]

/-- What the answer to a call comes to; a notification has none. -/
def outcome (f : Feature) : Except ClientError Json → Result
  | .ok answer => if f.isNotification then .none else f.ofAnswer answer
  | .error e => if f.isNotification then .none else f.ofFailure e

theorem outcome_of_unshaped {f : Feature} (hd : f ≠ .definition) (hp : f ≠ .prepareRename)
    {answer : Json} (h : f.answerShape answer = none) : f.outcome (.ok answer) = .none := by
  unfold outcome
  dsimp only
  split
  · rfl
  · unfold ofAnswer
    split
    · exact absurd rfl hd
    · exact absurd rfl hp
    · split
      · rfl
      · rw [h]

end Feature

/-! ## Runs that stop anywhere -/

namespace Runtime

variable {W J : Type} [HasAgenda W] {α β : Type}

/-- What one task comes to by itself: it may stop anywhere, be dropped or end with a value. While it
waits, the world may change as `outside` allows. -/
inductive Goes (outside : W → W → Prop) :
    Runtime W J → Task W J α → Runtime W J → Option α → Prop where
  | stops (rt : Runtime W J) (task : Task W J α) : Goes outside rt task rt none
  | dropped (rt : Runtime W J) (task : Task W J α) : Goes outside rt task (rt.giveUp task) none
  | ended {rt rt' : Runtime W J} {task : Task W J α} {a : α}
      (h : rt.stride task = (rt', .ended a)) : Goes outside rt task rt' (some a)
  | went {rt rt₁ rt' : Runtime W J} {task next : Task W J α} {r : Option α}
      (h : rt.stride task = (rt₁, .going next)) (g : Goes outside rt₁ next rt' r) :
      Goes outside rt task rt' r
  | waited {rt rt₁ rt' : Runtime W J} {task : Task W J α} {r : Option α} {w : W}
      (h : rt.stride task = (rt₁, .waits)) (o : outside rt₁.world w)
      (g : Goes outside { rt₁ with world := w } task rt' r) : Goes outside rt task rt' r

variable {outside : W → W → Prop} {rt rt' : Runtime W J} {t : TaskId} {aborted : Bool}

theorem Goes.of_done {a : α} {r : Option α} (h : Goes outside rt ⟨t, .done a, [], aborted⟩ rt' r) :
    rt' = rt ∧ (r = none ∨ r = some a) := by
  cases h with
  | stops => exact ⟨rfl, .inl rfl⟩
  | dropped => exact ⟨rfl, .inl rfl⟩
  | ended h =>
    cases h
    exact ⟨rfl, .inr rfl⟩
  | went h _ => cases h
  | waited h _ _ => cases h

/-- An action takes place, unless the run stops before it. -/
theorem Goes.of_act {f : W → W × β} {k : β → Program W J α} {r : Option α}
    (h : Goes outside rt ⟨t, (Program.act f).bind k, [], aborted⟩ rt' r) :
    (rt' = rt ∧ r = none) ∨
      Goes outside { rt with world := (f rt.world).1 } ⟨t, k (f rt.world).2, [], aborted⟩ rt'
        r := by
  cases h with
  | stops => exact .inl ⟨rfl, rfl⟩
  | dropped => exact .inl ⟨rfl, rfl⟩
  | ended h => cases h
  | went h g =>
    cases h
    exact .inr g
  | waited h _ _ => cases h

theorem Goes.of_read {g : W → β} {b : β} {k : β → Program W J α} {r : Option α}
    (h : Goes outside rt ⟨t, (Program.read g).bind k, [], aborted⟩ rt' r) (hb : g rt.world = b) :
    (rt' = rt ∧ r = none) ∨ Goes outside rt ⟨t, k b, [], aborted⟩ rt' r := by
  subst hb
  exact h.of_act

end Runtime

/-! ## Watched gates -/

/-- What a gate does that others can see, and what comes back to it. -/
inductive GateEvent where
  | called (method : String) (params : Json)
  /-- The answer to a call, and whether the server was still there. -/
  | came (answer : Except ClientError Json) (there : Bool)
  | reported (error : ClientError)

namespace GateEvent

def call? : GateEvent → Option (String × Json)
  | called method params => some (method, params)
  | _ => none

def report? : GateEvent → Option ClientError
  | reported e => some e
  | _ => none

def calls (events : List GateEvent) : List (String × Json) := events.filterMap call?

def reports (events : List GateEvent) : List ClientError := events.filterMap report?

end GateEvent

/-- A world, and what a gate did in it. -/
structure Watched (W : Type) where
  world : W
  events : List GateEvent

namespace Watched

variable {W : Type}

instance [HasAgenda W] : HasAgenda (Watched W) :=
  ⟨fun s => HasAgenda.agenda s.world, fun a s => { s with world := HasAgenda.setAgenda a s.world }⟩

def note (e : GateEvent) (s : Watched W) : Watched W := { s with events := s.events ++ [e] }

/-- Others may do anything but what the gate does. -/
def Elsewhere (s s' : Watched W) : Prop := s'.events = s.events

end Watched

/-- A transport of any behaviour. A call asks it until it has an answer. -/
structure Transport (W : Type) where
  poll : (notification : Bool) → String → Json → TaskId → W → W × Option (Except ClientError Json)
  giveUp : TaskId → W → W

/-- All that a gate depends on. -/
structure Surroundings (W : Type) where
  transport : Transport W
  capabilities : Capabilities
  standing : W → Option Standing
  crash : ClientError → W → W

namespace Surroundings

open GateEvent (calls call? reports report?)

variable {W J : Type} (x : Surroundings W)

/-- Asks the transport, and notes the answer when it comes. -/
def poll (notification : Bool) (method : String) (params : Json) (t : TaskId) (s : Watched W) :
    Watched W × Option (Except ClientError Json) :=
  let r := x.transport.poll notification method params t s.world
  (⟨r.1, s.events ++ r.2.toList.map fun a => .came a (x.standing r.1).isSome⟩, r.2)

def send (notification : Bool) (method : String) (params : Json) :
    Program (Watched W) J (Except ClientError Json) :=
  (Program.modify (Watched.note (.called method params))).bind fun _ =>
    .await (x.poll notification method params)
      (fun t s => { s with world := x.transport.giveUp t s.world }) .done

def gate : Gate (Watched W) J where
  caller :=
    { request := x.send false
      notify := fun method params => (x.send true method params).bind fun a =>
        .done (a.map fun _ => ()) }
  capabilities := x.capabilities
  monitor :=
    { standing := fun s => x.standing s.world
      reportCrash := fun e =>
        Program.modify fun s => Watched.note (.reported e) { s with world := x.crash e s.world } }

/-- The server is there and started, and offers the feature or has registered it. -/
def Admits (f : Feature) (params : Json) (w : W) : Prop :=
  ∃ s, x.standing w = some s ∧ s.status = .started ∧
    (x.capabilities.Makes params f.offer ∨
      ∃ m, x.capabilities.Consults f m ∧ s.registered m = true)

theorem admits_iff {x : Surroundings W} {f : Feature} {params : Json} {s : Watched W} :
    (x.gate : Gate (Watched W) J).admits f params s = true ↔ x.Admits f params s.world := by
  have hcapabilities : (x.gate : Gate (Watched W) J).capabilities = x.capabilities := rfl
  have hstanding : (x.gate : Gate (Watched W) J).monitor.standing s = x.standing s.world := rfl
  unfold Gate.admits Admits
  rw [hstanding, hcapabilities]
  cases x.standing s.world with
  | none => simp
  | some s => simp [Capabilities.isSupported_iff]

/-! ## One call -/

/-- What is done with an answer. -/
def after (f : Feature) (a : Except ClientError Json) : Program (Watched W) J Feature.Result :=
  match a with
  | .ok _ => .done (f.outcome a)
  | .error e => ((x.gate : Gate (Watched W) J).report f e).bind fun _ => .done (f.outcome a)

theorem call_eq (f : Feature) (params : Json) :
    (x.gate : Gate (Watched W) J).call f params =
      (Program.read ((x.gate : Gate (Watched W) J).admits f params)).bind fun admitted =>
        if admitted then (x.send f.isNotification f.method params).bind (x.after f)
        else .done .none := by
  unfold Gate.call
  refine congrArg (Program.bind _) (funext fun admitted => ?_)
  cases admitted with
  | false => rfl
  | true =>
    cases hn : f.isNotification with
    | true =>
      change ((x.send true f.method params).bind _).bind _ = (x.send true f.method params).bind _
      rw [Program.bind_assoc]
      refine congrArg (Program.bind _) (funext fun a => ?_)
      cases a <;> simp only [after, Feature.outcome, hn] <;> rfl
    | false =>
      change (x.send false f.method params).bind _ = (x.send false f.method params).bind _
      refine congrArg (Program.bind _) (funext fun a => ?_)
      cases a <;> simp only [after, Feature.outcome, hn] <;> rfl

variable [HasAgenda W] {x} {rt rt' : Runtime (Watched W) J} {t : TaskId} {aborted : Bool}
  {α : Type} {r : Option α} {f : Feature} {params : Json}

/-- A call waits for its answer, unless the run stops before that. -/
theorem goes_await {notification : Bool} {method : String}
    {cancel : TaskId → Watched W → Watched W}
    {k : Except ClientError Json → Program (Watched W) J α}
    (h : rt.Goes Watched.Elsewhere
      ⟨t, .await (x.poll notification method params) cancel k, [], aborted⟩ rt' r)
    (hcancel : ∀ t s, (cancel t s).events = s.events) :
    (rt'.world.events = rt.world.events ∧ r = none) ∨
      ∃ w a, Runtime.Goes Watched.Elsewhere
        { rt with world := ⟨w, rt.world.events ++ [.came a (x.standing w).isSome]⟩ }
        ⟨t, k a, [], aborted⟩ rt' r := by
  have hstride : ∀ rt : Runtime (Watched W) J,
      rt.stride ⟨t, .await (x.poll notification method params) cancel k, [], aborted⟩ =
        match x.transport.poll notification method params t rt.world.world with
        | (w, some a) =>
          ({ rt with world := ⟨w, rt.world.events ++ [.came a (x.standing w).isSome]⟩ },
            .going ⟨t, k a, [], aborted⟩)
        | (w, none) => ({ rt with world := ⟨w, rt.world.events⟩ }, .waits) := by
    intro rt
    simp only [Runtime.stride, poll]
    rcases x.transport.poll notification method params t rt.world.world with ⟨w, _ | a⟩
    · simp [Runtime.expired?]
    · simp
  generalize htask : (⟨t, .await (x.poll notification method params) cancel k, [], aborted⟩ :
    Task (Watched W) J α) = task at h
  -- By how long there is no answer. Nobody else notes anything in the meantime.
  induction h with
  | stops => exact .inl ⟨rfl, rfl⟩
  | dropped rt =>
    subst htask
    exact .inl ⟨hcancel t rt.world, rfl⟩
  | @ended rt _ _ _ h =>
    subst htask
    rw [hstride] at h
    split at h <;> cases h
  | @went rt _ _ _ _ _ h g ih =>
    subst htask
    rw [hstride] at h
    split at h
    · next w a _ =>
      cases h
      exact .inr ⟨w, a, g⟩
    · cases h
  | @waited rt _ _ _ _ _ h o g ih =>
    subst htask
    rw [hstride] at h
    split at h
    · cases h
    · cases h
      rw [← show _ = rt.world.events from o]
      exact ih rfl

/-- What one call shows, and what it has come to. -/
inductive Conduct (f : Feature) (params : Json) :
    List GateEvent → Option Feature.Result → Prop where
  | waits : Conduct f params [.called f.method params] none
  | came {a : Except ClientError Json} {there : Bool} {r : Option Feature.Result}
      (hr : r = none ∨
        r = some (f.outcome a) ∧ ∀ e, a = .error e → f.Breaks e → there = false) :
      Conduct f params [.called f.method params, .came a there] r
  | reported {e : ClientError} {r : Option Feature.Result} (he : f.Breaks e)
      (hr : r = none ∨ r = some (f.outcome (.error e))) :
      Conduct f params [.called f.method params, .came (.error e) true, .reported e] r

/-- After the answer there is at most the report of a failure that means a broken connection. -/
theorem conduct_of_after {a : Except ClientError Json} {w : W} {r : Option Feature.Result}
    (hstart : rt.world = ⟨w, [.called f.method params, .came a (x.standing w).isSome]⟩)
    (h : rt.Goes Watched.Elsewhere ⟨t, x.after f a, [], aborted⟩ rt' r) :
    Conduct f params rt'.world.events r := by
  have hstay : rt'.world = rt.world → r = none → Conduct f params rt'.world.events r := by
    intro hw hr
    rw [hw, hstart]
    exact .came (.inl hr)
  cases a with
  | ok answer =>
    obtain ⟨rfl, hr⟩ := h.of_done
    rw [hstart]
    exact .came (hr.imp id fun hr => ⟨hr, by rintro e ⟨⟩⟩)
  | error e =>
    by_cases hbreaks : f.Breaks e
    · have hcrash : f.isCrash e = true := Feature.isCrash_iff.2 hbreaks
      have hafter : (x.after f (.error e) : Program (Watched W) J _) =
          (Program.read fun s => (x.standing s.world).isSome).bind fun there =>
            (if there then x.gate.monitor.reportCrash e else .done ()).bind fun _ =>
              .done (f.outcome (.error e)) := by
        simp only [after, Gate.report, hcrash]
        rfl
      rw [hafter] at h
      cases hgone : (x.standing w).isSome with
      | false =>
        obtain ⟨rfl, hr⟩ | h := h.of_read (by rw [hstart, hgone])
        · exact hstay rfl hr
        obtain ⟨rfl, hr⟩ := h.of_done
        rw [hstart, hgone]
        exact .came (hr.imp id fun hr => ⟨hr, fun _ _ _ => rfl⟩)
      | true =>
        obtain ⟨rfl, hr⟩ | h := h.of_read (by rw [hstart, hgone])
        · exact hstay rfl hr
        obtain ⟨rfl, hr⟩ | h := h.of_act
        · exact hstay rfl hr
        obtain ⟨rfl, hr⟩ := h.of_done
        simp only [hstart, Watched.note, hgone]
        exact .reported hbreaks hr
    · have hcrash : f.isCrash e = false := by
        rw [← Bool.not_eq_true, Feature.isCrash_iff]
        exact hbreaks
      have hafter : (x.after f (.error e) : Program (Watched W) J _) =
          .done (f.outcome (.error e)) := by
        simp only [after, Gate.report, hcrash]
        rfl
      rw [hafter] at h
      obtain ⟨rfl, hr⟩ := h.of_done
      rw [hstart]
      refine .came (hr.imp id fun hr => ⟨hr, ?_⟩)
      rintro e ⟨⟩ he
      exact absurd he hbreaks

/-- A call that is not admitted shows nothing; one that is conducts itself. -/
theorem conduct_of_goes {w : W} {r : Option Feature.Result} (hstart : rt.world = ⟨w, []⟩)
    (h : rt.Goes Watched.Elsewhere
      ⟨t, (x.gate : Gate (Watched W) J).call f params, [], aborted⟩ rt' r) :
    (rt'.world.events = [] ∧ (r = none ∨ ¬ x.Admits f params w ∧ r = some .none)) ∨
      x.Admits f params w ∧ Conduct f params rt'.world.events r := by
  rw [call_eq] at h
  by_cases hadmits : x.Admits f params w
  · obtain ⟨rfl, hr⟩ | h := h.of_read (admits_iff.2 (by rwa [hstart]))
    · exact .inl ⟨by rw [hstart], .inl hr⟩
    rw [if_pos rfl, send, Program.bind_assoc] at h
    obtain ⟨rfl, hr⟩ | h := h.of_act
    · exact .inl ⟨by rw [hstart], .inl hr⟩
    obtain ⟨hw, rfl⟩ | ⟨u, a, h⟩ := goes_await h fun _ _ => rfl
    · rw [hw]
      simp only [hstart, Watched.note]
      exact .inr ⟨hadmits, .waits⟩
    · exact .inr ⟨hadmits, conduct_of_after (by simp only [hstart, Watched.note]; rfl) h⟩
  · have hgate : (x.gate : Gate (Watched W) J).admits f params rt.world = false := by
      rw [← Bool.not_eq_true, admits_iff, hstart]
      exact hadmits
    obtain ⟨rfl, hr⟩ | h := h.of_read hgate
    · exact .inl ⟨by rw [hstart], .inl hr⟩
    obtain ⟨rfl, hr⟩ := h.of_done
    exact .inl ⟨by rw [hstart], hr.imp id fun hr => ⟨hadmits, hr⟩⟩

/-- What a gate promises of one call on a world, by what the call shows and its result if it has
come to one. -/
structure Guarded (x : Surroundings W) (f : Feature) (params : Json) (w : W)
    (events : List GateEvent) (result : Option Feature.Result) : Prop where
  once : calls events = [] ∨ calls events = [(f.method, params)]
  admitted : calls events ≠ [] → x.Admits f params w
  refused : ¬ x.Admits f params w → events = [] ∧ (result = none ∨ result = some .none)
  made : x.Admits f params w → result ≠ none → calls events ≠ []
  reportedOnce : (reports events).length ≤ 1
  /-- Only a failure that means a broken connection is reported, while the server is there. -/
  justified : ∀ e ∈ reports events, .came (.error e) true ∈ events ∧ f.Breaks e
  reported : result ≠ none → ∀ e, .came (.error e) true ∈ events → f.Breaks e → e ∈ reports events
  quiet : ∀ answer there, .came (.ok answer) there ∈ events → reports events = []
  unshaped : f ≠ .definition → f ≠ .prepareRename → ∀ answer there,
    .came (.ok answer) there ∈ events → f.answerShape answer = none →
      result = none ∨ result = some .none

/-- Whatever the capabilities, the standing of the server and the transport are: one call of a gate
keeps all that is promised of it, however far it has come. -/
theorem call_guarded {w : W} {r : Option Feature.Result} (hstart : rt.world = ⟨w, []⟩)
    (h : rt.Goes Watched.Elsewhere
      ⟨t, (x.gate : Gate (Watched W) J).call f params, [], aborted⟩ rt' r) :
    x.Guarded f params w rt'.world.events r := by
  obtain ⟨hevents, hr⟩ | ⟨hadmits, h⟩ := conduct_of_goes hstart h
  · have hnone : r = none ∨ r = some .none := hr.imp id And.right
    rw [hevents]
    refine ⟨.inl rfl, by simp [calls], fun _ => ⟨rfl, hnone⟩, fun hadmits hsome => ?_,
      Nat.zero_le _, by simp [reports], by simp, by simp, by simp⟩
    exact absurd hadmits (hr.resolve_left hsome).1
  · generalize rt'.world.events = events at h
    have hrefused : ¬ x.Admits f params w → events = [] ∧ (r = none ∨ r = some .none) :=
      fun hno => absurd hadmits hno
    cases h with
    | waits =>
      exact ⟨.inr rfl, fun _ => hadmits, hrefused, fun _ hsome => absurd rfl hsome,
        Nat.zero_le _, by simp [reports, report?], fun hsome => absurd rfl hsome, by simp,
        by simp⟩
    | @came a there _ hr =>
      refine ⟨.inr rfl, fun _ => hadmits, hrefused, fun _ _ => by simp [calls, call?],
        Nat.zero_le _, by simp [reports, report?], fun hsome e he hbreaks => ?_, fun _ _ _ => rfl,
        fun hd hp answer there' ha hshape => ?_⟩
      · obtain ⟨rfl, rfl⟩ : a = .error e ∧ there = true := by simpa [eq_comm] using he
        exact absurd ((hr.resolve_left hsome).2 e rfl hbreaks) (by simp)
      · obtain ⟨rfl, -⟩ : a = .ok answer ∧ there = there' := by simpa [eq_comm] using ha
        exact hr.imp id fun hr => hr.1.trans (by rw [Feature.outcome_of_unshaped hd hp hshape])
    | @reported e _ he hr =>
      refine ⟨.inr rfl, fun _ => hadmits, hrefused, fun _ _ => by simp [calls, call?],
        Nat.le_refl _, ?_, fun _ e' he' _ => ?_, by simp, by simp⟩
      · simpa [reports, report?] using he
      · obtain rfl : e' = e := by simpa using he'
        simp [reports, report?]

/-! A call that is answered late with a failure that the server is not expected to give. -/

instance : HasAgenda Agenda := ⟨id, fun a _ => a⟩

/-- A started server with hovers, whose answer is an error from the first millisecond on. -/
def failing : Surroundings Agenda where
  transport :=
    { poll := fun _ _ _ _ a => (a, if 0 < a.now then some (.error (.rpc (-32603) "")) else none)
      giveUp := fun _ a => a }
  capabilities := ⟨.obj [("hoverProvider", .obj [])]⟩
  standing := fun _ => some ⟨.started, fun _ => false⟩
  crash := fun _ a => a

/-- The runtime of a call after some events, at a time. -/
def benchAt (now : Nat) (events : List GateEvent) : Runtime (Watched Agenda) Empty :=
  Runtime.start ⟨{ Agenda.start with now := now }, events⟩ nofun

theorem call_guarded_failing :
    let events := [.called "textDocument/hover" .null, .came (.error (.rpc (-32603) "")) true,
      .reported (.rpc (-32603) "")]
    (benchAt 0 []).Goes Watched.Elsewhere ⟨0, failing.gate.call .hover .null, [], false⟩
        (benchAt 1 events) (some .none) ∧
      failing.Guarded .hover .null Agenda.start events (some .none) := by
  intro events
  have hgoes : (benchAt 0 []).Goes Watched.Elsewhere
      ⟨0, failing.gate.call .hover .null, [], false⟩ (benchAt 1 events) (some .none) := by
    refine .went rfl (.went rfl (.waited rfl rfl (w := (benchAt 1 (events.take 1)).world) ?_))
    exact .went rfl (.went rfl (.went rfl (.ended rfl)))
  exact ⟨hgoes, call_guarded rfl hgoes⟩

end Surroundings

end LanguageClient
