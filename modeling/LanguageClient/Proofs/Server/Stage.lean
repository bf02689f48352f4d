import LanguageClient.Server.Feature
import LanguageClient.Transport.Wiring
import Mathlib.Data.List.Induction
namespace LanguageClient

/-!
# The order of a connection

What a client may hand to a connection: `initialize` and `initialized`, then what goes through the
gate, then `shutdown`, and `exit` once that has been answered. The events of a link lead through
stages; an event that is out of order leads nowhere.
-/

theorem Feature.method_ne_shutdown (f : Feature) : f.method ≠ "shutdown" := by
  cases f <;> decide

namespace Link

inductive Stage where
  | fresh
  /-- The server was asked to initialize. -/
  | initializing
  | ready
  /-- The server was asked to shut down. -/
  | closing
  /-- It has answered that it did. -/
  | closed
  | exited
deriving DecidableEq, Repr

/-- What a client says to a server on its own account, without the parameters. -/
inductive Utterance where
  | request (method : String)
  | notification (method : String)
deriving DecidableEq, Repr

namespace Utterance

/-- What gates let through. -/
def ofFeature (f : Feature) : Utterance :=
  if f.isNotification then notification f.method else request f.method

def isTraffic (u : Utterance) : Bool := Feature.all.any fun f => ofFeature f == u

theorem isTraffic_ofFeature (f : Feature) : (ofFeature f).isTraffic = true := by
  refine List.any_eq_true.2 ⟨f, ?_, beq_self_eq_true _⟩
  cases f <;> decide

end Utterance

def Event.utterance? : Event → Option Utterance
  | asked method _ => some (.request method)
  | told method _ => some (.notification method)
  | answered _ _ => none

/-- All that was handed over, in order. -/
def utterances (events : List Event) : List Utterance := events.filterMap Event.utterance?

theorem utterances_append (events : List Event) (e : Event) :
    utterances (events ++ [e]) = utterances events ++ e.utterance?.toList := by
  simp only [utterances, List.filterMap_append, List.filterMap_cons, List.filterMap_nil]
  cases e.utterance? <;> rfl

namespace Stage

def say : Stage → Utterance → Option Stage
  | fresh, .request method => if method = "initialize" then some initializing else none
  | initializing, .notification method => if method = "initialized" then some ready else none
  | ready, u =>
    if u = .request "shutdown" then some closing
    else if u.isTraffic then some ready
    else none
  | closed, .notification method => if method = "exit" then some exited else none
  | _, _ => none

/-- Only the answer to `shutdown` leads on. -/
def hear (stage : Stage) (method : String) (outcome : Except ClientError Json) : Stage :=
  if stage = closing ∧ method = "shutdown" ∧ outcome.isOk = true then closed else stage

def next (stage : Stage) : Event → Option Stage
  | .asked method _ => stage.say (.request method)
  | .told method _ => stage.say (.notification method)
  | .answered method outcome => some (stage.hear method outcome)

theorem next_eq_say {stage : Stage} {e : Event} {u : Utterance}
    (h : e.utterance? = some u) : stage.next e = stage.say u := by
  cases e with
  | asked | told => exact congrArg stage.say (Option.some.inj h)
  | answered => exact nomatch h

@[simp, grind =] theorem next_initialize (params : Json) :
    fresh.next (.asked "initialize" params) = some initializing := rfl

@[simp, grind =] theorem next_initialized (params : Json) :
    initializing.next (.told "initialized" params) = some ready := rfl

@[simp, grind =] theorem next_shutdown (params : Json) :
    ready.next (.asked "shutdown" params) = some closing := rfl

@[simp, grind =] theorem next_exit (params : Json) :
    closed.next (.told "exit" params) = some exited := rfl

@[grind =] theorem next_answered {outcome : Except ClientError Json} (h : outcome.isOk = true) :
    closing.next (.answered "shutdown" outcome) = some closed := by
  simp [next, hear, h]

/-- The stage after some events, if they were in order. -/
def after? (events : List Event) : Option Stage := events.foldlM next fresh

theorem after?_append (events : List Event) (e : Event) :
    after? (events ++ [e]) = (after? events).bind (·.next e) := by
  simp [after?, List.foldlM_append]

theorem after?_of_append {front back : List Event} {stage : Stage}
    (h : after? (front ++ back) = some stage) : ∃ before, after? front = some before := by
  rw [after?, List.foldlM_append] at h
  cases hf : after? front with
  | none => simp [after?] at hf; simp [hf] at h
  | some before => exact ⟨before, rfl⟩

theorem say_ready {u : Utterance} (h : u.isTraffic = true) : ready.say u = some ready := by
  have hne : u ≠ .request "shutdown" := by
    rintro rfl
    exact absurd h (by decide)
  simp only [say, if_neg hne, if_pos h]

theorem hear_eq_self {stage : Stage} {method : String} {outcome : Except ClientError Json}
    (h : stage ≠ closing ∨ method ≠ "shutdown" ∨ outcome.isOk = false) :
    stage.hear method outcome = stage := by
  refine if_neg ?_
  rintro ⟨rfl, rfl, ho⟩
  simp [ho] at h

/-- What has been handed over by a stage. -/
def Spoke : Stage → List Utterance → Prop
  | fresh, us => us = []
  | initializing, us => us = [.request "initialize"]
  | ready, us => ∃ traffic : List Utterance, (∀ u ∈ traffic, u.isTraffic = true) ∧
      us = .request "initialize" :: .notification "initialized" :: traffic
  | closing, us | closed, us => ∃ traffic : List Utterance, (∀ u ∈ traffic, u.isTraffic = true) ∧
      us = .request "initialize" :: .notification "initialized" :: (traffic ++ [.request "shutdown"])
  | exited, us => ∃ traffic : List Utterance, (∀ u ∈ traffic, u.isTraffic = true) ∧
      us = .request "initialize" :: .notification "initialized" ::
        (traffic ++ [.request "shutdown", .notification "exit"])

theorem Spoke.say {stage next : Stage} {us : List Utterance} {u : Utterance}
    (h : stage.Spoke us) (hn : stage.say u = some next) : next.Spoke (us ++ [u]) := by
  cases stage with
  | fresh =>
      cases u with
      | request method =>
          simp only [Stage.say, Option.ite_none_right_eq_some, Option.some.injEq] at hn
          obtain ⟨rfl, rfl⟩ := hn
          simpa [Spoke] using h
      | notification _ => exact nomatch hn
  | initializing =>
      cases u with
      | request _ => exact nomatch hn
      | notification method =>
          simp only [Stage.say, Option.ite_none_right_eq_some, Option.some.injEq] at hn
          obtain ⟨rfl, rfl⟩ := hn
          exact ⟨[], nofun, by rw [h]; rfl⟩
  | ready =>
      obtain ⟨traffic, htraffic, rfl⟩ := h
      simp only [Stage.say] at hn
      split at hn
      · rename_i hu
        obtain rfl := Option.some.inj hn
        exact ⟨traffic, htraffic, by simp [hu]⟩
      · simp only [Option.ite_none_right_eq_some, Option.some.injEq] at hn
        obtain ⟨hu, rfl⟩ := hn
        refine ⟨traffic ++ [u], fun v hv => ?_, by simp⟩
        rcases List.mem_append.1 hv with hv | hv
        · exact htraffic v hv
        · rwa [List.mem_singleton.1 hv]
  | closed =>
      cases u with
      | request _ => exact nomatch hn
      | notification method =>
          simp only [Stage.say, Option.ite_none_right_eq_some, Option.some.injEq] at hn
          obtain ⟨rfl, rfl⟩ := hn
          obtain ⟨traffic, htraffic, rfl⟩ := h
          exact ⟨traffic, htraffic, by simp⟩
  | closing => cases u <;> exact nomatch hn
  | exited => cases u <;> exact nomatch hn

theorem Spoke.hear {stage : Stage} {us : List Utterance} (h : stage.Spoke us) (method : String)
    (outcome : Except ClientError Json) : (stage.hear method outcome).Spoke us := by
  unfold Stage.hear
  split
  · rename_i hc
    rw [hc.1] at h
    exact h
  · exact h

theorem spoke_after {events : List Event} {stage : Stage} (h : after? events = some stage) :
    stage.Spoke (utterances events) := by
  induction events using List.reverseRecOn generalizing stage with
  | nil =>
      obtain rfl := Option.some.inj h
      rfl
  | append_singleton events e ih =>
      rw [after?_append, Option.bind_eq_some_iff] at h
      obtain ⟨before, hb, hn⟩ := h
      have hspoke := ih hb
      rw [utterances_append]
      cases e with
      | asked method params => exact hspoke.say hn
      | told method params => exact hspoke.say hn
      | answered method outcome =>
          obtain rfl := Option.some.inj hn
          simpa [Event.utterance?] using hspoke.hear method outcome

theorem say_ne_closed (stage : Stage) (u : Utterance) : stage.say u ≠ some closed := by
  intro h
  rcases stage with _ | _ | _ | _ | _ | _ <;> rcases u with method | method <;>
    simp only [say, reduceCtorEq, Option.ite_none_right_eq_some, Option.some.injEq, and_false] at h
  all_goals split at h <;> simp at h

/-- The server is closed only by its answer. -/
theorem answered_of_closed {events : List Event} (h : after? events = some closed) :
    ∃ v, .answered "shutdown" (.ok v) ∈ events := by
  induction events using List.reverseRecOn with
  | nil => exact nomatch h
  | append_singleton events e ih =>
      rw [after?_append, Option.bind_eq_some_iff] at h
      obtain ⟨before, hb, hn⟩ := h
      cases e with
      | asked method params => exact absurd hn (say_ne_closed _ _)
      | told method params => exact absurd hn (say_ne_closed _ _)
      | answered method outcome =>
          simp only [next, Stage.hear, Option.some.injEq] at hn
          split at hn
          · rename_i hc
            obtain ⟨-, rfl, ho⟩ := hc
            cases outcome with
            | ok v => exact ⟨v, by simp⟩
            | error e => exact nomatch ho
          · rw [hn] at hb
            obtain ⟨v, hv⟩ := ih hb
            exact ⟨v, List.mem_append_left _ hv⟩

end Stage

/-- What is handed over is a prefix of what the protocol allows, and the server is told to exit only
once it has answered that it shuts down. -/
structure Orderly (events : List Event) : Prop where
  isPrefix : ∃ traffic : List Utterance, (∀ u ∈ traffic, u.isTraffic = true) ∧
    utterances events <+: [.request "initialize", .notification "initialized"] ++ traffic ++
      [.request "shutdown", .notification "exit"]
  exits (front back : List Event) (params : Json) : events = front ++ .told "exit" params :: back →
    ∃ v, .answered "shutdown" (.ok v) ∈ front

theorem Stage.Spoke.isPrefix {stage : Stage} {us : List Utterance} (h : stage.Spoke us) :
    ∃ traffic : List Utterance, (∀ u ∈ traffic, u.isTraffic = true) ∧
      us <+: [.request "initialize", .notification "initialized"] ++ traffic ++
        [.request "shutdown", .notification "exit"] := by
  cases stage with
  | fresh => exact ⟨[], nofun, by rw [h]; exact List.nil_prefix⟩
  | initializing => exact ⟨[], nofun, _, by rw [h]; rfl⟩
  | ready =>
      obtain ⟨traffic, htraffic, rfl⟩ := h
      exact ⟨traffic, htraffic, [.request "shutdown", .notification "exit"], by simp⟩
  | closing | closed =>
      obtain ⟨traffic, htraffic, rfl⟩ := h
      exact ⟨traffic, htraffic, [.notification "exit"], by simp⟩
  | exited =>
      obtain ⟨traffic, htraffic, rfl⟩ := h
      exact ⟨traffic, htraffic, [], by simp⟩

theorem orderly_of_after {events : List Event} {stage : Stage}
    (h : Stage.after? events = some stage) : Orderly events := by
  refine ⟨(Stage.spoke_after h).isPrefix, ?_⟩
  rintro front back params rfl
  rw [List.append_cons] at h
  obtain ⟨after, ha⟩ := Stage.after?_of_append h
  rw [Stage.after?_append, Option.bind_eq_some_iff] at ha
  obtain ⟨before, hb, hn⟩ := ha
  refine Stage.answered_of_closed (hb.trans ?_)
  cases before with
  | closed => rfl
  | ready =>
      have hnone : Stage.ready.say (.notification "exit") = none := by decide
      exact absurd (hnone.symm.trans hn) nofun
  | initializing => exact absurd hn (by simp [Stage.next, Stage.say])
  | _ => exact nomatch hn

end Link

end LanguageClient
