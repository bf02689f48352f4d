import LanguageClient.Server.Feature
import LanguageClient.Session.Basic
import LanguageClient.Session.Params
import LanguageClient.Transport.Wiring
namespace LanguageClient

/-!
# What a server is told of a document

The notifications that keep a server in step with a document, and the order in which they come: the
document is opened first and closed last, at most once each, and the changes in between are numbered
from one without a gap. The flags and the version of a session say how far that has come.
-/

namespace Params

open Json (lookup_putMember members object str?)

/-- The document that parameters are about. -/
def uri? (params : Json) : Option String := ((params.get "textDocument").get "uri").str?

@[simp] theorem uri?_didOpen (uri : String) (languageId text : Text) (version : Nat) :
    uri? (didOpen uri languageId version text) = some uri := by
  simp [uri?, didOpen, object, Json.get, Json.get?, members, lookup_putMember, str?]

@[simp] theorem uri?_didChange (uri : String) (version : Nat) (changes : List ContentChange) :
    uri? (didChange uri version changes) = some uri := by
  simp [uri?, didChange, object, Json.get, Json.get?, members, lookup_putMember, str?]

@[simp] theorem uri?_about (uri : String) : uri? (about uri []) = some uri := by
  simp [uri?, about, object, Json.get, Json.get?, members, lookup_putMember, str?]

@[simp] theorem uri?_didSave (uri : String) (text : Option Text) :
    uri? (didSave uri text) = some uri := by
  cases text <;>
    simp [uri?, didSave, about, object, Json.get, Json.get?, members, lookup_putMember, str?]

end Params

/-- The features that keep a server in step with a document. -/
def Feature.sync : List Feature := [.didOpen, .didChange, .didSave, .didClose]

namespace Link.Event

/-- The notification of a feature. -/
abbrev notice (f : Feature) (params : Json) : Link.Event := .told f.method params

def isTold (f : Feature) : Link.Event → Bool
  | told method _ => method == f.method
  | _ => false

/-- A notification that keeps the server in step with a document. -/
def isSync (uri : String) : Link.Event → Bool
  | told method params =>
    Feature.sync.any (fun f => method == f.method) && Params.uri? params == some uri
  | _ => false

theorem isSync_notice {uri : String} {f : Feature} {params : Json} (hf : f ∈ Feature.sync)
    (h : Params.uri? params = some uri) : (notice f params).isSync uri = true :=
  Bool.and_eq_true_iff.2
    ⟨List.any_eq_true.2 ⟨f, hf, beq_iff_eq.2 rfl⟩, beq_iff_eq.2 h⟩

/-- The version that a change is told under. -/
def changeVersion? : Link.Event → Option Nat
  | told method params =>
    if method = Feature.didChange.method then ((params.get "textDocument").get "version").nat?
    else none
  | _ => none

theorem changeVersion?_didChange (uri : String) (version : Nat) (contents : List ContentChange) :
    changeVersion? (notice .didChange (Params.didChange uri version contents)) = some version := by
  have hversion : ((Params.didChange uri version contents).get "textDocument").get "version" =
      .ofNat version := by
    simp [Params.didChange, Json.object, Json.get, Json.get?, Json.members, Json.lookup_putMember]
  rw [changeVersion?, if_pos rfl, hversion]
  rfl

/-- How many changes are told. -/
def changes (log : List Link.Event) : Nat := log.countP (isTold .didChange)

@[simp] theorem changes_nil : changes [] = 0 := rfl

@[simp] theorem changes_append (log later : List Link.Event) :
    changes (log ++ later) = changes log + changes later := List.countP_append

end Link.Event

open Link.Event (changes notice)

namespace Session

/-- What is told of a document that was opened and not yet closed, with so many changes. -/
inductive Spoken (uri : String) (languageId : Text) : Nat → List Link.Event → Prop where
  | opened (text : Text) :
      Spoken uri languageId 0 [notice .didOpen (Params.didOpen uri languageId 0 text)]
  | changed {n : Nat} {log : List Link.Event} (h : Spoken uri languageId n log)
      (contents : List ContentChange) : Spoken uri languageId (n + 1)
        (log ++ [notice .didChange (Params.didChange uri (n + 1) contents)])
  | saved {n : Nat} {log : List Link.Event} (h : Spoken uri languageId n log)
      (text : Option Text) :
      Spoken uri languageId n (log ++ [notice .didSave (Params.didSave uri text)])

/-- What is told of the document of a session, by its flags and its version. -/
inductive Chronicle (x : Session) : List Link.Event → Prop where
  /-- A session that is closed before it is opened is never opened. -/
  | unopened (ho : x.opened = false) (hv : x.version = 0) : Chronicle x []
  | spoken {log : List Link.Event} (ho : x.opened = true) (hc : x.closed = false)
      (h : Spoken x.uri x.languageId x.version log) : Chronicle x log
  | ended {log : List Link.Event} (ho : x.opened = true) (hc : x.closed = true)
      (h : Spoken x.uri x.languageId x.version log) :
      Chronicle x (log ++ [notice .didClose (Params.about x.uri [])])

theorem Spoken.changes_eq {uri : String} {languageId : Text} {n : Nat} {log : List Link.Event}
    (h : Spoken uri languageId n log) : changes log = n := by
  induction h with
  | opened text => rfl
  | changed _ contents ih =>
      rw [Link.Event.changes_append, ih]
      rfl
  | saved _ text ih =>
      rw [Link.Event.changes_append, ih]
      rfl

/-- The changes are numbered from one without a gap. -/
theorem Spoken.versions_eq {uri : String} {languageId : Text} {n : Nat} {log : List Link.Event}
    (h : Spoken uri languageId n log) :
    log.filterMap Link.Event.changeVersion? = List.range' 1 n := by
  induction h with
  | opened text => rfl
  | changed _ contents ih =>
      rw [List.filterMap_append, ih, List.filterMap_cons, Link.Event.changeVersion?_didChange,
        List.range'_1_concat, Nat.add_comm 1]
      rfl
  | saved _ text ih =>
      rw [List.filterMap_append, ih]
      exact List.append_nil _

/-- The document is opened first, and then there are changes and saves. -/
theorem Spoken.eq_cons {uri : String} {languageId : Text} {n : Nat} {log : List Link.Event}
    (h : Spoken uri languageId n log) : ∃ text middle,
      log = notice .didOpen (Params.didOpen uri languageId 0 text) :: middle ∧
      ∀ e ∈ middle, e.isTold .didChange ∨ e.isTold .didSave := by
  induction h with
  | opened text => exact ⟨text, [], rfl, List.forall_mem_nil _⟩
  | changed _ contents ih =>
      obtain ⟨text, middle, rfl, hmiddle⟩ := ih
      exact ⟨text, _, rfl, List.forall_mem_append.2
        ⟨hmiddle, List.forall_mem_singleton.2 (.inl (beq_iff_eq.2 rfl))⟩⟩
  | saved _ text ih =>
      obtain ⟨text, middle, rfl, hmiddle⟩ := ih
      exact ⟨text, _, rfl, List.forall_mem_append.2
        ⟨hmiddle, List.forall_mem_singleton.2 (.inr (beq_iff_eq.2 rfl))⟩⟩

/-- Nothing is told of a document, or it is opened first at version zero and closed last, at most
once each, with changes and saves in between. -/
def Ordered (uri : String) (languageId : Text) (log : List Link.Event) : Prop :=
  log = [] ∨ ∃ text middle last,
    log = notice .didOpen (Params.didOpen uri languageId 0 text) :: (middle ++ last) ∧
    (∀ e ∈ middle, e.isTold .didChange ∨ e.isTold .didSave) ∧
    (last = [] ∨ last = [notice .didClose (Params.about uri [])])

theorem Chronicle.ordered {x : Session} {log : List Link.Event} (h : Chronicle x log) :
    Ordered x.uri x.languageId log := by
  cases h with
  | unopened _ _ => exact .inl rfl
  | spoken _ _ h =>
      obtain ⟨text, middle, rfl, hmiddle⟩ := h.eq_cons
      exact .inr ⟨text, middle, [], by rw [List.append_nil], hmiddle, .inl rfl⟩
  | ended _ _ h =>
      obtain ⟨text, middle, rfl, hmiddle⟩ := h.eq_cons
      exact .inr ⟨text, middle, _, rfl, hmiddle, .inr rfl⟩

theorem Chronicle.versions_eq {x : Session} {log : List Link.Event} (h : Chronicle x log) :
    log.filterMap Link.Event.changeVersion? = List.range' 1 x.version := by
  cases h with
  | unopened _ hv =>
      rw [hv]
      rfl
  | spoken _ _ h => exact h.versions_eq
  | ended _ _ h =>
      rw [List.filterMap_append, h.versions_eq]
      exact List.append_nil _

theorem Chronicle.changes_eq {x : Session} {log : List Link.Event} (h : Chronicle x log) :
    changes log = x.version := by
  cases h with
  | unopened _ hv => exact hv.symm
  | spoken _ _ h => exact h.changes_eq
  | ended _ _ h =>
      rw [Link.Event.changes_append, h.changes_eq]
      rfl

/-- What is told depends on nothing else of the session. -/
theorem Chronicle.congr {x y : Session} {log : List Link.Event} (h : Chronicle x log)
    (huri : y.uri = x.uri) (hlanguage : y.languageId = x.languageId)
    (hversion : y.version = x.version) (hopened : y.opened = x.opened)
    (hclosed : y.closed = x.closed) : Chronicle y log := by
  cases h with
  | unopened ho hv => exact .unopened (hopened.trans ho) (hversion.trans hv)
  | spoken ho hc h =>
      rw [← huri, ← hlanguage, ← hversion] at h
      exact .spoken (hopened.trans ho) (hclosed.trans hc) h
  | ended ho hc h =>
      rw [← huri, ← hlanguage, ← hversion] at h
      rw [← huri]
      exact .ended (hopened.trans ho) (hclosed.trans hc) h

section Chronicle

variable {x : Session} {log : List Link.Event}

theorem isOpen_iff : x.isOpen = true ↔ x.opened = true ∧ x.closed = false := by
  simp [isOpen]

theorem Chronicle.spoken_of_isOpen (h : Chronicle x log) (hopen : x.isOpen = true) :
    Spoken x.uri x.languageId x.version log := by
  obtain ⟨hopened, hclosed⟩ := isOpen_iff.1 hopen
  cases h with
  | unopened ho _ => cases ho.symm.trans hopened
  | spoken _ _ h => exact h
  | ended _ hc _ => cases hc.symm.trans hclosed

theorem Chronicle.opens (h : Chronicle x log) (hopened : x.opened = false)
    (hclosed : x.closed = false) (text : Text) : Chronicle { x with opened := true }
      (log ++ [notice .didOpen (Params.didOpen x.uri x.languageId x.version text)]) := by
  cases h with
  | unopened _ hv =>
      refine .spoken rfl hclosed ?_
      dsimp only
      rw [hv]
      exact .opened text
  | spoken ho _ _ | ended ho _ _ => cases hopened.symm.trans ho

theorem Chronicle.closes (h : Chronicle x log) (hopen : x.isOpen = true) :
    Chronicle { x with closed := true } (log ++ [notice .didClose (Params.about x.uri [])]) :=
  .ended (isOpen_iff.1 hopen).1 rfl (h.spoken_of_isOpen hopen)

theorem Chronicle.closes_unopened (h : Chronicle x log) (hopened : x.opened = false) :
    Chronicle { x with closed := true } log := by
  cases h with
  | unopened ho hv => exact .unopened ho hv
  | spoken ho _ _ | ended ho _ _ => cases hopened.symm.trans ho

theorem Chronicle.changes (h : Chronicle x log) (hopen : x.isOpen = true)
    (contents : List ContentChange) :
    Chronicle { x with pending := .none, version := x.version + 1 }
      (log ++ [notice .didChange (Params.didChange x.uri (x.version + 1) contents)]) :=
  .spoken (isOpen_iff.1 hopen).1 (isOpen_iff.1 hopen).2
    ((h.spoken_of_isOpen hopen).changed contents)

theorem Chronicle.saves (h : Chronicle x log) (hopen : x.isOpen = true) (text : Option Text) :
    Chronicle x (log ++ [notice .didSave (Params.didSave x.uri text)]) :=
  .spoken (isOpen_iff.1 hopen).1 (isOpen_iff.1 hopen).2 ((h.spoken_of_isOpen hopen).saved text)

end Chronicle

/-- What is told of the document of a session, after what was told before. -/
def Since (base : List Link.Event) (x : Session) (log : List Link.Event) : Prop :=
  ∃ later, log = base ++ later ∧ Chronicle x later

theorem Since.congr {base log : List Link.Event} {x y : Session} (h : Since base x log)
    (hstep : ∀ {later}, Chronicle x later → Chronicle y later) : Since base y log := by
  obtain ⟨later, rfl, h⟩ := h
  exact ⟨later, rfl, hstep h⟩

theorem Since.tell {base log : List Link.Event} {x y : Session} {e : Link.Event}
    (h : Since base x log)
    (hstep : ∀ {later}, Chronicle x later → Chronicle y (later ++ [e])) :
    Since base y (log ++ [e]) := by
  obtain ⟨later, rfl, h⟩ := h
  exact ⟨later ++ [e], List.append_assoc .., hstep h⟩

end Session

end LanguageClient
