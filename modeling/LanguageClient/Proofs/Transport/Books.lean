import LanguageClient.Proofs.Transport.Setting
import Mathlib.Data.List.Nodup
import Mathlib.Logic.Function.Basic
namespace LanguageClient

/-!
# The books

The requests of a link that wait for an answer. Every one of them is at stake for one task, and the
promise of a request that does not wait any more was kept with what it came to. Ids only go up.
-/

open Function (update)

namespace Wiring

theorem outcome_keep_ne {w : Wiring} {p q : PromiseId} (h : q ≠ p) (o : Except ClientError Json) :
    (w.keep p o).outcome q = w.outcome q := by
  have : (w.promises.update p fun _ => ((w.promises.get p).keep o).1).get? q =
      w.promises.get? q := Store.get?_update_ne _ _ (Ne.symm h)
  exact congrArg (Option.bind · Promise.outcome) this

theorem length_keep (w : Wiring) (p : PromiseId) (o : Except ClientError Json) :
    (w.keep p o).promises.entries.length = w.promises.entries.length :=
  List.length_modify ..

theorem outcome_keep_same {w : Wiring} {p : PromiseId} (h : p < w.promises.entries.length)
    (o : Except ClientError Json) : (w.keep p o).outcome p = some ((w.outcome p).getD o) := by
  have hget : w.promises.get? p = some w.promises.entries[p] := List.getElem?_eq_getElem h
  have : (w.promises.update p fun _ => ((w.promises.get p).keep o).1).get? p =
      (w.promises.get? p).map fun _ => ((w.promises.get p).keep o).1 :=
    Store.get?_update_same _ _ _
  unfold outcome
  rw [show (w.keep p o).promises.get? p = _ from this, Store.get, hget]
  cases ho : w.promises.entries[p].outcome with
  | none => simp [Promise.keep, ho]
  | some o' => simp [Promise.keep, ho]

theorem outcome_keep_of_some {w : Wiring} {p q : PromiseId} {o' : Except ClientError Json}
    (h : w.outcome q = some o') (o : Except ClientError Json) :
    (w.keep p o).outcome q = some o' := by
  by_cases hq : q = p
  · subst hq
    have hlt : q < w.promises.entries.length := by
      by_contra hge
      have hnone : w.promises.get? q = none := List.getElem?_eq_none (Nat.le_of_not_lt hge)
      simp [outcome, hnone] at h
    rw [outcome_keep_same hlt, h]
    rfl
  · rw [outcome_keep_ne hq, h]

/-- Keeping promises one after another with the same outcome. -/
def keepAll (w : Wiring) (o : Except ClientError Json) (entries : List (Int × PromiseId)) : Wiring :=
  entries.foldl (fun w e => w.keep e.2 o) w

theorem keepAll_rest (w : Wiring) (o : Except ClientError Json)
    (entries : List (Int × PromiseId)) :
    (w.keepAll o entries).links = w.links ∧ (w.keepAll o entries).pipes = w.pipes ∧
      (w.keepAll o entries).traffic = w.traffic := by
  induction entries generalizing w with
  | nil => exact ⟨rfl, rfl, rfl⟩
  | cons e entries ih => exact ih (w.keep e.2 o)

theorem length_keepAll (w : Wiring) (o : Except ClientError Json)
    (entries : List (Int × PromiseId)) :
    (w.keepAll o entries).promises.entries.length = w.promises.entries.length := by
  induction entries generalizing w with
  | nil => rfl
  | cons e entries ih => exact (ih (w.keep e.2 o)).trans (length_keep w e.2 o)

theorem outcome_keepAll_of_some {w : Wiring} {q : PromiseId} {o o' : Except ClientError Json}
    (h : w.outcome q = some o') (entries : List (Int × PromiseId)) :
    (w.keepAll o entries).outcome q = some o' := by
  induction entries generalizing w with
  | nil => exact h
  | cons e entries ih => exact ih (outcome_keep_of_some h o)

theorem outcome_keepAll {w : Wiring} {e : Int × PromiseId} {o : Except ClientError Json}
    {entries : List (Int × PromiseId)} (he : e ∈ entries)
    (hlt : e.2 < w.promises.entries.length) (hnone : w.outcome e.2 = none) :
    (w.keepAll o entries).outcome e.2 = some o := by
  induction entries generalizing w with
  | nil => exact nomatch he
  | cons f entries ih =>
      by_cases hf : e.2 = f.2
      · refine outcome_keepAll_of_some ?_ entries
        rw [hf] at hlt hnone ⊢
        rw [outcome_keep_same hlt, hnone]
        rfl
      · rcases List.mem_cons.1 he with rfl | he
        · exact absurd rfl hf
        · exact ih he (by rwa [length_keep]) (by rwa [outcome_keep_ne hf])

theorem failPending_eq (w : Wiring) (l : LinkId) (reason : String) :
    w.failPending l reason =
      (w.updateLink l fun link => { link with pending := [] }).keepAll
        (.error (.disconnected reason)) (w.link l).pending := rfl

theorem outcome_newPromise {w : Wiring} {q : PromiseId} (h : q < w.promises.entries.length) :
    w.newPromise.1.outcome q = w.outcome q := by
  have : w.newPromise.1.promises.get? q = w.promises.get? q := List.getElem?_append_left h
  exact congrArg (Option.bind · Promise.outcome) this

theorem outcome_newPromise_new (w : Wiring) :
    w.newPromise.1.outcome w.promises.entries.length = none := by
  have : w.newPromise.1.promises.get? w.promises.entries.length = some Promise.new :=
    Store.get?_add_new w.promises Promise.new
  unfold outcome
  rw [this]
  rfl

theorem lt_of_outcome {w : Wiring} {q : PromiseId} {o : Except ClientError Json}
    (h : w.outcome q = some o) : q < w.promises.entries.length := by
  by_contra hge
  have hnone : w.promises.get? q = none := List.getElem?_eq_none (Nat.le_of_not_lt hge)
  simp [outcome, hnone] at h

end Wiring

namespace Link

/-- What can become of a link: it is never connected again, ids go up, and no request is entered
under an old id or after the end. -/
structure Onward (x y : Link) : Prop where
  nextId_le : x.nextId ≤ y.nextId
  connected : x.connected = false → y.connected = false
  closing : x.closing = true → y.closing = true
  pending {e : Int × PromiseId} : e ∈ y.pending → e.1 < x.nextId → e ∈ x.pending
  settled {e : Int × PromiseId} : x.connected = false → e ∈ y.pending → e ∈ x.pending

namespace Onward

theorem refl (x : Link) : Onward x x := ⟨Nat.le_refl _, id, id, fun h _ => h, fun _ h => h⟩

theorem trans {x y z : Link} (h : Onward x y) (k : Onward y z) : Onward x z where
  nextId_le := Nat.le_trans h.nextId_le k.nextId_le
  connected hx := k.connected (h.connected hx)
  closing hx := k.closing (h.closing hx)
  pending he hlt := by
    have hle : (x.nextId : Int) ≤ y.nextId := Int.ofNat_le.2 h.nextId_le
    exact h.pending (k.pending he (Int.lt_of_lt_of_le hlt hle)) hlt
  settled hx he := h.settled hx (k.settled (h.connected hx) he)

/-- Fewer requests, and no new one. -/
theorem of_subset {x y : Link} (hnext : y.nextId = x.nextId)
    (hconnected : x.connected = false → y.connected = false)
    (hclosing : x.closing = true → y.closing = true) (hpending : y.pending ⊆ x.pending) :
    Onward x y :=
  ⟨Nat.le_of_eq hnext.symm, hconnected, hclosing, fun h _ => hpending h, fun _ h => hpending h⟩

theorem enter {x : Link} (hconnected : x.connected = true) (promise : PromiseId) :
    Onward x (x.enter promise).1 where
  nextId_le := Nat.le_succ _
  connected hx := absurd hx (by simp [hconnected])
  closing hx := hx
  pending he hlt := by
    rcases List.mem_append.1 he with he | he
    · exact he
    · obtain rfl := List.mem_singleton.1 he
      exact absurd hlt (Int.lt_irrefl _)
  settled hx := absurd hx (by simp [hconnected])

end Onward

namespace Setting

variable {W J : Type} [HasWiring W] (S : Setting W J)

/-- The requests that wait, and the requests that are at stake for tasks. -/
structure Books (past : List (Moment W J)) (stakes : TaskId → Option (Int × PromiseId)) (x : Link)
    (w : Wiring) : Prop where
  ids : (x.pending.map Prod.fst).Nodup
  promises : (x.pending.map Prod.snd).Nodup
  lt_length {e : Int × PromiseId} : e ∈ x.pending → e.2 < w.promises.entries.length
  unkept {e : Int × PromiseId} : e ∈ x.pending → w.outcome e.2 = none
  staked {e : Int × PromiseId} : e ∈ x.pending → ∃ t, stakes t = some e
  stake {t : TaskId} {e : Int × PromiseId} : stakes t = some e → e ∈ x.pending ∨
    ∃ o, w.outcome e.2 = some o ∧ ∃ m ∈ past, S.Settles e.1 o m
  apart {t u : TaskId} {e f : Int × PromiseId} :
    stakes t = some e → stakes u = some f → e.1 = f.1 → t = u
  lt_nextId {t : TaskId} {e : Int × PromiseId} : stakes t = some e → e.1 < x.nextId
  entered {t : TaskId} {e : Int × PromiseId} : stakes t = some e → ∃ m ∈ past, S.Enters t e.1 m

variable {S} {past : List (Moment W J)} {stakes : TaskId → Option (Int × PromiseId)} {x y : Link}
  {w v : Wiring} {t : TaskId}

namespace Books

theorem entered_append (h : S.Books past stakes x w) (moments : List (Moment W J)) {t : TaskId}
    {e : Int × PromiseId} (ht : stakes t = some e) : ∃ m ∈ past ++ moments, S.Enters t e.1 m := by
  obtain ⟨m, hm, he⟩ := h.entered ht
  exact ⟨m, List.mem_append_left _ hm, he⟩

/-- Nothing has happened in the books. -/
theorem same (h : S.Books past stakes x w) (moments : List (Moment W J))
    (hpending : y.pending = x.pending) (hnext : y.nextId = x.nextId)
    (hlength : w.promises.entries.length ≤ v.promises.entries.length)
    (hunkept : ∀ e ∈ x.pending, v.outcome e.2 = w.outcome e.2)
    (hkept : ∀ p o, w.outcome p = some o → v.outcome p = some o) :
    S.Books (past ++ moments) stakes y v where
  ids := hpending ▸ h.ids
  promises := hpending ▸ h.promises
  lt_length he := Nat.lt_of_lt_of_le (h.lt_length (hpending ▸ he)) hlength
  unkept he := by
    rw [hpending] at he
    rw [hunkept _ he, h.unkept he]
  staked he := h.staked (hpending ▸ he)
  stake ht := by
    rw [hpending]
    refine (h.stake ht).imp id fun ⟨o, ho, m, hm, hs⟩ => ?_
    exact ⟨o, hkept _ _ ho, m, List.mem_append_left _ hm, hs⟩
  apart := h.apart
  lt_nextId ht := hnext ▸ h.lt_nextId ht
  entered := h.entered_append moments

/-- Only the requests, the next id and the promises matter. -/
theorem congr (h : S.Books past stakes x w) (hpending : y.pending = x.pending)
    (hnext : y.nextId = x.nextId) (hpromises : v.promises = w.promises) :
    S.Books past stakes y v := by
  have houtcome (p : PromiseId) : v.outcome p = w.outcome p := by
    unfold Wiring.outcome
    rw [hpromises]
  have := h.same [] (v := v) hpending hnext (Nat.le_of_eq (by rw [hpromises])) (fun e _ => houtcome e.2)
    fun p o ho => (houtcome p).trans ho
  rwa [List.append_nil] at this

theorem eq_of_fst (h : S.Books past stakes x w) {e f : Int × PromiseId} (he : e ∈ x.pending)
    (hf : f ∈ x.pending) (hef : e.1 = f.1) : e = f :=
  List.inj_on_of_nodup_map h.ids he hf hef

theorem eq_of_snd (h : S.Books past stakes x w) {e f : Int × PromiseId} (he : e ∈ x.pending)
    (hf : f ∈ x.pending) (hef : e.2 = f.2) : e = f :=
  List.inj_on_of_nodup_map h.promises he hf hef

theorem lt_of_mem (h : S.Books past stakes x w) {e : Int × PromiseId} (he : e ∈ x.pending) :
    e.1 < x.nextId := by
  obtain ⟨t, ht⟩ := h.staked he
  exact h.lt_nextId ht

/-- A task has entered a request. -/
theorem enter (h : S.Books past stakes x w) {m : Moment W J} (ht : stakes t = none)
    (hm : S.Enters t x.nextId m) :
    S.Books (past ++ [m]) (update stakes t (some (x.nextId, w.promises.entries.length)))
      (x.enter w.promises.entries.length).1 w.newPromise.1 := by
  have hlength : w.newPromise.1.promises.entries.length = w.promises.entries.length + 1 := by
    simp [Wiring.newPromise, Store.add]
  have hmem {e : Int × PromiseId} :
      e ∈ (x.enter w.promises.entries.length).1.pending ↔
        e ∈ x.pending ∨ e = ((x.nextId : Int), w.promises.entries.length) := by
    simp [Link.enter]
  have hstake {u : TaskId} {e : Int × PromiseId}
      (hu : update stakes t (some (x.nextId, w.promises.entries.length)) u = some e) :
      stakes u = some e ∨ u = t ∧ e = ((x.nextId : Int), w.promises.entries.length) := by
    by_cases hut : u = t
    · subst hut
      simp only [Function.update_self, Option.some.injEq] at hu
      exact .inr ⟨rfl, hu.symm⟩
    · rw [Function.update_of_ne hut] at hu
      exact .inl hu
  refine ⟨?_, ?_, ?_, ?_, ?_, ?_, ?_, ?_, ?_⟩
  · simp only [Link.enter, List.map_append, List.map_cons, List.map_nil]
    rw [List.nodup_append]
    refine ⟨h.ids, List.nodup_singleton _, ?_⟩
    rintro _ hi _ hj rfl
    obtain ⟨e, he, rfl⟩ := List.mem_map.1 hi
    exact absurd (h.lt_of_mem he) (by simp [List.mem_singleton.1 hj])
  · simp only [Link.enter, List.map_append, List.map_cons, List.map_nil]
    rw [List.nodup_append]
    refine ⟨h.promises, List.nodup_singleton _, ?_⟩
    rintro _ hi _ hj rfl
    obtain ⟨e, he, rfl⟩ := List.mem_map.1 hi
    exact absurd (h.lt_length he) (by simp [List.mem_singleton.1 hj])
  · intro e he
    rw [hlength]
    rcases hmem.1 he with he | rfl
    · exact Nat.lt_succ_of_lt (h.lt_length he)
    · exact Nat.lt_succ_self _
  · intro e he
    rcases hmem.1 he with he | rfl
    · rw [Wiring.outcome_newPromise (h.lt_length he), h.unkept he]
    · exact w.outcome_newPromise_new
  · intro e he
    rcases hmem.1 he with he | rfl
    · obtain ⟨u, hu⟩ := h.staked he
      refine ⟨u, ?_⟩
      rw [Function.update_of_ne, hu]
      rintro rfl
      simp [ht] at hu
    · exact ⟨t, Function.update_self ..⟩
  · intro u e hu
    rw [hmem]
    rcases hstake hu with hu | ⟨rfl, rfl⟩
    · rcases h.stake hu with he | ⟨o, ho, m', hm', hs⟩
      · exact .inl (.inl he)
      · refine .inr ⟨o, ?_, m', List.mem_append_left _ hm', hs⟩
        rw [Wiring.outcome_newPromise (Wiring.lt_of_outcome ho), ho]
    · exact .inl (.inr rfl)
  · intro u r e f hu hr hef
    rcases hstake hu with hold | ⟨rfl, rfl⟩
    · rcases hstake hr with hold' | ⟨rfl, rfl⟩
      · exact h.apart hold hold' hef
      · exact absurd (h.lt_nextId hold) (by simp [hef])
    · rcases hstake hr with hold' | ⟨rfl, rfl⟩
      · exact absurd (h.lt_nextId hold') (by simp [← hef])
      · rfl
  · intro u e hu
    simp only [Link.enter]
    rcases hstake hu with hu | ⟨rfl, rfl⟩
    · have := h.lt_nextId hu
      omega
    · omega
  · intro u e hu
    rcases hstake hu with hu | ⟨rfl, rfl⟩
    · exact h.entered_append [m] hu
    · exact ⟨m, by simp, hm⟩

theorem mem_forget {id : Int} {e : Int × PromiseId} :
    e ∈ (x.forget id).pending ↔ e ∈ x.pending ∧ e.1 ≠ id := by
  simp [Link.forget]

/-- A task gives its request up or is done with it. -/
theorem forget (h : S.Books past stakes x w) {e : Int × PromiseId} (ht : stakes t = some e) :
    S.Books past (update stakes t none) (x.forget e.1) w := by
  have hstake {u : TaskId} {f : Int × PromiseId} (hu : update stakes t none u = some f) :
      u ≠ t ∧ stakes u = some f := by
    by_cases hut : u = t
    · subst hut
      simp at hu
    · rw [Function.update_of_ne hut] at hu
      exact ⟨hut, hu⟩
  have hsub : ∀ f, f ∈ (x.forget e.1).pending → f ∈ x.pending := fun f hf => (mem_forget.1 hf).1
  refine ⟨?_, ?_, ?_, ?_, ?_, ?_, ?_, ?_, ?_⟩
  · exact h.ids.sublist (List.filter_sublist.map _)
  · exact h.promises.sublist (List.filter_sublist.map _)
  · intro f hf
    exact h.lt_length (hsub f hf)
  · intro f hf
    exact h.unkept (hsub f hf)
  · intro f hf
    obtain ⟨hf, hne⟩ := mem_forget.1 hf
    obtain ⟨u, hu⟩ := h.staked hf
    refine ⟨u, ?_⟩
    rw [Function.update_of_ne, hu]
    rintro rfl
    rw [ht] at hu
    exact hne (congrArg Prod.fst (Option.some.inj hu).symm)
  · intro u f hu
    obtain ⟨hut, hu⟩ := hstake hu
    rw [mem_forget]
    exact (h.stake hu).imp (fun hf => ⟨hf, fun hfe => hut (h.apart hu ht hfe)⟩) id
  · intro u r f g hu hr hfg
    exact h.apart (hstake hu).2 (hstake hr).2 hfg
  · intro u f hu
    exact h.lt_nextId (hstake hu).2
  · intro u f hu
    exact h.entered (hstake hu).2

/-- Some requests have come to an outcome. -/
theorem settle (h : S.Books past stakes x w) {m : Moment W J} {o : Except ClientError Json}
    (hpending : List.Sublist y.pending x.pending) (hnext : y.nextId = x.nextId)
    (hlength : v.promises.entries.length = w.promises.entries.length)
    (hstay : ∀ e ∈ y.pending, v.outcome e.2 = w.outcome e.2)
    (hkept : ∀ p o, w.outcome p = some o → v.outcome p = some o)
    (hsettled : ∀ e ∈ x.pending, e ∉ y.pending → v.outcome e.2 = some o ∧ S.Settles e.1 o m) :
    S.Books (past ++ [m]) stakes y v where
  ids := h.ids.sublist (hpending.map _)
  promises := h.promises.sublist (hpending.map _)
  lt_length he := by
    rw [hlength]
    exact h.lt_length (hpending.subset he)
  unkept he := by
    rw [hstay _ he]
    exact h.unkept (hpending.subset he)
  staked he := h.staked (hpending.subset he)
  stake {t e} ht := by
    rcases h.stake ht with he | ⟨o', ho', m', hm', hs⟩
    · by_cases hy : e ∈ y.pending
      · exact .inl hy
      · exact .inr ⟨o, (hsettled e he hy).1, m, by simp, (hsettled e he hy).2⟩
    · exact .inr ⟨o', hkept _ _ ho', m', List.mem_append_left _ hm', hs⟩
  apart := h.apart
  lt_nextId ht := hnext ▸ h.lt_nextId ht
  entered := h.entered_append [m]

end Books

end Setting

end Link

end LanguageClient
