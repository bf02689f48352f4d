import LanguageClient.Edit
import LanguageClient.Proofs.Text.Offset
namespace LanguageClient

/-!
# Replacements at once

Several ranges of a text are replaced at once: their bytes give way, and each new text comes in where
its range starts. Where the ranges are apart the order of the replacements is of no account, and
edits that are made one after another, the last range first, come to the same. Each of them is asked
for by positions in the text before, but these lie ahead of all that was changed by then.
-/

/-- A new text for the bytes from `start` to `stop`. -/
structure Replacement where
  start : Nat
  stop : Nat
  new : Text
deriving DecidableEq, Repr

namespace Replacement

/-- The edit that asks for it in a text. -/
def edit (t : Text) (r : Replacement) : TextEdit := ⟨t.range r.start r.stop, r.new⟩

/-- How many bytes the text grows by. -/
def growth (r : Replacement) : Int := r.new.byteLength - (r.stop - r.start : Int)

/-- How many bytes the text grows by in all. -/
def growthAll (rs : List Replacement) : Int := rs.foldr (fun r grown => r.growth + grown) 0

theorem growthAll_cons (r : Replacement) (rs : List Replacement) :
    growthAll (r :: rs) = r.growth + growthAll rs := rfl

theorem growthAll_perm {rs qs : List Replacement} (hp : rs.Perm qs) :
    growthAll rs = growthAll qs :=
  hp.foldr_eq' (fun r _ q _ grown => Int.add_left_comm q.growth r.growth grown) 0

/-- Only whole characters give way. -/
structure Fits (t : Text) (r : Replacement) : Prop where
  start : t.IsBoundary r.start
  stop : t.IsBoundary r.stop
  ordered : r.start ≤ r.stop

/-- They start at different offsets and at most touch. -/
def Apart (r q : Replacement) : Prop :=
  r.start ≠ q.start ∧ (r.stop ≤ q.start ∨ q.stop ≤ r.start)

/-- One starts and ends before the other starts. -/
def Before (r q : Replacement) : Prop := r.start < q.start ∧ r.stop ≤ q.start

instance (t : Text) (r : Replacement) : Decidable (r.Fits t) :=
  decidable_of_iff (t.IsBoundary r.start ∧ t.IsBoundary r.stop ∧ r.start ≤ r.stop)
    ⟨fun ⟨hstart, hstop, hle⟩ => ⟨hstart, hstop, hle⟩, fun h => ⟨h.start, h.stop, h.ordered⟩⟩

instance (r q : Replacement) : Decidable (Apart r q) := inferInstanceAs (Decidable (_ ∧ _))

theorem Before.apart {r q : Replacement} (h : r.Before q) : Apart r q :=
  ⟨Nat.ne_of_lt h.1, .inl h.2⟩

theorem Apart.symm {r q : Replacement} (h : Apart r q) : Apart q r := ⟨h.1.symm, h.2.symm⟩

theorem Apart.before_or {t : Text} {r q : Replacement} (h : Apart r q) (hr : r.Fits t)
    (hq : q.Fits t) : r.Before q ∨ q.Before r := by
  have hr := hr.ordered
  have hq := hq.ordered
  obtain ⟨hne, h | h⟩ := h
  · exact .inl ⟨by omega, h⟩
  · exact .inr ⟨by omega, h⟩

end Replacement

/-- Replacements that can be made at once. -/
structure Batch (t : Text) (rs : List Replacement) : Prop where
  fits : ∀ r ∈ rs, r.Fits t
  apart : rs.Pairwise Replacement.Apart

instance (t : Text) (rs : List Replacement) : Decidable (Batch t rs) :=
  decidable_of_iff ((∀ r ∈ rs, r.Fits t) ∧ rs.Pairwise Replacement.Apart)
    ⟨fun ⟨hfits, hapart⟩ => ⟨hfits, hapart⟩, fun h => ⟨h.fits, h.apart⟩⟩

namespace Batch

variable {t : Text} {r : Replacement} {rs qs : List Replacement}

theorem perm (h : Batch t rs) (hp : rs.Perm qs) : Batch t qs :=
  ⟨fun r hr => h.fits r (hp.mem_iff.2 hr), h.apart.perm hp fun h => h.symm⟩

theorem before_or (h : Batch t (r :: rs)) {q : Replacement} (hq : q ∈ rs) :
    r.Before q ∨ q.Before r :=
  (List.rel_of_pairwise_cons h.apart hq).before_or (h.fits r List.mem_cons_self)
    (h.fits q (List.mem_cons_of_mem r hq))

theorem before (h : Batch t (r :: rs)) :
    ∀ q ∈ rs.filter fun q => q.start < r.start, q.Before r := by
  intro q hq
  obtain ⟨hq, hlt⟩ := List.mem_filter.1 hq
  exact (h.before_or hq).resolve_left fun hbefore =>
    Nat.lt_asymm hbefore.1 (of_decide_eq_true hlt)

theorem after (h : Batch t (r :: rs)) : ∀ q ∈ rs.filter fun q => r.start < q.start, r.Before q := by
  intro q hq
  obtain ⟨hq, hlt⟩ := List.mem_filter.1 hq
  exact (h.before_or hq).resolve_right fun hbefore =>
    Nat.lt_asymm hbefore.1 (of_decide_eq_true hlt)

/-- All others start before it or after it. -/
theorem perm_around (h : Batch t (r :: rs)) :
    ((rs.filter fun q => q.start < r.start) ++ r :: rs.filter fun q => r.start < q.start).Perm
      (r :: rs) := by
  have hothers : (rs.filter fun q => r.start < q.start) =
      rs.filter fun q => !decide (q.start < r.start) := by
    refine List.filter_congr fun q hq => ?_
    have hne := (List.rel_of_pairwise_cons h.apart hq).1
    rw [← decide_not, decide_eq_decide]
    omega
  rw [hothers]
  exact List.perm_middle.trans ((List.filter_append_perm _ rs).cons r)

end Batch

/-- The last one in the text comes first. -/
def Descending (rs : List Replacement) : Prop := rs.Pairwise fun r q => q.Before r

/-- Puts the last one in the text first; those that start at one place keep their order. -/
def descend (rs : List Replacement) : List Replacement :=
  rs.mergeSort fun r q => decide (q.start ≤ r.start)

theorem descend_perm (rs : List Replacement) : (descend rs).Perm rs := List.mergeSort_perm rs _

theorem batch_descend {t : Text} {rs : List Replacement} (h : Batch t rs) :
    Batch t (descend rs) :=
  h.perm (descend_perm rs).symm

theorem descending_descend {t : Text} {rs : List Replacement} (h : Batch t rs) :
    Descending (descend rs) := by
  have hbatch := batch_descend h
  have hstarts : (descend rs).Pairwise fun r q => q.start ≤ r.start := by
    refine (List.pairwise_mergeSort (fun a b c hab hbc => ?_) (fun a b => ?_) rs).imp
      of_decide_eq_true
    · rw [decide_eq_true_eq] at hab hbc ⊢
      exact Nat.le_trans hbc hab
    · rw [Bool.or_eq_true, decide_eq_true_eq, decide_eq_true_eq]
      exact Nat.le_total ..
  refine (hstarts.and hbatch.apart).imp_of_mem fun {r q} hr hq ⟨hle, hapart⟩ => ?_
  exact (hapart.before_or (hbatch.fits r hr) (hbatch.fits q hq)).resolve_left fun hbefore =>
    Nat.not_le_of_lt hbefore.1 hle

theorem descend_of_same_start {rs : List Replacement} {o : Nat} (h : ∀ r ∈ rs, r.start = o) :
    descend rs = rs := by
  refine List.mergeSort_of_pairwise (List.pairwise_of_forall_mem_list fun r hr q hq => ?_)
  exact decide_eq_true (Nat.le_of_eq ((h q hq).trans (h r hr).symm))

open Replacement (Apart Before Fits edit growth growthAll growthAll_cons growthAll_perm)

namespace Text

/-- The new texts that come in at an offset. -/
def incoming (rs : List Replacement) (n : Nat) : Text :=
  (rs.filter fun r => r.start = n).flatMap (·.new)

/-- The byte at an offset gives way. -/
def givesWay (rs : List Replacement) (n : Nat) : Bool :=
  rs.any fun r => r.start ≤ n && n < r.stop

/-- Makes replacements in the part of a text that starts at an offset. -/
def replaceFrom (rs : List Replacement) : Nat → Text → Text
  | n, [] => incoming rs n
  | n, c :: t =>
    incoming rs n ++ ((if givesWay rs n then [] else [c]) ++ replaceFrom rs (n + c.utf8Size) t)

def replaceAll (t : Text) (rs : List Replacement) : Text := replaceFrom rs 0 t

theorem incoming_eq_nil {rs : List Replacement} {n : Nat} (h : ∀ r ∈ rs, r.start ≠ n) :
    incoming rs n = [] := by
  have hnone : rs.filter (fun r => r.start = n) = [] := by simpa using h
  rw [incoming, hnone]
  rfl

theorem replaceFrom_nil (n : Nat) (t : Text) : replaceFrom [] n t = t := by
  induction t generalizing n with
  | nil => rfl
  | cons c t ih => simp [replaceFrom, incoming, givesWay, ih]

theorem incoming_append (rs qs : List Replacement) (n : Nat) :
    incoming (rs ++ qs) n = incoming rs n ++ incoming qs n := by
  simp [incoming]

theorem incoming_cons_start (r : Replacement) (rs : List Replacement) :
    incoming (r :: rs) r.start = r.new ++ incoming rs r.start := by
  simp [incoming]

theorem givesWay_append (rs qs : List Replacement) (n : Nat) :
    givesWay (rs ++ qs) n = (givesWay rs n || givesWay qs n) := List.any_append

theorem givesWay_eq_false {rs : List Replacement} {n : Nat}
    (h : ∀ r ∈ rs, n < r.start ∨ r.stop ≤ n) : givesWay rs n = false := by
  simp only [givesWay, List.any_eq_false, Bool.and_eq_true, decide_eq_true_eq]
  intro r hr
  have := h r hr
  omega

/-! ## The order of the replacements -/

/-- At most one new text comes in at an offset. -/
theorem incoming_perm {rs qs : List Replacement} (h : rs.Pairwise Apart) (hp : rs.Perm qs)
    (n : Nat) : incoming rs n = incoming qs n := by
  have hfilter := hp.filter fun r => decide (r.start = n)
  have hstart : ∀ r ∈ rs.filter fun r => r.start = n, r.start = n := fun r hr =>
    of_decide_eq_true (List.mem_filter.1 hr).2
  have hapart : (rs.filter fun r => r.start = n).Pairwise Apart := h.filter _
  unfold incoming
  match hrs : rs.filter fun r => r.start = n with
  | [] =>
    rw [hrs] at hfilter
    rw [hrs, ← hfilter.nil_eq]
  | [r] =>
    rw [hrs] at hfilter
    rw [hrs, ← List.singleton_perm.1 hfilter]
  | r :: q :: _ =>
    rw [hrs] at hstart hapart
    have hne := (List.rel_of_pairwise_cons hapart List.mem_cons_self).1
    rw [hstart r (by simp), hstart q (by simp)] at hne
    exact absurd rfl hne

theorem replaceFrom_perm {rs qs : List Replacement} (h : rs.Pairwise Apart) (hp : rs.Perm qs)
    (n : Nat) (t : Text) : replaceFrom rs n t = replaceFrom qs n t := by
  have hgives (n : Nat) : givesWay rs n = givesWay qs n := hp.any_eq
  induction t generalizing n with
  | nil => exact incoming_perm h hp n
  | cons c t ih => rw [replaceFrom, replaceFrom, incoming_perm h hp, hgives, ih]

theorem replaceAll_perm {t : Text} {rs qs : List Replacement} (h : Batch t rs) (hp : rs.Perm qs) :
    replaceAll t rs = replaceAll t qs :=
  replaceFrom_perm h.apart hp 0 t

/-! ## One replacement among others -/

section Splitting

variable {earlier others later : List Replacement} {r : Replacement}

/-- Up to an offset only those count that start before it. -/
theorem replaceFrom_append {n : Nat} {x : Text} (y : Text)
    (hearlier : ∀ q ∈ earlier, q.start < n + byteLength x)
    (hothers : ∀ q ∈ others, n + byteLength x ≤ q.start) :
    replaceFrom (earlier ++ others) n (x ++ y) =
      replaceFrom earlier n x ++ replaceFrom (earlier ++ others) (n + byteLength x) y := by
  induction x generalizing n with
  | nil =>
    have hnone : incoming earlier n = [] :=
      incoming_eq_nil fun q hq => Nat.ne_of_lt (hearlier q hq)
    simp [replaceFrom, hnone]
  | cons c x ih =>
    have hc := c.utf8Size_pos
    simp only [byteLength_cons, ← Nat.add_assoc] at hearlier hothers ⊢
    have hincoming : incoming others n = [] := incoming_eq_nil fun q hq => by
      have := hothers q hq
      omega
    have hgives : givesWay others n = false := givesWay_eq_false fun q hq => by
      have := hothers q hq
      omega
    rw [List.cons_append, replaceFrom, replaceFrom, incoming_append, givesWay_append, hincoming,
      hgives, ih hearlier hothers]
    simp

/-- What starts and ends before an offset does not count from there on. -/
theorem replaceFrom_of_earlier {n : Nat} (hearlier : ∀ q ∈ earlier, q.start < n ∧ q.stop ≤ n)
    (t : Text) : replaceFrom (earlier ++ others) n t = replaceFrom others n t := by
  have hincoming : incoming earlier n = [] :=
    incoming_eq_nil fun q hq => Nat.ne_of_lt (hearlier q hq).1
  induction t generalizing n with
  | nil => rw [replaceFrom, replaceFrom, incoming_append, hincoming, List.nil_append]
  | cons c t ih =>
    have hgives : givesWay earlier n = false :=
      givesWay_eq_false fun q hq => .inr (hearlier q hq).2
    have hnext : ∀ q ∈ earlier, q.start < n + c.utf8Size ∧ q.stop ≤ n + c.utf8Size := fun q hq => by
      have := hearlier q hq
      omega
    have hrest : incoming earlier (n + c.utf8Size) = [] :=
      incoming_eq_nil fun q hq => Nat.ne_of_lt (hnext q hq).1
    rw [replaceFrom, replaceFrom, incoming_append, givesWay_append, hincoming, hgives,
      ih hnext hrest]
    simp

/-- Past its start, a range only gives way. -/
theorem replaceFrom_within {n : Nat} {m : Text} (hstart : r.start < n)
    (hstop : n + byteLength m = r.stop) (hlater : ∀ q ∈ later, r.Before q) (z : Text) :
    replaceFrom (r :: later) n (m ++ z) = replaceFrom later r.stop z := by
  induction m generalizing n with
  | nil =>
    obtain rfl : n = r.stop := hstop
    have hpast : ∀ q ∈ [r], q.start < r.stop ∧ q.stop ≤ r.stop :=
      List.forall_mem_singleton.2 ⟨hstart, Nat.le_refl _⟩
    exact replaceFrom_of_earlier hpast z
  | cons c m ih =>
    have hc := c.utf8Size_pos
    rw [byteLength_cons] at hstop
    have hincoming : incoming (r :: later) n = [] := by
      refine incoming_eq_nil (List.forall_mem_cons.2 ⟨Nat.ne_of_lt hstart, fun q hq => ?_⟩)
      have := (hlater q hq).2
      omega
    have hgives : givesWay (r :: later) n = true := by
      have hr : (decide (r.start ≤ n) && decide (n < r.stop)) = true := by
        rw [Bool.and_eq_true, decide_eq_true_eq, decide_eq_true_eq]
        omega
      simp [givesWay, hr]
    rw [List.cons_append, replaceFrom, hincoming, hgives, ih (by omega) (by omega)]
    simp

theorem replaceFrom_start {m : Text} (hstop : r.start + byteLength m = r.stop)
    (hlater : ∀ q ∈ later, r.Before q) (z : Text) :
    replaceFrom (r :: later) r.start (m ++ z) = r.new ++ replaceFrom later r.stop z := by
  cases m with
  | nil =>
    -- Nothing gives way, so what stands at the offset is kept or not as the others have it.
    have hempty : r.stop = r.start := hstop.symm
    rw [hempty, List.nil_append]
    cases z with
    | nil => rw [replaceFrom, replaceFrom, incoming_cons_start]
    | cons c z =>
      have hgives : givesWay (r :: later) r.start = givesWay later r.start := by
        simp [givesWay, hempty]
      have hc := c.utf8Size_pos
      have hpast : ∀ q ∈ [r], q.start < r.start + c.utf8Size ∧ q.stop ≤ r.start + c.utf8Size :=
        List.forall_mem_singleton.2 (by omega)
      have hrest : replaceFrom (r :: later) (r.start + c.utf8Size) z =
          replaceFrom later (r.start + c.utf8Size) z := replaceFrom_of_earlier hpast z
      rw [replaceFrom, replaceFrom, incoming_cons_start, hgives, hrest]
      simp
  | cons c m =>
    have hc := c.utf8Size_pos
    rw [byteLength_cons] at hstop
    have hincoming : incoming (r :: later) r.start = r.new := by
      rw [incoming_cons_start, incoming_eq_nil fun q hq => Nat.ne_of_gt (hlater q hq).1,
        List.append_nil]
    have hgives : givesWay (r :: later) r.start = true := by
      have hr : decide (r.start < r.stop) = true := decide_eq_true (by omega)
      simp [givesWay, hr]
    rw [List.cons_append, replaceFrom, hincoming, hgives,
      replaceFrom_within (by omega) (by omega) hlater]
    simp

/-- The new text stands between what becomes of the text before its range and of that after it. -/
theorem replaceAll_split {x m z : Text} (hstart : byteLength x = r.start)
    (hstop : byteLength x + byteLength m = r.stop) (hearlier : ∀ q ∈ earlier, q.Before r)
    (hlater : ∀ q ∈ later, r.Before q) :
    replaceAll (x ++ m ++ z) (earlier ++ r :: later) =
      replaceAll x earlier ++ r.new ++ replaceFrom later r.stop z := by
  have hbefore : ∀ q ∈ earlier, q.start < 0 + byteLength x := fun q hq => by
    have := (hearlier q hq).1
    omega
  have hafter : ∀ q ∈ r :: later, 0 + byteLength x ≤ q.start := by
    refine List.forall_mem_cons.2 ⟨by omega, fun q hq => ?_⟩
    have := (hlater q hq).1
    omega
  unfold replaceAll
  rw [List.append_assoc x, replaceFrom_append _ hbefore hafter, Nat.zero_add, hstart,
    replaceFrom_of_earlier hearlier, replaceFrom_start (by omega) hlater, List.append_assoc]

end Splitting

/-! ## The last replacement -/

section Descending

variable {rs : List Replacement} {r : Replacement} {x m z : Text}

/-- The others are made in the text before it. -/
theorem fits_of_before (h : ∀ q ∈ rs, q.Fits (x ++ z)) (hbefore : ∀ q ∈ rs, q.Before r)
    (hstart : byteLength x = r.start) : ∀ q ∈ rs, q.Fits x := by
  intro q hq
  obtain ⟨hqstart, hqstop⟩ := hbefore q hq
  rw [← hstart] at hqstart hqstop
  exact ⟨isBoundary_of_append (h q hq).start (Nat.le_of_lt hqstart),
    isBoundary_of_append (h q hq).stop hqstop, (h q hq).ordered⟩

theorem replaceAll_last (h : Descending (r :: rs)) (hstart : byteLength x = r.start)
    (hstop : byteLength x + byteLength m = r.stop) :
    replaceAll (x ++ m ++ z) (r :: rs) = replaceAll x rs ++ r.new ++ z := by
  have hbefore := (List.pairwise_cons.1 h).1
  have hapart : (r :: rs).Pairwise Apart := h.imp fun hbefore => hbefore.apart.symm
  have hmoved : replaceAll (x ++ m ++ z) (r :: rs) = replaceAll (x ++ m ++ z) (rs ++ [r]) :=
    replaceFrom_perm hapart (List.perm_append_singleton r rs).symm 0 _
  rw [hmoved, replaceAll_split hstart hstop hbefore (List.forall_mem_nil _), replaceFrom_nil]

/-- Induction that takes the last replacement off, and the text from its start on with it. -/
theorem induction_descending {P : Text → List Replacement → Prop} (nil : ∀ x, P x [])
    (cons : ∀ {r rs x m z}, Descending (r :: rs) → byteLength x = r.start →
      byteLength x + byteLength m = r.stop → P x rs → P (x ++ m ++ z) (r :: rs))
    (h : Descending rs) (hfits : ∀ r ∈ rs, r.Fits x) : P x rs := by
  induction rs generalizing x with
  | nil => exact nil x
  | cons r rs ih =>
    obtain ⟨hr, hrs⟩ := List.forall_mem_cons.1 hfits
    obtain ⟨hbefore, hlast⟩ := List.pairwise_cons.1 h
    obtain ⟨x, m, z, rfl, hstart, hstop⟩ := exists_cuts hr.start hr.stop hr.ordered
    rw [List.append_assoc] at hrs
    exact cons h hstart hstop (ih hlast (fits_of_before hrs hbefore hstart))

theorem byteLength_replaceAll_of_descending (h : Descending rs) (hfits : ∀ r ∈ rs, r.Fits x) :
    (byteLength (replaceAll x rs) : Int) = byteLength x + growthAll rs := by
  refine induction_descending (P := fun x rs => (byteLength (replaceAll x rs) : Int) =
    byteLength x + growthAll rs) (fun x => ?_) (fun h hstart hstop ih => ?_) h hfits
  · rw [replaceAll, replaceFrom_nil]
    exact (Int.add_zero _).symm
  · rw [replaceAll_last h hstart hstop, growthAll_cons, growth]
    simp only [byteLength_append, Int.natCast_add]
    omega

theorem byteLength_replaceAll (h : Batch x rs) :
    (byteLength (replaceAll x rs) : Int) = byteLength x + growthAll rs := by
  have hlength := byteLength_replaceAll_of_descending (descending_descend h) (batch_descend h).fits
  rwa [replaceAll_perm (batch_descend h) (descend_perm rs), growthAll_perm (descend_perm rs)]
    at hlength

end Descending

/-! ## A replacement and those around it -/

section Around

variable {t : Text} {r : Replacement} {rs : List Replacement}

/-- What becomes of the text before a replacement. -/
def replacedBefore (t : Text) (r : Replacement) (rs : List Replacement) : Text :=
  replaceAll (t.takeBytes r.start) (rs.filter fun q => q.start < r.start)

/-- What becomes of the text after a replacement. -/
def replacedAfter (t : Text) (r : Replacement) (rs : List Replacement) : Text :=
  replaceFrom (rs.filter fun q => r.start < q.start) r.stop (t.dropBytes r.stop)

theorem replaceAll_cons (h : Batch t (r :: rs)) :
    replaceAll t (r :: rs) = replacedBefore t r rs ++ r.new ++ replacedAfter t r rs := by
  have hr := h.fits r List.mem_cons_self
  obtain ⟨x, m, z, rfl, hx, hm⟩ := exists_cuts hr.start hr.stop hr.ordered
  have hbefore : takeBytes (x ++ m ++ z) r.start = x := by
    rw [← hx, List.append_assoc, takeBytes_byteLength]
  have hafter : dropBytes (x ++ m ++ z) r.stop = z := by
    rw [← hm, ← byteLength_append, dropBytes_byteLength]
  rw [replacedBefore, replacedAfter, hbefore, hafter, ← replaceAll_split hx hm h.before h.after]
  exact replaceAll_perm h h.perm_around.symm

theorem byteLength_replacedBefore (h : Batch t (r :: rs)) :
    (byteLength (replacedBefore t r rs) : Int) =
      r.start + growthAll (rs.filter fun q => q.start < r.start) := by
  have hstart : byteLength (t.takeBytes r.start) = r.start := (h.fits r List.mem_cons_self).start
  have hfits : ∀ q ∈ rs.filter fun q => q.start < r.start,
      q.Fits (t.takeBytes r.start ++ t.dropBytes r.start) := fun q hq => by
    rw [takeBytes_append_dropBytes]
    exact h.fits q (List.mem_cons_of_mem r (List.mem_filter.1 hq).1)
  have hbatch : Batch (t.takeBytes r.start) (rs.filter fun q => q.start < r.start) :=
    ⟨fits_of_before hfits h.before hstart, (List.pairwise_cons.1 h.apart).2.filter _⟩
  have hlength := byteLength_replaceAll hbatch
  rwa [hstart] at hlength

end Around

end Text

/-! ## Edits one after another -/

namespace TextEdit

/-- The text once the edit is made. -/
def applied (t : Text) (e : TextEdit) : Text :=
  t.splice (t.offsets e.range).1 (t.offsets e.range).2 e.newText

end TextEdit

namespace Text

/-- Positions in a text lead to the same bytes in any other that starts alike. -/
theorem offsets_range (x m y z : Text) :
    offsets (x ++ m ++ z) (range (x ++ m ++ y) (byteLength x) (byteLength x + byteLength m)) =
      (byteLength x, byteLength x + byteLength m) := by
  have hstart : offset (x ++ m ++ z) (position (x ++ m ++ y) (byteLength x)) = byteLength x := by
    rw [List.append_assoc x m y, position_byteLength, List.append_assoc, offset_position]
  have hstop : offset (x ++ m ++ z) (position (x ++ m ++ y) (byteLength x + byteLength m)) =
      byteLength x + byteLength m := by
    rw [← byteLength_append, position_byteLength, offset_position]
  simp only [offsets, range, hstart, hstop]
  rw [Nat.min_eq_left (Nat.le_add_right _ _), Nat.max_eq_right (Nat.le_add_right _ _)]

theorem offsets_edit {t : Text} {r : Replacement} (h : r.Fits t) :
    t.offsets (r.edit t).range = (r.start, r.stop) := by
  simp only [offsets, edit, range, offset_position_of_isBoundary h.start,
    offset_position_of_isBoundary h.stop]
  rw [Nat.min_eq_left h.ordered, Nat.max_eq_right h.ordered]

theorem applied_edit {r : Replacement} {x m y z : Text} (hstart : byteLength x = r.start)
    (hstop : byteLength x + byteLength m = r.stop) :
    TextEdit.applied (x ++ m ++ z) (r.edit (x ++ m ++ y)) = x ++ r.new ++ z := by
  have hoffsets := offsets_range x m y z
  rw [hstop, hstart] at hoffsets
  simp only [TextEdit.applied, Replacement.edit, hoffsets]
  rw [← hstop, ← hstart, splice_append]

/-- Each edit is made ahead of all that was changed before, so its positions still hold. -/
theorem foldl_applied {rs : List Replacement} {x : Text} (h : Descending rs)
    (hfits : ∀ r ∈ rs, r.Fits x) (y z : Text) :
    (rs.map (edit (x ++ y))).foldl TextEdit.applied (x ++ z) = replaceAll x rs ++ z := by
  refine induction_descending (P := fun x rs => ∀ y z, (rs.map (edit (x ++ y))).foldl
    TextEdit.applied (x ++ z) = replaceAll x rs ++ z) (fun x y z => ?_)
    (fun {r rs x m b} h hstart hstop ih y z => ?_) h hfits y z
  · rw [replaceAll, replaceFrom_nil]
    rfl
  · have hothers := ih (m ++ (b ++ y)) (r.new ++ (b ++ z))
    rw [List.map_cons, List.foldl_cons, List.append_assoc (x ++ m) b y,
      List.append_assoc (x ++ m) b z, applied_edit hstart hstop, replaceAll_last h hstart hstop]
    simpa only [List.append_assoc] using hothers

theorem foldl_applied_descend {t : Text} {rs : List Replacement} (h : Batch t rs) :
    ((descend rs).map (edit t)).foldl TextEdit.applied t = replaceAll t rs := by
  have hmade := foldl_applied (descending_descend h) (batch_descend h).fits [] []
  rw [List.append_nil, List.append_nil] at hmade
  rw [hmade, replaceAll_perm (batch_descend h) (descend_perm rs)]

/-- Insertions at one place: each comes in ahead of those that were made before. -/
theorem foldl_applied_insertions (x y z : Text) (news : List Text) :
    (news.map fun new => edit (x ++ y) ⟨byteLength x, byteLength x, new⟩).foldl TextEdit.applied
      (x ++ z) = x ++ news.reverse.flatten ++ z := by
  induction news generalizing z with
  | nil => simp
  | cons new news ih =>
    have hmade := applied_edit (r := ⟨byteLength x, byteLength x, new⟩) (m := []) (y := y) (z := z)
      rfl rfl
    rw [List.append_nil] at hmade
    rw [List.map_cons, List.foldl_cons, hmade, List.append_assoc, ih]
    simp

end Text

end LanguageClient
