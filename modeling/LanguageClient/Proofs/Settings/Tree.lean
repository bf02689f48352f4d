import LanguageClient.Settings
import Mathlib.Data.List.Induction
import Mathlib.Data.List.Nodup
namespace LanguageClient

/-!
# Values as trees

An object is known by its leaves, the values other than objects, and by the keys that lead to each.
Two values that have no empty object inside and the same leaves are equal. When leaves are put into
a tree one after the other, those stay at whose place and below whose place nothing comes later.
-/

namespace Settings

/-- A key that is one piece of a dotted key. -/
def IsKey (key : String) : Prop := key ≠ "" ∧ '.' ∉ key.toList

instance (key : String) : Decidable (IsKey key) := inferInstanceAs (Decidable (_ ∧ _))

def IsPath (path : List String) : Prop := ∀ key ∈ path, IsKey key

instance (path : List String) : Decidable (IsPath path) :=
  inferInstanceAs (Decidable (∀ key ∈ path, IsKey key))

theorem isPath_nil : IsPath [] := fun _ h => nomatch h

theorem isPath_cons {key : String} {path : List String} :
    IsPath (key :: path) ↔ IsKey key ∧ IsPath path := List.forall_mem_cons

theorem isPath_append {p q : List String} : IsPath (p ++ q) ↔ IsPath p ∧ IsPath q :=
  List.forall_mem_append

end Settings

namespace Json

open Settings (IsKey IsPath)

/-! ## Members in the order of their keys -/

/-- The members come in the order of their keys, and no two of one key. -/
def Sorted (ms : List (String × Json)) : Prop := ms.Pairwise fun m m' => m.1 < m'.1

instance (ms : List (String × Json)) : Decidable (Sorted ms) :=
  inferInstanceAs (Decidable (List.Pairwise _ _))

theorem mem_of_lookup {key : String} {value : Json} {ms : List (String × Json)}
    (h : lookup key ms = some value) : (key, value) ∈ ms := by
  induction ms with
  | nil => cases h
  | cons m ms ih =>
    obtain ⟨k, v⟩ := m
    rw [lookup] at h
    split at h
    · rename_i heq
      cases h
      exact heq ▸ List.mem_cons_self
    · exact List.mem_cons_of_mem _ (ih h)

theorem lookup_eq_none {key : String} {ms : List (String × Json)} (h : ∀ m ∈ ms, m.1 ≠ key) :
    lookup key ms = none := by
  cases heq : lookup key ms with
  | none => rfl
  | some v => exact absurd rfl (h _ (mem_of_lookup heq))

theorem Sorted.ne_of_mem {m n : String × Json} {ms : List (String × Json)}
    (h : Sorted (m :: ms)) (hn : n ∈ ms) : n.1 ≠ m.1 := by
  intro heq
  have hlt := List.rel_of_pairwise_cons h hn
  rw [heq] at hlt
  exact String.lt_irrefl _ hlt

theorem Sorted.lookup_of_mem {key : String} {value : Json} {ms : List (String × Json)}
    (h : Sorted ms) (hmem : (key, value) ∈ ms) : lookup key ms = some value := by
  induction ms with
  | nil => cases hmem
  | cons m ms ih =>
    rcases List.mem_cons.1 hmem with rfl | hmem
    · exact if_pos rfl
    · have hne := h.ne_of_mem hmem
      rw [lookup, if_neg fun heq => hne heq.symm]
      exact ih (List.Pairwise.of_cons h) hmem

theorem mem_of_mem_putMember {key : String} {value : Json} {ms : List (String × Json)}
    {m : String × Json} (h : m ∈ putMember key value ms) : m = (key, value) ∨ m ∈ ms := by
  induction ms with
  | nil => exact .inl (List.mem_singleton.1 h)
  | cons n ms ih =>
    obtain ⟨k, v⟩ := n
    rw [putMember] at h
    split at h
    · exact (List.mem_cons.1 h).imp_right (List.mem_cons_of_mem _)
    · split at h
      · exact List.mem_cons.1 h
      · rcases List.mem_cons.1 h with rfl | h
        · exact .inr List.mem_cons_self
        · exact (ih h).imp_right (List.mem_cons_of_mem _)

theorem putMember_ne_nil (key : String) (value : Json) (ms : List (String × Json)) :
    putMember key value ms ≠ [] := by
  intro h
  have hlookup := lookup_putMember key value ms key
  rw [h, if_pos rfl] at hlookup
  cases hlookup

theorem Sorted.putMember {ms : List (String × Json)} (h : Sorted ms) (key : String)
    (value : Json) : Sorted (putMember key value ms) := by
  induction ms with
  | nil => exact List.pairwise_singleton _ _
  | cons m ms ih =>
    obtain ⟨k, v⟩ := m
    obtain ⟨hfirst, hrest⟩ := List.pairwise_cons.1 h
    rw [Json.putMember]
    split
    · rename_i heq
      exact List.pairwise_cons.2 ⟨fun n hn => heq ▸ hfirst n hn, hrest⟩
    · rename_i hne
      split
      · rename_i hlt
        refine List.pairwise_cons.2 ⟨?_, h⟩
        intro n hn
        rcases List.mem_cons.1 hn with rfl | hn
        · exact hlt
        · exact String.lt_trans hlt (hfirst n hn)
      · rename_i hge
        refine List.pairwise_cons.2 ⟨?_, ih hrest⟩
        intro n hn
        rcases mem_of_mem_putMember hn with rfl | hn
        · -- the key comes after the first one, being neither equal nor before it
          apply Decidable.byContradiction
          intro hnot
          exact hne (String.le_antisymm (String.not_lt.1 hnot) (String.not_lt.1 hge))
        · exact hfirst n hn

theorem Sorted.nodup {ms : List (String × Json)} (h : Sorted ms) : ms.Nodup := by
  apply List.Pairwise.imp _ h
  intro m m' hlt heq
  exact String.lt_irrefl _ (heq ▸ hlt)

/-- Sorted members are known by what is found under each key. -/
theorem Sorted.ext {ms ns : List (String × Json)} (hm : Sorted ms) (hn : Sorted ns)
    (h : ∀ key, lookup key ms = lookup key ns) : ms = ns := by
  have hperm : ms.Perm ns := by
    rw [List.perm_ext_iff_of_nodup hm.nodup hn.nodup]
    rintro ⟨key, value⟩
    constructor
    · intro hmem
      exact mem_of_lookup ((h key).symm.trans (hm.lookup_of_mem hmem))
    · intro hmem
      exact mem_of_lookup ((h key).trans (hn.lookup_of_mem hmem))
  apply hperm.eq_of_pairwise _ hm hn
  intro a b _ _ hab hba
  exact absurd hba (String.lt_asymm hab)

/-! ## Values and leaves by their paths -/

/-- The value that a list of keys leads to. -/
def valueAt? : List String → Json → Option Json
  | [], j => some j
  | key :: path, j => (j.get? key).bind (valueAt? path)

def isLeaf : Json → Bool
  | obj _ => false
  | _ => true

/-- The leaf that a list of keys leads to. -/
def leafAt? (path : List String) (j : Json) : Option Json := (j.valueAt? path).filter isLeaf

theorem leafAt?_eq_some_iff {path : List String} {j v : Json} :
    leafAt? path j = some v ↔ valueAt? path j = some v ∧ v.isLeaf = true := by
  rw [leafAt?, Option.filter_eq_some_iff]

theorem valueAt?_append (p q : List String) (j : Json) :
    valueAt? (p ++ q) j = (valueAt? p j).bind (valueAt? q) := by
  induction p generalizing j with
  | nil => rfl
  | cons key p ih =>
    rw [List.cons_append, valueAt?, valueAt?, Option.bind_assoc]
    congr 1
    funext x
    exact ih x

theorem leafAt?_append (p q : List String) (j : Json) :
    leafAt? (p ++ q) j = (valueAt? p j).bind (leafAt? q) := by
  rw [leafAt?, valueAt?_append]
  cases valueAt? p j <;> rfl

theorem leafAt?_cons (key : String) (path : List String) (j : Json) :
    leafAt? (key :: path) j = (j.get? key).bind (leafAt? path) := by
  rw [leafAt?, valueAt?]
  cases j.get? key <;> rfl

@[simp] theorem leafAt?_nil_obj (ms : List (String × Json)) : leafAt? [] (obj ms) = none := rfl

theorem leafAt?_nil {j : Json} (h : j.isLeaf = true) : leafAt? [] j = some j :=
  leafAt?_eq_some_iff.2 ⟨rfl, h⟩

theorem get?_of_isLeaf {j : Json} (h : j.isLeaf = true) (key : String) : j.get? key = none := by
  cases j with
  | obj ms => cases h
  | _ => rfl

theorem valueAt?_of_isLeaf {j : Json} (h : j.isLeaf = true) {path : List String}
    (hpath : path ≠ []) : valueAt? path j = none := by
  cases path with
  | nil => exact absurd rfl hpath
  | cons key path => rw [valueAt?, get?_of_isLeaf h, Option.bind_none]

theorem leafAt?_of_isLeaf {j : Json} (h : j.isLeaf = true) {path : List String}
    (hpath : path ≠ []) : leafAt? path j = none := by
  rw [leafAt?, valueAt?_of_isLeaf h hpath, Option.filter_none]

/-- Nothing is below a leaf. -/
theorem leafAt?_append_of_leaf {p q : List String} {j v : Json} (h : leafAt? p j = some v)
    (hq : q ≠ []) : leafAt? (p ++ q) j = none := by
  obtain ⟨hvalue, hv⟩ := leafAt?_eq_some_iff.1 h
  rw [leafAt?_append, hvalue, Option.bind_some, leafAt?_of_isLeaf hv hq]

/-- Every object inside has its members in order, under keys that are pieces of dotted keys. -/
inductive Tidy : Json → Prop where
  | leaf {j : Json} (h : j.isLeaf = true) : Tidy j
  | obj {ms : List (String × Json)} (hsorted : Sorted ms) (hkeys : ∀ m ∈ ms, IsKey m.1)
      (hvalues : ∀ m ∈ ms, Tidy m.2) : Tidy (obj ms)

/-- No object inside is empty, and this one is not. -/
def Full (j : Json) : Prop := ∀ path, valueAt? path j ≠ some (obj [])

namespace Tidy

variable {j : Json}

theorem sorted (h : Tidy j) : Sorted j.members := by
  cases h with
  | leaf h =>
    cases j with
    | obj ms => cases h
    | _ => exact .nil
  | obj hsorted => exact hsorted

theorem isKey (h : Tidy j) {m : String × Json} (hm : m ∈ j.members) : IsKey m.1 := by
  cases h with
  | leaf h =>
    cases j with
    | obj ms => cases h
    | _ => cases hm
  | obj _ hkeys _ => exact hkeys m hm

theorem member (h : Tidy j) {m : String × Json} (hm : m ∈ j.members) : Tidy m.2 := by
  cases h with
  | leaf h =>
    cases j with
    | obj ms => cases h
    | _ => cases hm
  | obj _ _ hvalues => exact hvalues m hm

theorem get? (h : Tidy j) {key : String} {v : Json} (hv : j.get? key = some v) :
    IsKey key ∧ Tidy v :=
  ⟨h.isKey (mem_of_lookup hv), h.member (mem_of_lookup hv)⟩

theorem valueAt? (h : Tidy j) {path : List String} {v : Json} (hv : valueAt? path j = some v) :
    IsPath path ∧ Tidy v := by
  induction path generalizing j with
  | nil =>
    cases hv
    exact ⟨Settings.isPath_nil, h⟩
  | cons key path ih =>
    obtain ⟨x, hx, hv⟩ := Option.bind_eq_some_iff.1 hv
    obtain ⟨hkey, hx⟩ := h.get? hx
    obtain ⟨hpath, hv⟩ := ih hx hv
    exact ⟨Settings.isPath_cons.2 ⟨hkey, hpath⟩, hv⟩

theorem isPath (h : Tidy j) {path : List String} {v : Json} (hv : leafAt? path j = some v) :
    IsPath path :=
  (h.valueAt? (leafAt?_eq_some_iff.1 hv).1).1

end Tidy

theorem full_of_isLeaf {j : Json} (h : j.isLeaf = true) : Full j := by
  intro path hpath
  cases path with
  | nil =>
    cases hpath
    cases h
  | cons key path =>
    rw [valueAt?_of_isLeaf h (List.cons_ne_nil _ _)] at hpath
    cases hpath

theorem full_obj_iff {ms : List (String × Json)} :
    Full (obj ms) ↔ ms ≠ [] ∧ ∀ key v, lookup key ms = some v → Full v := by
  constructor
  · intro h
    constructor
    · rintro rfl
      exact h [] rfl
    · intro key v hv path hpath
      apply h (key :: path)
      exact Option.bind_eq_some_iff.2 ⟨v, hv, hpath⟩
  · rintro ⟨hne, hvalues⟩ path hpath
    cases path with
    | nil =>
      cases hpath
      exact hne rfl
    | cons key path =>
      obtain ⟨v, hv, hpath⟩ := Option.bind_eq_some_iff.1 hpath
      exact hvalues key v hv path hpath

theorem full_obj {ms : List (String × Json)} (hne : ms ≠ []) (h : ∀ m ∈ ms, Full m.2) :
    Full (obj ms) :=
  full_obj_iff.2 ⟨hne, fun _ _ hv => h _ (mem_of_lookup hv)⟩

theorem Full.valueAt? {j v : Json} (h : Full j) {path : List String}
    (hv : valueAt? path j = some v) : Full v := by
  intro q hq
  apply h (path ++ q)
  rw [valueAt?_append, hv, Option.bind_some, hq]

/-- Where no object is empty there is a leaf. -/
theorem Tidy.exists_leaf {j : Json} (h : Tidy j) (hfull : Full j) :
    ∃ path v, leafAt? path j = some v := by
  induction h with
  | leaf h => exact ⟨[], _, leafAt?_nil h⟩
  | @obj ms hsorted _ _ ih =>
    obtain ⟨hne, hvalues⟩ := full_obj_iff.1 hfull
    obtain ⟨m, hm⟩ := List.exists_mem_of_ne_nil ms hne
    have hlookup : lookup m.1 ms = some m.2 := hsorted.lookup_of_mem hm
    obtain ⟨path, v, hv⟩ := ih m hm (hvalues _ _ hlookup)
    refine ⟨m.1 :: path, v, ?_⟩
    rw [leafAt?_cons, Json.get?, members, hlookup, Option.bind_some, hv]

/-- The members that have a leaf below them are there in every tree of the same leaves. -/
theorem exists_lookup_of_leaves {ms ns : List (String × Json)} {key : String} {v : Json}
    (hm : Tidy (obj ms)) (hfull : Full (obj ms)) (hv : lookup key ms = some v)
    (h : ∀ path, leafAt? path (obj ms) = leafAt? path (obj ns)) :
    ∃ w, lookup key ns = some w ∧ ∀ path, leafAt? path v = leafAt? path w := by
  have hleaves : ∀ path, leafAt? path v = (lookup key ns).bind (leafAt? path) := by
    intro path
    have hpath := h (key :: path)
    rw [leafAt?_cons, leafAt?_cons, get?, get?, members, members, hv, Option.bind_some] at hpath
    exact hpath
  obtain ⟨path, x, hx⟩ := (hm.get? hv).2.exists_leaf ((full_obj_iff.1 hfull).2 key v hv)
  rw [hleaves path] at hx
  obtain ⟨w, hw, -⟩ := Option.bind_eq_some_iff.1 hx
  refine ⟨w, hw, ?_⟩
  intro path
  rw [hleaves path, hw, Option.bind_some]

/-- A value without empty objects is known by its leaves. -/
theorem Tidy.ext {a b : Json} (ha : Tidy a) (hb : Tidy b) (fa : Full a) (fb : Full b)
    (h : ∀ path, leafAt? path a = leafAt? path b) : a = b := by
  induction ha generalizing b with
  | leaf hleaf =>
    have hroot := h []
    rw [leafAt?_nil hleaf] at hroot
    exact (Option.some.inj (leafAt?_eq_some_iff.1 hroot.symm).1).symm
  | @obj ms hsorted hkeys hvalues ih =>
    cases hb with
    | leaf hleaf =>
      have hroot := h []
      rw [leafAt?_nil hleaf] at hroot
      cases hroot
    | @obj ns hsorted' hkeys' hvalues' =>
      congr 1
      apply hsorted.ext hsorted'
      intro key
      cases hv : lookup key ms with
      | some v =>
        obtain ⟨w, hw, hleaves⟩ := exists_lookup_of_leaves (.obj hsorted hkeys hvalues) fa hv h
        have heq : v = w := ih (key, v) (mem_of_lookup hv) (hvalues' _ (mem_of_lookup hw))
          ((full_obj_iff.1 fa).2 key v hv) ((full_obj_iff.1 fb).2 key w hw) hleaves
        rw [hw, heq]
      | none =>
        cases hw : lookup key ns with
        | none => rfl
        | some w =>
          obtain ⟨v, hv', -⟩ := exists_lookup_of_leaves (.obj hsorted' hkeys' hvalues') fb hw
            fun path => (h path).symm
          rw [hv] at hv'
          cases hv'

/-! ## Leaves put in one after the other -/

/-- Puts a value at a path into a tree; what is in the way and no object gives way. -/
def graft : List String → Json → Json → Json
  | [], value, _ => value
  | key :: path, value, j =>
    obj (putMember key (graft path value ((j.get? key).getD null)) j.members)

theorem get?_graft (key : String) (path : List String) (value j : Json) (other : String) :
    (graft (key :: path) value j).get? other =
      if key = other then some (graft path value ((j.get? key).getD null)) else j.get? other := by
  rw [graft, get?, members, lookup_putMember]
  rfl

/-- A graft is at its path, ends what was at it, above it or below it, and leaves the rest. -/
theorem leafAt?_graft {value : Json} (hvalue : value.isLeaf = true) (p q : List String)
    (j : Json) :
    leafAt? q (graft p value j) =
      if p = q then some value else if p <+: q ∨ q <+: p then none else leafAt? q j := by
  induction p generalizing q j with
  | nil =>
    cases q with
    | nil => rw [if_pos rfl, graft, leafAt?_nil hvalue]
    | cons key q =>
      rw [if_neg (List.cons_ne_nil _ _).symm, if_pos (.inl List.nil_prefix), graft,
        leafAt?_of_isLeaf hvalue (List.cons_ne_nil _ _)]
  | cons key p ih =>
    cases q with
    | nil =>
      rw [if_neg (List.cons_ne_nil _ _), if_pos (.inr List.nil_prefix), graft, leafAt?_nil_obj]
    | cons other q =>
      rw [leafAt?_cons, get?_graft]
      by_cases hkey : key = other
      · subst hkey
        rw [if_pos rfl, Option.bind_some, ih]
        simp only [List.cons.injEq, true_and, List.cons_prefix_cons]
        refine if_congr Iff.rfl rfl ?_
        split
        · rfl
        · rename_i hapart
          rw [leafAt?_cons]
          cases j.get? key with
          | some x => rfl
          | none =>
            have hq : q ≠ [] := fun hq => hapart (.inr (hq ▸ List.nil_prefix))
            exact leafAt?_of_isLeaf rfl hq
      · have hne : key :: p ≠ other :: q := fun heq => hkey (List.cons.inj heq).1
        have hapart : ¬(key :: p <+: other :: q ∨ other :: q <+: key :: p) := by
          rintro (hpq | hqp)
          · exact hkey (List.cons_prefix_cons.1 hpq).1
          · exact hkey (List.cons_prefix_cons.1 hqp).1.symm
        rw [if_neg hkey, if_neg hne, if_neg hapart, leafAt?_cons]

theorem Tidy.graft {value : Json} (hvalue : value.isLeaf = true) {path : List String}
    (hpath : IsPath path) {j : Json} (h : Tidy j) : Tidy (graft path value j) := by
  induction path generalizing j with
  | nil => exact .leaf hvalue
  | cons key path ih =>
    obtain ⟨hkey, hpath⟩ := Settings.isPath_cons.1 hpath
    have hinner : Tidy ((j.get? key).getD null) := by
      cases hx : j.get? key with
      | none => exact .leaf rfl
      | some x => exact (h.get? hx).2
    refine .obj (h.sorted.putMember _ _) ?_ ?_
    · intro m hm
      rcases mem_of_mem_putMember hm with rfl | hm
      · exact hkey
      · exact h.isKey hm
    · intro m hm
      rcases mem_of_mem_putMember hm with rfl | hm
      · exact ih hpath hinner
      · exact h.member hm

theorem full_graft {value : Json} (hvalue : value.isLeaf = true) (path : List String) {j : Json}
    (h : ∀ key v, j.get? key = some v → Full v) : Full (graft path value j) := by
  induction path generalizing j with
  | nil => exact full_of_isLeaf hvalue
  | cons key path ih =>
    refine full_obj_iff.2 ⟨putMember_ne_nil _ _ _, ?_⟩
    intro other v hv
    rw [lookup_putMember] at hv
    split at hv
    · cases hv
      apply ih
      intro below w hw
      cases hx : j.get? key with
      | none =>
        rw [hx] at hw
        cases hw
      | some x =>
        rw [hx] at hw
        have hbelow : valueAt? [below] x = some w := Option.bind_eq_some_iff.2 ⟨w, hw, rfl⟩
        exact (h key x hx).valueAt? hbelow
    · exact h other v hv

/-- The tree of the given leaves, put in from the first to the last. -/
def tree (leaves : List (List String × Json)) : Json :=
  leaves.foldl (fun j e => graft e.1 e.2 j) (obj [])

theorem tree_concat (leaves : List (List String × Json)) (e : List String × Json) :
    tree (leaves ++ [e]) = graft e.1 e.2 (tree leaves) := by
  rw [tree, List.foldl_append]
  rfl

/-- Where none comes above an earlier one, the leaves of the tree are those that no other is
below. -/
theorem leafAt?_tree_iff {leaves : List (List String × Json)}
    (hleaf : ∀ e ∈ leaves, e.2.isLeaf = true)
    (horder : leaves.Pairwise fun e e' => ¬e'.1 <+: e.1) (path : List String) (v : Json) :
    leafAt? path (tree leaves) = some v ↔
      (path, v) ∈ leaves ∧ ∀ e ∈ leaves, path <+: e.1 → e.1 = path := by
  induction leaves using List.reverseRecOn with
  | nil =>
    have hnone : leafAt? path (tree []) = none := by
      cases path <;> rfl
    rw [hnone]
    constructor
    · intro h
      cases h
    · rintro ⟨h, -⟩
      cases h
  | append_singleton leaves last ih =>
    obtain ⟨p, w⟩ := last
    obtain ⟨hbefore, -, hlast⟩ := List.pairwise_append.1 horder
    have hlater : ∀ e ∈ leaves, ¬p <+: e.1 := fun e he => hlast e he _ (List.mem_singleton_self _)
    have hw : w.isLeaf = true := hleaf (p, w) (by simp)
    have ih := ih (fun e he => hleaf e (List.mem_append_left _ he)) hbefore
    rw [tree_concat, leafAt?_graft hw]
    simp only [List.mem_append, List.mem_singleton, Prod.mk.injEq, or_imp, forall_and,
      forall_eq]
    by_cases hpath : p = path
    · subst hpath
      rw [if_pos rfl]
      constructor
      · intro h
        exact ⟨.inr ⟨rfl, (Option.some.inj h).symm⟩,
          fun e he hpe => absurd hpe (hlater e he), fun _ => rfl⟩
      · rintro ⟨hmem | ⟨-, rfl⟩, -⟩
        · exact absurd List.prefix_rfl (hlater _ hmem)
        · rfl
    · rw [if_neg hpath]
      split
      · rename_i hcomparable
        constructor
        · intro h
          cases h
        · rintro ⟨hmem | ⟨heq, -⟩, -, hbelow⟩
          · rcases hcomparable with habove | hunder
            · exact absurd habove (hlater _ hmem)
            · exact absurd (hbelow hunder) hpath
          · exact absurd heq.symm hpath
      · rename_i hapart
        rw [ih]
        constructor
        · rintro ⟨hmem, hends⟩
          exact ⟨.inl hmem, hends, fun hunder => absurd (.inr hunder) hapart⟩
        · rintro ⟨hmem | ⟨heq, -⟩, hends, -⟩
          · exact ⟨hmem, hends⟩
          · exact absurd heq.symm hpath

theorem tidy_tree {leaves : List (List String × Json)} (hleaf : ∀ e ∈ leaves, e.2.isLeaf = true)
    (hpath : ∀ e ∈ leaves, IsPath e.1) : Tidy (tree leaves) := by
  induction leaves using List.reverseRecOn with
  | nil => exact .obj .nil (fun _ h => nomatch h) fun _ h => nomatch h
  | append_singleton leaves last ih =>
    have hmem : last ∈ leaves ++ [last] := by simp
    rw [tree_concat]
    apply Tidy.graft (hleaf last hmem) (hpath last hmem)
    exact ih (fun e he => hleaf e (List.mem_append_left _ he))
      fun e he => hpath e (List.mem_append_left _ he)

theorem full_tree {leaves : List (List String × Json)} (hleaf : ∀ e ∈ leaves, e.2.isLeaf = true)
    (hne : leaves ≠ []) : Full (tree leaves) := by
  induction leaves using List.reverseRecOn with
  | nil => exact absurd rfl hne
  | append_singleton leaves last ih =>
    have hlast : last.2.isLeaf = true := hleaf last (by simp)
    rw [tree_concat]
    apply full_graft hlast
    intro key v hv
    cases hleaves : leaves with
    | nil =>
      rw [hleaves] at hv
      cases hv
    | cons e rest =>
      have hfull := ih (fun e he => hleaf e (List.mem_append_left _ he)) (by simp [hleaves])
      have hkey : valueAt? [key] (tree leaves) = some v :=
        Option.bind_eq_some_iff.2 ⟨v, hleaves ▸ hv, rfl⟩
      exact hfull.valueAt? hkey

end Json

end LanguageClient
