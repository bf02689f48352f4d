import LanguageClient.Proofs.Settings.Tree
import LanguageClient.Proofs.Text.Trim
namespace LanguageClient

/-!
# Flat attributes

Flattening keeps every leaf of a value under the key that its path spells. Looking below a section
keeps those that the path of the section is above, and nesting gives back the tree of the leaves
that are not in the way of a longer key.
-/

namespace Settings

/-! ## Dotted keys -/

/-- The dotted key that spells a path. -/
def keyOf (path : List String) : String := ".".intercalate path

@[simp] theorem keyOf_nil : keyOf [] = "" := String.intercalate_nil

theorem keyOf_singleton (key : String) : keyOf [key] = key := String.intercalate_singleton

theorem keyOf_append {p q : List String} (hp : p ≠ []) (hq : q ≠ []) :
    keyOf (p ++ q) = keyOf p ++ "." ++ keyOf q := String.intercalate_append_of_ne_nil hp hq

theorem toList_keyOf_append {p q : List String} (hp : p ≠ []) (hq : q ≠ []) :
    (keyOf (p ++ q)).toList = (keyOf p).toList ++ '.' :: (keyOf q).toList := by
  rw [keyOf_append hp hq, String.toList_append, String.toList_append, List.append_assoc]
  rfl

theorem splitOnChar_keyOf {path : List String} (h : IsPath path) (hne : path ≠ []) :
    Text.splitOnChar '.' (keyOf path).toList = path.map String.toList := by
  induction path with
  | nil => exact absurd rfl hne
  | cons key path ih =>
    obtain ⟨hkey, hpath⟩ := isPath_cons.1 h
    cases path with
    | nil => rw [keyOf_singleton, Text.splitOnChar_of_notMem hkey.2, List.map_singleton]
    | cons next path =>
      have hnext : next :: path ≠ [] := List.cons_ne_nil _ _
      rw [← List.singleton_append, toList_keyOf_append (List.cons_ne_nil _ _) hnext,
        Text.splitOnChar_append, ih hpath hnext, keyOf_singleton,
        Text.splitOnChar_of_notMem hkey.2, List.map_append, List.map_singleton]

theorem pathOf_keyOf {path : List String} (h : IsPath path) (hne : path ≠ []) :
    pathOf (keyOf path) = path := by
  rw [pathOf, splitOnChar_keyOf h hne, List.map_map]
  exact List.map_id'' (fun key => String.ofList_toList) path

theorem exists_keyOf_eq_cons {path : List String} (h : IsPath path) (hne : path ≠ []) :
    ∃ c r, (keyOf path).toList = c :: r ∧ c ≠ '.' := by
  obtain ⟨key, path, rfl⟩ := List.exists_cons_of_ne_nil hne
  obtain ⟨⟨hkey, hdot⟩, -⟩ := isPath_cons.1 h
  have hkey : key.toList ≠ [] := fun heq => hkey (String.toList_inj.1 heq)
  obtain ⟨c, r, hcr⟩ := List.exists_cons_of_ne_nil hkey
  have hc : c ≠ '.' := fun heq => hdot (hcr ▸ heq ▸ List.mem_cons_self)
  cases path with
  | nil => exact ⟨c, r, by rw [keyOf_singleton, hcr], hc⟩
  | cons next path =>
    refine ⟨c, r ++ '.' :: (keyOf (next :: path)).toList, ?_, hc⟩
    rw [← List.singleton_append, toList_keyOf_append (List.cons_ne_nil _ _) (List.cons_ne_nil _ _),
      keyOf_singleton, hcr, List.cons_append]

theorem keyOf_ne_empty {path : List String} (h : IsPath path) (hne : path ≠ []) :
    keyOf path ≠ "" := by
  obtain ⟨c, r, hcr, -⟩ := exists_keyOf_eq_cons h hne
  intro heq
  rw [heq] at hcr
  cases hcr

theorem keyOf_injective {p q : List String} (hp : IsPath p) (hq : IsPath q)
    (h : keyOf p = keyOf q) : p = q := by
  by_cases hpn : p = []
  · by_cases hqn : q = []
    · rw [hpn, hqn]
    · exact absurd (h ▸ hpn ▸ rfl) (keyOf_ne_empty hq hqn)
  · have hqn : q ≠ [] := fun hqn => keyOf_ne_empty hp hpn (h.trans (hqn ▸ rfl))
    rw [← pathOf_keyOf hp hpn, h, pathOf_keyOf hq hqn]

/-- A key comes no later than those below it. -/
theorem not_keyOf_lt {p q : List String} (h : p <+: q) : ¬keyOf q < keyOf p := by
  obtain ⟨r, rfl⟩ := h
  rw [String.lt_iff, List.not_lt]
  apply List.IsPrefix.le
  by_cases hp : p = []
  · rw [hp]
    exact List.nil_prefix
  · by_cases hr : r = []
    · simp [hr]
    · rw [toList_keyOf_append hp hr]
      exact List.prefix_append _ _

theorem keyOf_concat {path : List String} (h : IsPath path) (key : String) :
    (if keyOf path = "" then key else keyOf path ++ "." ++ key) = keyOf (path ++ [key]) := by
  by_cases hne : path = []
  · rw [hne, keyOf_nil, if_pos rfl, List.nil_append, keyOf_singleton]
  · rw [if_neg (keyOf_ne_empty h hne), keyOf_append hne (List.cons_ne_nil _ _), keyOf_singleton]

theorem underSection?_keyOf {p q : List String} (hp : IsPath p) (hq : IsPath q) :
    underSection? (keyOf p) (keyOf (p ++ q)) = some (keyOf q) := by
  by_cases hpn : p = []
  · rw [hpn, List.nil_append, underSection?, if_pos keyOf_nil]
  · rw [underSection?, if_neg (keyOf_ne_empty hp hpn), ← String.length_toList]
    by_cases hqn : q = []
    · rw [hqn, List.append_nil, List.take_length, List.drop_length, beq_self_eq_true, keyOf_nil]
    · obtain ⟨c, r, hcr, hc⟩ := exists_keyOf_eq_cons hq hqn
      have hdots : (keyOf q).toList.dropWhile (· == '.') = (keyOf q).toList := by
        rw [hcr, List.dropWhile_cons, beq_eq_false_iff_ne.2 hc]
        rfl
      rw [toList_keyOf_append hpn hqn, List.take_left, List.drop_left, beq_self_eq_true]
      change some (String.ofList ((keyOf q).toList.dropWhile (· == '.'))) = some (keyOf q)
      rw [hdots, String.ofList_toList]

theorem underSection?_eq_none {p q : List String} (hp : IsPath p) (hq : IsPath q)
    (h : ¬p <+: q) : underSection? (keyOf p) (keyOf q) = none := by
  have hpn : p ≠ [] := fun hpn => h (hpn ▸ List.nil_prefix)
  rw [underSection?, if_neg (keyOf_ne_empty hp hpn), ← String.length_toList]
  have hjoin := List.take_append_drop (keyOf p).toList.length (keyOf q).toList
  split
  · rename_i htake hdrop
    rw [eq_of_beq htake, hdrop, List.append_nil] at hjoin
    exact absurd (keyOf_injective hp hq (String.toList_inj.1 hjoin) ▸ List.prefix_rfl) h
  · rename_i r htake hdrop
    rw [eq_of_beq htake, hdrop] at hjoin
    have hqn : q ≠ [] := by
      rintro rfl
      exact List.append_ne_nil_of_right_ne_nil _ (List.cons_ne_nil _ _) hjoin
    have hpieces := splitOnChar_keyOf hq hqn
    rw [← hjoin, Text.splitOnChar_append, splitOnChar_keyOf hp hpn] at hpieces
    have hprefix : p.map String.toList <+: q.map String.toList := ⟨_, hpieces⟩
    exact absurd ((List.prefix_map_iff_of_injective fun _ _ => String.toList_inj.1).1 hprefix) h
  · rfl

/-! ## Attributes -/

/-- Attributes that spell paths, sorted, with a leaf under each. -/
structure Dotted (attributes : Attributes) : Prop where
  sorted : Json.Sorted attributes
  spelled : ∀ e ∈ attributes, ∃ path, IsPath path ∧ keyOf path = e.1
  leaf : ∀ e ∈ attributes, e.2.isLeaf = true

variable {out : Attributes}

theorem dotted_nil : Dotted [] where
  sorted := .nil
  spelled _ h := nomatch h
  leaf _ h := nomatch h

theorem Dotted.putMember (h : Dotted out) {path : List String} (hpath : IsPath path) {value : Json}
    (hvalue : value.isLeaf = true) : Dotted (Json.putMember (keyOf path) value out) := by
  refine ⟨h.sorted.putMember _ _, ?_, ?_⟩
  · intro e he
    rcases Json.mem_of_mem_putMember he with rfl | he
    · exact ⟨path, hpath, rfl⟩
    · exact h.spelled e he
  · intro e he
    rcases Json.mem_of_mem_putMember he with rfl | he
    · exact hvalue
    · exact h.leaf e he

theorem Dotted.eq_nil (h : Dotted out)
    (hnone : ∀ path, IsPath path → Json.lookup (keyOf path) out = none) : out = [] := by
  rw [List.eq_nil_iff_forall_not_mem]
  intro e he
  obtain ⟨path, hpath, hkey⟩ := h.spelled e he
  have hlookup := h.sorted.lookup_of_mem he
  rw [← hkey, hnone path hpath] at hlookup
  cases hlookup

theorem lookup_putMember_keyOf {p q : List String} (hp : IsPath p) (hq : IsPath q) (value : Json) :
    Json.lookup (keyOf q) (Json.putMember (keyOf p) value out) =
      if p = q then some value else Json.lookup (keyOf q) out := by
  rw [Json.lookup_putMember]
  refine if_congr ?_ rfl rfl
  constructor
  · exact keyOf_injective hp hq
  · exact congrArg keyOf

/-! ## Flattening -/

theorem flatten_of_isLeaf {key : String} {j : Json} (h : j.isLeaf = true) :
    flatten key j out = Json.putMember key j out := by
  cases j with
  | obj ms => cases h
  | _ => rfl

theorem flattenMembers_cons {path : List String} (hpath : IsPath path) (m : String × Json)
    (ms : List (String × Json)) :
    flattenMembers (keyOf path) (m :: ms) out =
      flattenMembers (keyOf path) ms (flatten (keyOf (path ++ [m.1])) m.2 out) := by
  rw [flattenMembers, keyOf_concat hpath]

theorem dotted_flattenMembers {ms : List (String × Json)} (hkeys : ∀ m ∈ ms, IsKey m.1)
    (h : ∀ m ∈ ms, ∀ {path : List String}, IsPath path → ∀ {out : Attributes}, Dotted out →
      Dotted (flatten (keyOf path) m.2 out))
    {path : List String} (hpath : IsPath path) (hout : Dotted out) :
    Dotted (flattenMembers (keyOf path) ms out) := by
  induction ms generalizing out with
  | nil => exact hout
  | cons m ms ih =>
    obtain ⟨hkey, hkeys⟩ := List.forall_mem_cons.1 hkeys
    obtain ⟨hm, hms⟩ := List.forall_mem_cons.1 h
    rw [flattenMembers_cons hpath]
    apply ih hkeys hms
    exact hm (isPath_append.2 ⟨hpath, isPath_cons.2 ⟨hkey, isPath_nil⟩⟩) hout

theorem dotted_flatten {j : Json} (h : j.Tidy) {path : List String} (hpath : IsPath path)
    (hout : Dotted out) : Dotted (flatten (keyOf path) j out) := by
  induction h generalizing path out with
  | leaf hleaf =>
    rw [flatten_of_isLeaf hleaf]
    exact hout.putMember hpath hleaf
  | obj _ hkeys _ ih =>
    rw [flatten]
    exact dotted_flattenMembers hkeys (fun m hm _ hpath _ hout => ih m hm hpath hout) hpath hout

theorem lookup_flattenMembers_of_apart {ms : List (String × Json)} (hkeys : ∀ m ∈ ms, IsKey m.1)
    {p q : List String}
    (h : ∀ m ∈ ms, ∀ {p : List String}, IsPath p → ¬p <+: q → ∀ {out : Attributes},
      Json.lookup (keyOf q) (flatten (keyOf p) m.2 out) = Json.lookup (keyOf q) out)
    (hp : IsPath p) (hpq : ∀ m ∈ ms, ¬p ++ [m.1] <+: q) :
    Json.lookup (keyOf q) (flattenMembers (keyOf p) ms out) = Json.lookup (keyOf q) out := by
  induction ms generalizing out with
  | nil => rfl
  | cons m ms ih =>
    obtain ⟨hkey, hkeys⟩ := List.forall_mem_cons.1 hkeys
    obtain ⟨hm, hms⟩ := List.forall_mem_cons.1 h
    obtain ⟨hmq, hmsq⟩ := List.forall_mem_cons.1 hpq
    rw [flattenMembers_cons hp, ih hkeys hms hmsq]
    exact hm (isPath_append.2 ⟨hp, isPath_cons.2 ⟨hkey, isPath_nil⟩⟩) hmq

/-- What is flattened at a path touches only the keys below it. -/
theorem lookup_flatten_of_apart {j : Json} (h : j.Tidy) {p q : List String} (hp : IsPath p)
    (hq : IsPath q) (hpq : ¬p <+: q) :
    Json.lookup (keyOf q) (flatten (keyOf p) j out) = Json.lookup (keyOf q) out := by
  induction h generalizing p out with
  | leaf hleaf =>
    have hne : p ≠ q := fun heq => hpq (heq ▸ List.prefix_rfl)
    rw [flatten_of_isLeaf hleaf, lookup_putMember_keyOf hp hq, if_neg hne]
  | obj _ hkeys _ ih =>
    rw [flatten]
    apply lookup_flattenMembers_of_apart hkeys (fun m hm _ hp hpq _ => ih m hm hp hpq) hp
    intro m _ hmq
    exact hpq ((List.prefix_append _ _).trans hmq)

theorem lookup_flattenMembers {ms : List (String × Json)} (hsorted : Json.Sorted ms)
    (hkeys : ∀ m ∈ ms, IsKey m.1) (hvalues : ∀ m ∈ ms, m.2.Tidy) {p q : List String} {key : String}
    (h : ∀ m ∈ ms, ∀ {p q : List String}, IsPath p → IsPath q → ∀ {out : Attributes},
      Json.lookup (keyOf (p ++ q)) (flatten (keyOf p) m.2 out) =
        (m.2.leafAt? q).or (Json.lookup (keyOf (p ++ q)) out))
    (hp : IsPath p) (hkey : IsKey key) (hq : IsPath q) :
    Json.lookup (keyOf (p ++ key :: q)) (flattenMembers (keyOf p) ms out) =
      ((Json.lookup key ms).bind (Json.leafAt? q)).or (Json.lookup (keyOf (p ++ key :: q)) out) := by
  induction ms generalizing out with
  | nil => rfl
  | cons m ms ih =>
    obtain ⟨hmkey, hkeys⟩ := List.forall_mem_cons.1 hkeys
    obtain ⟨hm, hms⟩ := List.forall_mem_cons.1 h
    obtain ⟨hmt, hvalues⟩ := List.forall_mem_cons.1 hvalues
    have hpm : IsPath (p ++ [m.1]) := isPath_append.2 ⟨hp, isPath_cons.2 ⟨hmkey, isPath_nil⟩⟩
    have hpq : IsPath (p ++ key :: q) := isPath_append.2 ⟨hp, isPath_cons.2 ⟨hkey, hq⟩⟩
    rw [flattenMembers_cons hp, Json.lookup]
    by_cases heq : m.1 = key
    · -- no later member has this key
      have hapart : ∀ n ∈ ms, ¬p ++ [n.1] <+: p ++ key :: q := by
        intro n hn hpre
        have hkeys := List.cons_prefix_cons.1 ((List.prefix_append_right_inj p).1 hpre)
        exact hsorted.ne_of_mem hn (hkeys.1.trans heq.symm)
      rw [if_pos heq, Option.bind_some, lookup_flattenMembers_of_apart hkeys
        (fun n hn _ hp hpq _ => lookup_flatten_of_apart (hvalues n hn) hp ‹_› hpq) hp hapart]
      have hsplit : p ++ key :: q = p ++ [m.1] ++ q := by rw [heq, List.append_cons]
      rw [hsplit]
      exact hm hpm hq
    · have hapart : ¬p ++ [m.1] <+: p ++ key :: q := by
        intro hpre
        exact heq (List.cons_prefix_cons.1 ((List.prefix_append_right_inj p).1 hpre)).1
      rw [if_neg heq, ih (List.Pairwise.of_cons hsorted) hkeys hvalues hms,
        lookup_flatten_of_apart hmt hpm hpq hapart]

/-- A value flattened at a path has its leaves below the path, over what was there. -/
theorem lookup_flatten {j : Json} (h : j.Tidy) {p q : List String} (hp : IsPath p)
    (hq : IsPath q) :
    Json.lookup (keyOf (p ++ q)) (flatten (keyOf p) j out) =
      (j.leafAt? q).or (Json.lookup (keyOf (p ++ q)) out) := by
  induction h generalizing p q out with
  | leaf hleaf =>
    rw [flatten_of_isLeaf hleaf, lookup_putMember_keyOf hp (isPath_append.2 ⟨hp, hq⟩)]
    by_cases hqn : q = []
    · rw [hqn, List.append_nil, if_pos rfl, Json.leafAt?_nil hleaf, Option.some_or]
    · have hne : p ≠ p ++ q := fun heq => hqn (List.self_eq_append_right.1 heq)
      rw [if_neg hne, Json.leafAt?_of_isLeaf hleaf hqn, Option.none_or]
  | @obj ms hsorted hkeys hvalues ih =>
    rw [flatten]
    cases q with
    | nil =>
      rw [List.append_nil, Json.leafAt?_nil_obj, Option.none_or]
      apply lookup_flattenMembers_of_apart hkeys
        (fun m hm _ hp' hpq _ => lookup_flatten_of_apart (hvalues m hm) hp' hp hpq) hp
      intro m _ hpre
      have hlength := hpre.length_le
      rw [List.length_append, List.length_singleton] at hlength
      omega
    | cons key q =>
      obtain ⟨hkey, hq⟩ := isPath_cons.1 hq
      rw [Json.leafAt?_cons]
      exact lookup_flattenMembers hsorted hkeys hvalues (fun m hm _ _ hp hq _ => ih m hm hp hq)
        hp hkey hq

/-! ## Sections -/

/-- Adds the attributes under a section, without its name, over what is there. -/
def layer (name : String) (out attributes : Attributes) : Attributes :=
  attributes.foldl
    (fun out e =>
      match underSection? name e.1 with
      | some key => Json.putMember key e.2 out
      | none => out)
    out

theorem Dotted.of_cons {e : String × Json} {a : Attributes} (h : Dotted (e :: a)) : Dotted a :=
  ⟨List.Pairwise.of_cons h.sorted, fun x hx => h.spelled x (List.mem_cons_of_mem _ hx),
    fun x hx => h.leaf x (List.mem_cons_of_mem _ hx)⟩

theorem layer_cons_under {p q : List String} (hp : IsPath p) (hq : IsPath q) (value : Json)
    (a : Attributes) :
    layer (keyOf p) out ((keyOf (p ++ q), value) :: a) =
      layer (keyOf p) (Json.putMember (keyOf q) value out) a := by
  rw [layer, List.foldl_cons, underSection?_keyOf hp hq]
  rfl

theorem layer_cons_apart {p q : List String} (hp : IsPath p) (hq : IsPath q) (hpq : ¬p <+: q)
    (value : Json) (a : Attributes) :
    layer (keyOf p) out ((keyOf q, value) :: a) = layer (keyOf p) out a := by
  rw [layer, List.foldl_cons, underSection?_eq_none hp hq hpq]
  rfl

theorem lookup_layer {a : Attributes} (ha : Dotted a) {p q : List String} (hp : IsPath p)
    (hq : IsPath q) :
    Json.lookup (keyOf q) (layer (keyOf p) out a) =
      (Json.lookup (keyOf (p ++ q)) a).or (Json.lookup (keyOf q) out) := by
  induction a generalizing out with
  | nil => rfl
  | cons e a ih =>
    obtain ⟨key, value⟩ := e
    obtain ⟨t, ht, hkey⟩ := ha.spelled _ List.mem_cons_self
    subst hkey
    have hpq : IsPath (p ++ q) := isPath_append.2 ⟨hp, hq⟩
    by_cases hpt : p <+: t
    · obtain ⟨r, rfl⟩ := hpt
      have hr : IsPath r := (isPath_append.1 ht).2
      rw [layer_cons_under hp hr, ih ha.of_cons, lookup_putMember_keyOf hr hq, Json.lookup]
      by_cases heq : r = q
      · subst heq
        have hnone : Json.lookup (keyOf (p ++ r)) a = none :=
          Json.lookup_eq_none fun m hm => ha.sorted.ne_of_mem hm
        rw [if_pos rfl, if_pos rfl, hnone, Option.none_or, Option.some_or]
      · have hne : keyOf (p ++ r) ≠ keyOf (p ++ q) := fun hkeys =>
          heq (List.append_cancel_left (keyOf_injective ht hpq hkeys))
        rw [if_neg heq, if_neg hne]
    · have hne : keyOf t ≠ keyOf (p ++ q) := fun hkeys =>
        hpt (keyOf_injective ht hpq hkeys ▸ List.prefix_append _ _)
      rw [layer_cons_apart hp ht hpt, ih ha.of_cons, Json.lookup, if_neg hne]

theorem dotted_layer {a : Attributes} (ha : Dotted a) {p : List String} (hp : IsPath p)
    (hout : Dotted out) : Dotted (layer (keyOf p) out a) := by
  induction a generalizing out with
  | nil => exact hout
  | cons e a ih =>
    obtain ⟨key, value⟩ := e
    obtain ⟨t, ht, hkey⟩ := ha.spelled _ List.mem_cons_self
    subst hkey
    by_cases hpt : p <+: t
    · obtain ⟨r, rfl⟩ := hpt
      have hr : IsPath r := (isPath_append.1 ht).2
      rw [layer_cons_under hp hr]
      exact ih ha.of_cons (hout.putMember hr (ha.leaf _ List.mem_cons_self))
    · rw [layer_cons_apart hp ht hpt]
      exact ih ha.of_cons hout

/-! ## Nesting -/

/-- The leaves that attributes hold, by their paths. -/
def leaves (a : Attributes) : List (List String × Json) := a.map fun e => (pathOf e.1, e.2)

theorem pathOf_ne_nil (key : String) : pathOf key ≠ [] := by
  intro h
  exact Text.splitOnChar_ne_nil '.' key.toList (List.map_eq_nil_iff.1 h)

theorem graft_eq_insertAt {path : List String} (hne : path ≠ []) (value j : Json) :
    Json.graft path value j = .obj (insertAt path value j.members) := by
  induction path generalizing j with
  | nil => exact absurd rfl hne
  | cons key path ih =>
    cases path with
    | nil => rfl
    | cons next path =>
      rw [Json.graft, ih (List.cons_ne_nil _ _)]
      rfl

theorem nest_eq_tree (a : Attributes) : nest a = Json.tree (leaves a) := by
  have hfold : ∀ ms : List (String × Json),
      Json.obj (a.foldl (fun ms e => insertAt (pathOf e.1) e.2 ms) ms) =
        (leaves a).foldl (fun j e => Json.graft e.1 e.2 j) (.obj ms) := by
    induction a with
    | nil => exact fun _ => rfl
    | cons e a ih =>
      intro ms
      rw [leaves, List.map_cons, List.foldl_cons, List.foldl_cons, ih,
        graft_eq_insertAt (pathOf_ne_nil e.1)]
      rfl
  exact hfold []

variable {a : Attributes}

theorem ne_nil_of_spelled (hroot : Json.lookup "" a = none) {path : List String} {value : Json}
    (h : (keyOf path, value) ∈ a) (ha : Dotted a) : path ≠ [] := by
  rintro rfl
  have hlookup := ha.sorted.lookup_of_mem h
  rw [keyOf_nil, hroot] at hlookup
  cases hlookup

theorem mem_leaves_iff (ha : Dotted a) (hroot : Json.lookup "" a = none) {path : List String}
    {value : Json} :
    (path, value) ∈ leaves a ↔ IsPath path ∧ Json.lookup (keyOf path) a = some value := by
  rw [leaves, List.mem_map]
  constructor
  · rintro ⟨⟨key, v⟩, he, heq⟩
    obtain ⟨t, ht, rfl⟩ := ha.spelled _ he
    have hne : t ≠ [] := ne_nil_of_spelled hroot he ha
    obtain ⟨rfl, rfl⟩ := Prod.mk.inj heq
    rw [pathOf_keyOf ht hne]
    exact ⟨ht, ha.sorted.lookup_of_mem he⟩
  · rintro ⟨hpath, hlookup⟩
    have he := Json.mem_of_lookup hlookup
    exact ⟨_, he, by rw [pathOf_keyOf hpath (ne_nil_of_spelled hroot he ha)]⟩

theorem leaf_of_mem_leaves (ha : Dotted a) : ∀ e ∈ leaves a, e.2.isLeaf = true := by
  intro e he
  obtain ⟨x, hx, rfl⟩ := List.mem_map.1 he
  exact ha.leaf x hx

/-- In the order of their keys none comes above an earlier one. -/
theorem pairwise_leaves (ha : Dotted a) (hroot : Json.lookup "" a = none) :
    (leaves a).Pairwise fun e e' => ¬e'.1 <+: e.1 := by
  rw [leaves, List.pairwise_map]
  apply List.Pairwise.imp_of_mem _ ha.sorted
  rintro ⟨key, v⟩ ⟨key', v'⟩ he he' hlt hpre
  obtain ⟨p, hp, rfl⟩ := ha.spelled _ he
  obtain ⟨p', hp', rfl⟩ := ha.spelled _ he'
  rw [pathOf_keyOf hp (ne_nil_of_spelled hroot he ha),
    pathOf_keyOf hp' (ne_nil_of_spelled hroot he' ha)] at hpre
  exact not_keyOf_lt hpre hlt

/-- The value that attributes stand for. -/
def render (a : Attributes) : Json :=
  match a with
  | [] => .null
  | _ :: _ =>
    match Json.lookup "" a with
    | some value => value
    | none => nest a

theorem render_of_lookup {value : Json} (h : Json.lookup "" a = some value) :
    render a = value := by
  cases a with
  | nil => cases h
  | cons e a => rw [render, h]

theorem render_of_none (hroot : Json.lookup "" a = none) (hne : a ≠ []) : render a = nest a := by
  cases a with
  | nil => exact absurd rfl hne
  | cons e a => rw [render, hroot]

/-- Of the attributes those are found at their path that no longer key is below. -/
theorem leafAt?_render_iff (ha : Dotted a) (hroot : Json.lookup "" a = none) {path : List String}
    (hne : path ≠ []) {value : Json} :
    (render a).leafAt? path = some value ↔
      IsPath path ∧ Json.lookup (keyOf path) a = some value ∧
        ∀ t, IsPath t → t ≠ [] → Json.lookup (keyOf (path ++ t)) a = none := by
  by_cases hnil : a = []
  · subst hnil
    rw [render, Json.leafAt?_of_isLeaf rfl hne]
    constructor
    · intro h
      cases h
    · rintro ⟨-, h, -⟩
      cases h
  · rw [render_of_none hroot hnil, nest_eq_tree,
      Json.leafAt?_tree_iff (leaf_of_mem_leaves ha) (pairwise_leaves ha hroot),
      mem_leaves_iff ha hroot, and_assoc]
    refine and_congr_right fun hpath => and_congr_right fun _ => ?_
    constructor
    · intro hends t ht htn
      cases hlookup : Json.lookup (keyOf (path ++ t)) a with
      | none => rfl
      | some v =>
        have hmem := (mem_leaves_iff ha hroot).2 ⟨isPath_append.2 ⟨hpath, ht⟩, hlookup⟩
        exact absurd (List.self_eq_append_right.1 (hends _ hmem (List.prefix_append _ _)).symm) htn
    · rintro hends ⟨_, v⟩ hmem ⟨t, rfl⟩
      obtain ⟨hpt, hlookup⟩ := (mem_leaves_iff ha hroot).1 hmem
      by_cases htn : t = []
      · rw [htn, List.append_nil]
      · rw [hends t (isPath_append.1 hpt).2 htn] at hlookup
        cases hlookup

/-- The attributes that hold the leaves of a value stand for the value. -/
theorem render_eq (ha : Dotted a) {j : Json} (hj : j.Tidy) (hfull : j.Full)
    (h : ∀ path, IsPath path → Json.lookup (keyOf path) a = j.leafAt? path) : render a = j := by
  have hempty : Json.lookup "" a = j.leafAt? [] := h [] isPath_nil
  by_cases hleaf : j.isLeaf = true
  · exact render_of_lookup (hempty.trans (Json.leafAt?_nil hleaf))
  · have hroot : Json.lookup "" a = none := by
      rw [hempty, Json.leafAt?, Json.valueAt?, Option.filter_some, if_neg hleaf]
    obtain ⟨path, v, hv⟩ := hj.exists_leaf hfull
    have hne : a ≠ [] := by
      rintro rfl
      have hnone := h path (hj.isPath hv)
      rw [hv] at hnone
      cases hnone
    have hpaths : ∀ e ∈ leaves a, IsPath e.1 := fun e he =>
      ((mem_leaves_iff ha hroot).1 he).1
    have htidy := Json.tidy_tree (leaf_of_mem_leaves ha) hpaths
    have hleaves : leaves a ≠ [] := fun hnil => hne (List.map_eq_nil_iff.1 hnil)
    rw [render_of_none hroot hne, nest_eq_tree]
    apply htidy.ext hj (Json.full_tree (leaf_of_mem_leaves ha) hleaves) hfull
    intro q
    apply Option.ext
    intro w
    rw [Json.leafAt?_tree_iff (leaf_of_mem_leaves ha) (pairwise_leaves ha hroot),
      mem_leaves_iff ha hroot]
    constructor
    · rintro ⟨⟨hq, hlookup⟩, -⟩
      exact (h q hq).symm.trans hlookup
    · intro hw
      have hq := hj.isPath hw
      refine ⟨⟨hq, (h q hq).trans hw⟩, ?_⟩
      rintro ⟨_, x⟩ hmem ⟨t, rfl⟩
      obtain ⟨hqt, hx⟩ := (mem_leaves_iff ha hroot).1 hmem
      by_cases htn : t = []
      · rw [htn, List.append_nil]
      · rw [h _ hqt, Json.leafAt?_append_of_leaf hw htn] at hx
        cases hx

end Settings

end LanguageClient
