import LanguageClient.Path
import LanguageClient.Proofs.Text.Trim
import Mathlib.Data.List.Infix
namespace LanguageClient

/-!
# Resolving dots

A normalized path has no dots left, and normalizing it again changes nothing. Where a relative path
is joined to a directory, its double dots also take back names of the directory: all those that
find no name of the path before them. Normalized by itself, the path has lost these, so it leads to
the same place from the root, and from other directories only if it has none.
-/

namespace Path

open Component (name up here root)

/-! ## Components -/

/-- A text that stands for itself between slashes. -/
structure IsName (t : Text) : Prop where
  notMem : '/' ∉ t
  ofPiece : Component.ofPiece t = some (name t)

theorem IsName.ne_nil {t : Text} (h : IsName t) : t ≠ [] := by
  rintro rfl
  simpa [Component.ofPiece] using h.ofPiece

theorem IsName.ne_here {t : Text} (h : IsName t) : t ≠ ['.'] := by
  rintro rfl
  simpa [Component.ofPiece] using h.ofPiece

theorem IsName.ne_up {t : Text} (h : IsName t) : t ≠ ['.', '.'] := by
  rintro rfl
  simpa [Component.ofPiece] using h.ofPiece

/-- A piece that stands for something is a double dot or a name. -/
theorem ofPiece_cases {t : Text} {c : Component} (h : Component.ofPiece t = some c) :
    c = up ∨ c = name t := by
  unfold Component.ofPiece at h
  split at h
  · cases h
  · cases h
  · exact .inl (Option.some.inj h).symm
  · exact .inr (Option.some.inj h).symm

/-- The components after the root, or after the dot that a relative path may start with. -/
def steps (p : Path) : List Component := (Text.splitOnChar '/' p).filterMap Component.ofPiece

theorem steps_cases {p : Path} {c : Component} (h : c ∈ steps p) :
    c = up ∨ ∃ t, IsName t ∧ c = name t := by
  obtain ⟨t, ht, hc⟩ := List.mem_filterMap.1 h
  refine (ofPiece_cases hc).imp_right ?_
  rintro rfl
  exact ⟨t, ⟨Text.notMem_of_mem_splitOnChar ht, hc⟩, rfl⟩

theorem exists_map_name {cs : List Component} (h : ∀ c ∈ cs, ∃ t, IsName t ∧ c = name t) :
    ∃ ts : List Text, cs = ts.map name ∧ ∀ t ∈ ts, IsName t := by
  induction cs with
  | nil => exact ⟨[], rfl, by simp⟩
  | cons c cs ih =>
    rw [List.forall_mem_cons] at h
    obtain ⟨⟨t, ht, rfl⟩, hrest⟩ := h
    obtain ⟨ts, rfl, hts⟩ := ih hrest
    exact ⟨t :: ts, rfl, List.forall_mem_cons.2 ⟨ht, hts⟩⟩

/-- A path without double dots leads down its names. -/
theorem exists_names {p : Path} (h : up ∉ components p) :
    ∃ ts : List Text, steps p = ts.map name ∧ ∀ t ∈ ts, IsName t :=
  exists_map_name fun _ hc => (steps_cases hc).resolve_left fun hup =>
    h (List.mem_append_right _ (hup ▸ hc))

/-- A character of a path that is neither a slash nor a dot is one of its names. -/
theorem mem_iff_of_steps {p : Path} {ts : List Text} (hsteps : steps p = ts.map name) {c : Char}
    (hslash : c ≠ '/') (hdot : c ≠ '.') : c ∈ p ↔ ∃ t ∈ ts, c ∈ t := by
  have hpieces : c ∈ p ↔ ∃ t ∈ Text.splitOnChar '/' p, c ∈ t := by
    rw [← Text.mem_joinWith_iff hslash, Text.joinWith_splitOnChar]
  have hmem {t : Text} : name t ∈ steps p ↔ t ∈ ts := by
    rw [hsteps]
    exact List.mem_map_of_injective fun a b h => Component.name.inj h
  rw [hpieces]
  constructor
  · rintro ⟨t, ht, hc⟩
    have hname : Component.ofPiece t = some (name t) := by
      unfold Component.ofPiece
      split
      · cases hc
      · exact absurd (List.mem_singleton.1 hc) hdot
      · simp [hdot] at hc
      · rfl
    exact ⟨t, hmem.1 (List.mem_filterMap.2 ⟨t, ht, hname⟩), hc⟩
  · rintro ⟨t, ht, hc⟩
    obtain ⟨piece, hpiece, hname⟩ := List.mem_filterMap.1 (hmem.2 ht)
    obtain h | h := ofPiece_cases hname
    · cases h
    · cases h
      exact ⟨t, hpiece, hc⟩

theorem steps_append (a b : Path) : steps (a ++ '/' :: b) = steps a ++ steps b := by
  rw [steps, Text.splitOnChar_append, List.filterMap_append]
  rfl

theorem filterMap_ofPiece {ts : List Text} (h : ∀ t ∈ ts, IsName t) :
    ts.filterMap Component.ofPiece = ts.map name := by
  induction ts with
  | nil => rfl
  | cons t ts ih =>
    rw [List.forall_mem_cons] at h
    rw [List.filterMap_cons_some h.1.ofPiece, ih h.2, List.map_cons]

theorem steps_joinWith {ts : List Text} (h : ∀ t ∈ ts, IsName t) :
    steps (Text.joinWith ['/'] ts) = ts.map name := by
  by_cases hnil : ts = []
  · subst hnil
    rfl
  · rw [steps, Text.splitOnChar_joinWith hnil fun t ht => (h t ht).notMem, filterMap_ofPiece h]

/-- What stands before the steps of a path. -/
def start (p : Path) : List Component :=
  if isAbsolute p then [root]
  else if (Text.splitOnChar '/' p).head? = some ['.'] then [here] else []

theorem components_eq (p : Path) : components p = start p ++ steps p := rfl

theorem isAbsolute_iff {p : Path} : isAbsolute p = true ↔ ∃ r, p = '/' :: r := by
  cases p with
  | nil => simp [isAbsolute]
  | cons c r => simp [isAbsolute]

theorem components_of_isAbsolute {p : Path} (h : isAbsolute p = true) :
    components p = root :: steps p := by
  rw [components_eq, start, if_pos h, List.singleton_append]

theorem components_append_slash {p : Path} (h : isAbsolute p = true) :
    components (p ++ ['/']) = components p := by
  have hslash : isAbsolute (p ++ ['/']) = true := by
    obtain ⟨r, rfl⟩ := isAbsolute_iff.1 h
    rfl
  have hempty : steps [] = [] := rfl
  rw [components_of_isAbsolute hslash, components_of_isAbsolute h, steps_append, hempty,
    List.append_nil]

/-- The components of a path are those of the directory and those of a path joined to it. -/
theorem steps_join {b p : Path} (hb : isAbsolute b = true) (hp : isAbsolute p = false) :
    steps (join b p) = steps b ++ steps p := by
  obtain ⟨r, rfl⟩ := isAbsolute_iff.1 hb
  rw [join, if_neg (by simp [hp])]
  split
  · rename_i hlast
    obtain ⟨front, hfront⟩ : ∃ front, '/' :: r = front ++ ['/'] := by
      simpa using List.getLast?_eq_some_iff.1 (hlast.resolve_left (List.cons_ne_nil _ _))
    have hempty : steps [] = [] := rfl
    rw [hfront, List.append_assoc, List.singleton_append, steps_append, steps_append, hempty,
      List.append_nil]
  · exact steps_append _ _

theorem isAbsolute_join {b : Path} (hb : isAbsolute b = true) (p : Path) :
    isAbsolute (join b p) = true := by
  obtain ⟨r, rfl⟩ := isAbsolute_iff.1 hb
  unfold join
  split
  · assumption
  · split <;> rfl

/-! ## What is left of the steps -/

/-- The names left after some steps, from those there were: a double dot takes the last one. -/
def follow (names : List Text) : List Component → List Text
  | [] => names
  | up :: cs => follow names.dropLast cs
  | name t :: cs => follow (names ++ [t]) cs
  | _ :: cs => follow names cs

/-- How many double dots find no name before them that they could take back. A name is there for
one of those that follow it. -/
def climb : List Component → Nat
  | [] => 0
  | up :: cs => climb cs + 1
  | name _ :: cs => climb cs - 1
  | _ :: cs => climb cs

/-- The steps take names off the end of those there were, and put their own in place. -/
theorem follow_eq (names : List Text) (cs : List Component) :
    follow names cs = names.rdrop (climb cs) ++ follow [] cs := by
  induction cs generalizing names with
  | nil => simp [follow, climb, List.rdrop]
  | cons c cs ih =>
    cases c with
    | root => exact ih names
    | here => exact ih names
    | up =>
      have hdrop : names.dropLast.rdrop (climb cs) = names.rdrop (climb cs + 1) := by
        rw [List.rdrop, List.rdrop, List.dropLast_eq_take, List.take_take, List.length_take]
        congr 1
        omega
      simp only [follow, climb, List.dropLast_nil]
      rw [ih names.dropLast, hdrop]
    | name t =>
      simp only [follow, climb, List.nil_append]
      rw [ih (names ++ [t]), ih [t]]
      cases climb cs with
      | zero => simp only [List.rdrop_zero, Nat.zero_sub, List.append_assoc]
      | succ k =>
        have hnone : [t].rdrop (k + 1) = [] := by simp [List.rdrop]
        rw [List.rdrop_concat_succ, Nat.add_sub_cancel, hnone, List.nil_append]

theorem follow_map_name (names ts : List Text) : follow names (ts.map name) = names ++ ts := by
  induction ts generalizing names with
  | nil => simp [follow]
  | cons t ts ih => simp [follow, ih]

theorem mem_of_mem_follow {t : Text} {names : List Text} {cs : List Component}
    (h : t ∈ follow names cs) : t ∈ names ∨ name t ∈ cs := by
  induction cs generalizing names with
  | nil => exact .inl h
  | cons c cs ih =>
    cases c with
    | root => exact (ih h).imp_right (List.mem_cons_of_mem _)
    | here => exact (ih h).imp_right (List.mem_cons_of_mem _)
    | up => exact (ih h).imp List.mem_of_mem_dropLast (List.mem_cons_of_mem _)
    | name u =>
      rcases ih h with hnames | hcs
      · rcases List.mem_append.1 hnames with hnames | hu
        · exact .inl hnames
        · exact .inr (List.mem_singleton.1 hu ▸ List.mem_cons_self)
      · exact .inr (List.mem_cons_of_mem _ hcs)

def Component.isName : Component → Bool
  | name _ => true
  | root => false
  | here => false
  | up => false

theorem forall_prefix_cons {P : List Component → Prop} (hnil : P []) (c : Component)
    (cs : List Component) : (∀ a, a <+: c :: cs → P a) ↔ ∀ a, a <+: cs → P (c :: a) := by
  constructor
  · intro h a ha
    exact h _ ((List.prefix_cons_inj c).2 ha)
  · intro h a ha
    rcases List.prefix_cons_iff.1 ha with rfl | ⟨r, rfl, hr⟩
    · exact hnil
    · exact h r hr

/-- Levels are climbed where the components up to some place have more double dots than names. -/
theorem climb_le_iff {cs : List Component} {k : Nat} :
    climb cs ≤ k ↔ ∀ a, a <+: cs → a.count up ≤ a.countP Component.isName + k := by
  induction cs generalizing k with
  | nil => simp [climb]
  | cons c cs ih =>
    rw [forall_prefix_cons (by simp)]
    cases c with
    | root => simpa [climb, Component.isName] using ih
    | here => simpa [climb, Component.isName] using ih
    | up =>
      cases k with
      | zero =>
        simp only [climb, Nat.le_zero, Nat.add_one_ne_zero, false_iff]
        intro h
        simpa [Component.isName] using h [] List.nil_prefix
      | succ k =>
        simp only [climb, Nat.add_le_add_iff_right, ih, List.count_cons_self]
        refine forall₂_congr fun a ha => ?_
        simp [Component.isName, ← Nat.add_assoc]
    | name t =>
      simp only [climb, Nat.sub_le_iff_le_add, ih]
      refine forall₂_congr fun a ha => ?_
      rw [List.count_cons_of_ne (by simp), List.countP_cons_of_pos rfl, Nat.add_assoc,
        Nat.add_comm 1 k]

/-! ## Normalized paths -/

/-- The names of a path when its dots are resolved. -/
def names (p : Path) : List Text := follow [] (components p)

theorem isName_of_mem_names {p : Path} {t : Text} (h : t ∈ names p) : IsName t := by
  have ht : name t ∈ components p := (mem_of_mem_follow h).resolve_left List.not_mem_nil
  rw [components_eq] at ht
  have hsteps : name t ∈ steps p := by
    refine (List.mem_append.1 ht).resolve_left ?_
    unfold start
    split
    · simp
    · split <;> simp
  obtain hup | ⟨u, hu, htu⟩ := steps_cases hsteps
  · cases hup
  · cases htu
    exact hu

/-- Resolving dots follows the steps, after the root if there is one. -/
theorem foldl_resolveStep {cs front : List Component} (hfront : front = [] ∨ front = [root])
    (hcs : root ∉ cs) (ts : List Text) :
    cs.foldl resolveStep (front ++ ts.map name) = front ++ (follow ts cs).map name := by
  induction cs generalizing ts with
  | nil => rfl
  | cons c cs ih =>
    rw [List.mem_cons, not_or] at hcs
    rw [List.foldl_cons]
    cases c with
    | root => exact absurd rfl hcs.1
    | here => exact ih hcs.2 ts
    | name t =>
      have hstep : resolveStep (front ++ ts.map name) (name t) = front ++ (ts ++ [t]).map name := by
        simp [resolveStep]
      rw [hstep, ih hcs.2]
      rfl
    | up =>
      have hstep : resolveStep (front ++ ts.map name) up = front ++ ts.dropLast.map name := by
        rcases List.eq_nil_or_concat ts with rfl | ⟨ts, t, rfl⟩
        · rcases hfront with rfl | rfl <;> rfl
        · simp [resolveStep, parentComponents?, ← List.append_assoc]
      rw [hstep, ih hcs.2]
      rfl

theorem root_notMem_steps (p : Path) : root ∉ steps p := by
  intro h
  rcases steps_cases h with h | ⟨t, -, h⟩ <;> cases h

theorem names_of_isAbsolute {p : Path} (h : isAbsolute p = true) :
    names p = follow [] (steps p) := by
  rw [names, components_of_isAbsolute h]
  rfl

/-- The root of an absolute path. -/
def base (p : Path) : List Component := if isAbsolute p then [root] else []

theorem foldl_components (p : Path) :
    (components p).foldl resolveStep [] = base p ++ (names p).map name := by
  by_cases h : isAbsolute p = true
  · rw [base, if_pos h, names_of_isAbsolute h, components_of_isAbsolute h]
    exact foldl_resolveStep (.inr rfl) (root_notMem_steps p) []
  · have hroot : root ∉ components p := by
      rw [components_eq, start, if_neg h, List.mem_append, not_or]
      refine ⟨?_, root_notMem_steps p⟩
      split <;> simp
    rw [base, if_neg h]
    exact foldl_resolveStep (.inl rfl) hroot []

theorem normalize_eq (p : Path) : normalize p = ofComponents (base p ++ (names p).map name) := by
  rw [normalize, foldl_components]

theorem map_text_map_name (ts : List Text) : (ts.map name).map Component.text = ts := by
  rw [List.map_map]
  exact List.map_id ts

theorem ofComponents_root (ts : List Text) :
    ofComponents (root :: ts.map name) = '/' :: Text.joinWith ['/'] ts := by
  rw [ofComponents, map_text_map_name]

theorem ofComponents_map_name (ts : List Text) :
    ofComponents (ts.map name) = Text.joinWith ['/'] ts := by
  cases ts with
  | nil => rfl
  | cons t ts => exact congrArg (Text.joinWith ['/']) (map_text_map_name (t :: ts))

theorem components_joinWith {ts : List Text} (h : ∀ t ∈ ts, IsName t) :
    components (Text.joinWith ['/'] ts) = ts.map name := by
  cases ts with
  | nil => rfl
  | cons t ts =>
    have hpieces := Text.splitOnChar_joinWith (List.cons_ne_nil t ts) fun u hu => (h u hu).notMem
    have ht := h t List.mem_cons_self
    have hrelative : isAbsolute (Text.joinWith ['/'] (t :: ts)) ≠ true := by
      intro habsolute
      obtain ⟨r, hr⟩ := isAbsolute_iff.1 habsolute
      rw [hr, Text.splitOnChar, if_pos rfl] at hpieces
      exact ht.ne_nil (List.cons.inj hpieces).1.symm
    have hstart : start (Text.joinWith ['/'] (t :: ts)) = [] := by
      rw [start, if_neg hrelative, hpieces, if_neg]
      simpa using ht.ne_here
    rw [components_eq, hstart, List.nil_append, steps_joinWith h]

/-- Names, written after a root or not, are read back. -/
theorem components_ofComponents {front : List Component} (hfront : front = [] ∨ front = [root])
    {ts : List Text} (h : ∀ t ∈ ts, IsName t) :
    components (ofComponents (front ++ ts.map name)) = front ++ ts.map name := by
  rcases hfront with rfl | rfl
  · rw [List.nil_append, ofComponents_map_name, components_joinWith h]
  · rw [List.singleton_append, ofComponents_root, components_of_isAbsolute rfl]
    exact congrArg (root :: ·) ((steps_append [] _).trans (steps_joinWith h))

theorem base_cases (p : Path) : base p = [] ∨ base p = [root] := by
  unfold base
  split
  · exact .inr rfl
  · exact .inl rfl

/-- A normalized path is its root and the names that were left. -/
theorem components_normalize (p : Path) :
    components (normalize p) = base p ++ (names p).map name := by
  rw [normalize_eq, components_ofComponents (base_cases p) fun _ => isName_of_mem_names]

theorem root_mem_components_iff {p : Path} : root ∈ components p ↔ isAbsolute p = true := by
  rw [components_eq, List.mem_append, or_iff_left (root_notMem_steps p), start]
  by_cases h : isAbsolute p = true
  · simp [h]
  · rw [if_neg h]
    split <;> simp [h]

theorem isAbsolute_normalize (p : Path) : isAbsolute (normalize p) = isAbsolute p := by
  rw [Bool.eq_iff_iff, ← root_mem_components_iff, components_normalize, base]
  by_cases h : isAbsolute p = true <;> simp [h]

theorem names_normalize (p : Path) : names (normalize p) = names p := by
  rw [names, components_normalize]
  rcases base_cases p with h | h <;> rw [h]
  · exact follow_map_name [] (names p)
  · exact follow_map_name [] (names p)

theorem normalize_normalize (p : Path) : normalize (normalize p) = normalize p := by
  rw [normalize_eq (normalize p), names_normalize, base, isAbsolute_normalize, normalize_eq p, base]

theorem dots_notMem_normalize (p : Path) :
    here ∉ components (normalize p) ∧ up ∉ components (normalize p) := by
  rw [components_normalize]
  rcases base_cases p with h | h <;> rw [h] <;> simp

/-! ## Joined paths -/

theorem follow_append (ts : List Text) (cs ds : List Component) :
    follow ts (cs ++ ds) = follow (follow ts cs) ds := by
  induction cs generalizing ts with
  | nil => rfl
  | cons c cs ih => cases c <;> exact ih _

theorem follow_steps {p : Path} (h : isAbsolute p = false) (ts : List Text) :
    follow ts (steps p) = follow ts (components p) := by
  rw [components_eq, start, h, if_neg Bool.false_ne_true]
  split <;> rfl

/-- Where a path is joined to a directory, it takes as many names of the directory as it climbs
levels. -/
theorem names_join {b p : Path} (hb : isAbsolute b = true) (hp : isAbsolute p = false) :
    names (join b p) = (names b).rdrop (climb (components p)) ++ names p := by
  calc
    names (join b p) = follow [] (steps b ++ steps p) := by
      rw [names_of_isAbsolute (isAbsolute_join hb p), steps_join hb hp]
    _ = follow (names b) (components p) := by
      rw [follow_append, ← names_of_isAbsolute hb, follow_steps hp]
    _ = _ := follow_eq _ _

theorem climb_normalize (p : Path) : climb (components (normalize p)) = 0 := by
  rw [← Nat.le_zero, climb_le_iff]
  intro a ha
  have hup : a.count up = 0 :=
    List.count_eq_zero_of_not_mem fun h => (dots_notMem_normalize p).2 (ha.subset h)
  rw [hup]
  exact Nat.zero_le _

theorem components_normalize_of_isAbsolute {p : Path} (h : isAbsolute p = true) :
    components (normalize p) = root :: (names p).map name := by
  rw [components_normalize, base, if_pos h, List.singleton_append]

theorem normalize_eq_normalize_iff {p q : Path} (hp : isAbsolute p = true)
    (hq : isAbsolute q = true) : normalize p = normalize q ↔ names p = names q := by
  constructor
  · intro h
    rw [← names_normalize p, h, names_normalize]
  · intro h
    rw [normalize_eq p, normalize_eq q, h, base, base, if_pos hp, if_pos hq]

theorem normalize_eq_root_iff {b : Path} (hb : isAbsolute b = true) :
    normalize b = ['/'] ↔ names b = [] :=
  normalize_eq_normalize_iff (q := ['/']) hb rfl

theorem rdrop_eq_self_iff {ts : List Text} {k : Nat} : ts.rdrop k = ts ↔ ts = [] ∨ k = 0 := by
  rw [List.rdrop, List.take_eq_self_iff, ← List.length_eq_zero_iff]
  omega

/-- Resolving dots leaves none and is done once. Joined to a directory, a path leads up as many
levels as it climbs and then down its own names; resolved before it is joined, it only leads
down. -/
theorem normalize_lexical :
    (∀ p, here ∉ components (normalize p) ∧ up ∉ components (normalize p)) ∧
    (∀ p, normalize (normalize p) = normalize p) ∧
    ∀ b p, isAbsolute b = true → isAbsolute p = false →
      components (normalize (join b p)) =
        root :: ((components (normalize b)).tail.rdrop (climb (components p)) ++
          components (normalize p)) ∧
      (normalize (join b (normalize p)) = normalize (join b p) ↔
        normalize b = ['/'] ∨
          ∀ a, a <+: components p → a.count up ≤ a.countP Component.isName) := by
  refine ⟨dots_notMem_normalize, normalize_normalize, fun b p hb hp => ⟨?_, ?_⟩⟩
  · have hbase : base p = [] := by rw [base, hp, if_neg Bool.false_ne_true]
    rw [components_normalize_of_isAbsolute (isAbsolute_join hb p), names_join hb hp,
      components_normalize_of_isAbsolute hb, components_normalize p, hbase]
    simp [List.rdrop, List.map_take]
  · have hp' : isAbsolute (normalize p) = false := by rw [isAbsolute_normalize, hp]
    have hclimb : climb (components p) ≤ 0 ↔ _ := climb_le_iff
    rw [normalize_eq_normalize_iff (isAbsolute_join hb _) (isAbsolute_join hb _),
      names_join hb hp', names_join hb hp, climb_normalize, List.rdrop_zero, names_normalize,
      List.append_cancel_right_eq, eq_comm, rdrop_eq_self_iff, normalize_eq_root_iff hb,
      ← Nat.le_zero, hclimb]
    rfl

theorem normalize_lexical_climbing :
    let b : Path := "/work/x/y".toList
    let p : Path := "a/./../../b".toList
    (isAbsolute b = true ∧ isAbsolute p = false) ∧
      normalize (join b p) = "/work/x/b".toList ∧ normalize (join b (normalize p)) =
        "/work/x/y/b".toList ∧
      (normalize (join b (normalize p)) = normalize (join b p) ↔
        normalize b = ['/'] ∨
          ∀ a, a <+: components p → a.count up ≤ a.countP Component.isName) := by
  intro b p
  have hb : isAbsolute b = true := by decide
  have hp : isAbsolute p = false := by decide
  exact ⟨⟨hb, hp⟩, by decide, by decide, (normalize_lexical.2.2 b p hb hp).2⟩

/-- A path that climbs leads elsewhere once it is resolved by itself. -/
theorem normalize_join_of_climbing :
    let b : Path := "/work/x".toList
    let p : Path := "../b".toList
    (isAbsolute b = true ∧ isAbsolute p = false) ∧
      normalize (join b (normalize p)) = "/work/x/b".toList ∧
      normalize (join b p) = "/work/b".toList ∧
      ¬ normalize (join b (normalize p)) = normalize (join b p) := by
  decide

end Path

end LanguageClient
