import LanguageClient.Proofs.Settings.Flat
namespace LanguageClient

/-!
# Sections and scopes of a document

A section of a document without scopes is the value found at its path. In a scope the leaves of the
scope come over the global ones. A scoped leaf gives way where a global leaf is below its path, as
the longer key comes later when the attributes are nested again.
-/

open Settings (IsKey IsPath keyOf)

namespace ServerSettings

variable {ms inner : List (String × Json)} {scopes : List (String × Attributes)}

/-! ## Reading a document -/

theorem bracketed?_eq_some_iff {key p : String} :
    bracketed? key = some p.toList ↔ key = "<" ++ p ++ ">" := by
  have hspell : key = "<" ++ p ++ ">" ↔ key.toList = '<' :: (p.toList ++ ['>']) := by
    rw [← String.toList_inj, String.toList_append, String.toList_append]
    rfl
  rw [hspell, bracketed?]
  split
  · rename_i r hkey
    rw [hkey, List.cons.injEq, and_iff_right rfl]
    split
    · rename_i hlast
      rw [Option.some.injEq]
      constructor
      · rintro h
        rw [← h, List.dropLast_append_getLast? _ hlast]
      · rintro rfl
        exact List.dropLast_concat
    · rename_i hlast
      constructor
      · intro h
        cases h
      · rintro rfl
        exact absurd List.getLast?_concat hlast
  · rename_i hhead
    constructor
    · intro h
      cases h
    · intro h
      exact absurd h (hhead _)

theorem isScopeKey_iff {key : String} :
    isScopeKey key = true ↔ ∃ p, key = "<" ++ p ++ ">" := by
  constructor
  · intro h
    rw [isScopeKey, Bool.and_eq_true, beq_iff_eq, beq_iff_eq] at h
    obtain ⟨hhead, hlast⟩ := h
    obtain ⟨r, hr⟩ := List.head?_eq_some_iff.1 hhead
    obtain ⟨s, hs⟩ := List.getLast?_eq_some_iff.1 hlast
    rw [hr] at hs
    cases s with
    | nil => cases hs
    | cons c s =>
      obtain ⟨rfl, hrest⟩ := List.cons.inj hs
      have hinner : (String.ofList s).toList = s := String.toList_ofList
      refine ⟨String.ofList s, ?_⟩
      rw [← String.toList_inj, String.toList_append, String.toList_append, hinner, hr, hrest]
      rfl
  · rintro ⟨p, rfl⟩
    rw [isScopeKey, String.toList_append, String.toList_append, Bool.and_eq_true, beq_iff_eq,
      beq_iff_eq]
    exact ⟨rfl, List.getLast?_concat⟩

theorem ne_globalScope {key : String} (h : isScopeKey key = true) : key ≠ globalScope := by
  rintro rfl
  cases h

theorem lookup_updateScope_same (name : String) (f : Attributes → Attributes) :
    (updateScope name f scopes).lookup name = some (f ((scopes.lookup name).getD [])) := by
  induction scopes with
  | nil => simp [updateScope]
  | cons e scopes ih =>
    obtain ⟨n, a⟩ := e
    by_cases h : n = name
    · simp [updateScope, h]
    · have hb : (name == n) = false := beq_eq_false_iff_ne.2 (Ne.symm h)
      rw [updateScope, if_neg h, List.lookup_cons, hb, ih, List.lookup_cons, hb]

theorem lookup_updateScope_ne {name other : String} (h : other ≠ name)
    (f : Attributes → Attributes) :
    (updateScope name f scopes).lookup other = scopes.lookup other := by
  have hb : (other == name) = false := beq_eq_false_iff_ne.2 h
  induction scopes with
  | nil => simp [updateScope, List.lookup_cons, hb]
  | cons e scopes ih =>
    obtain ⟨n, a⟩ := e
    by_cases hn : n = name
    · subst hn
      rw [updateScope, if_pos rfl, List.lookup_cons, List.lookup_cons, hb]
    · rw [updateScope, if_neg hn, List.lookup_cons, List.lookup_cons, ih]

theorem mem_names_updateScope {name other : String} {f : Attributes → Attributes} :
    other ∈ (updateScope name f scopes).map Prod.fst ↔
      other = name ∨ other ∈ scopes.map Prod.fst := by
  induction scopes with
  | nil => simp [updateScope]
  | cons e scopes ih =>
    obtain ⟨n, a⟩ := e
    by_cases h : n = name
    · subst h
      simp [updateScope]
    · rw [updateScope, if_neg h, List.map_cons, List.mem_cons, ih, List.map_cons, List.mem_cons]
      exact or_left_comm

/-- The scope that a member goes to. -/
def target (key : String) : String := if isScopeKey key then key else globalScope

/-- A member put in its scope. -/
def place (scopes : List (String × Attributes)) (m : String × Json) :
    List (String × Attributes) :=
  updateScope (target m.1)
    (if isScopeKey m.1 then Settings.flattenMembers "" m.2.members else Settings.flatten m.1 m.2)
    scopes

theorem addMember_eq {m : String × Json} (h : isScopeKey m.1 = true → m.2.isLeaf = false) :
    addMember scopes m = .ok (place scopes m) := by
  rw [addMember, place, target]
  split
  · rename_i hscope
    cases hj : m.2 with
    | obj ms => rfl
    | _ =>
      have hleaf := h hscope
      rw [hj] at hleaf
      cases hleaf
  · rfl

/-- The settings of a document with the given members. -/
def ofMembers (ms : List (String × Json)) : ServerSettings :=
  ⟨ms.foldl place [(globalScope, [])]⟩

/-- A document is read when its scopes hold objects. -/
theorem ofJson_eq (h : ∀ m ∈ ms, isScopeKey m.1 = true → m.2.isLeaf = false) :
    ofJson (.obj ms) = .ok (ofMembers ms) := by
  have hfold : ∀ scopes, ms.foldlM addMember scopes = .ok (ms.foldl place scopes) := by
    induction ms with
    | nil => exact fun _ => rfl
    | cons m ms ih =>
      obtain ⟨hm, hms⟩ := List.forall_mem_cons.1 h
      intro scopes
      rw [List.foldlM_cons, addMember_eq hm, List.foldl_cons]
      exact ih hms _
  rw [ofJson, hfold]
  rfl

/-- The members that are for all documents. -/
def globalPart (ms : List (String × Json)) : List (String × Json) :=
  ms.filter fun m => !isScopeKey m.1

/-- The attributes that the members of an object are flattened to. -/
def flat (ms : List (String × Json)) : Attributes := Settings.flattenMembers "" ms []

theorem lookup_place_ne {m : String × Json} {name : String} (h : name ≠ target m.1) :
    (place scopes m).lookup name = scopes.lookup name := lookup_updateScope_ne h _

theorem lookup_global_foldl_place {a : Attributes} (h : scopes.lookup globalScope = some a) :
    (ms.foldl place scopes).lookup globalScope =
      some (Settings.flattenMembers "" (globalPart ms) a) := by
  induction ms generalizing scopes a with
  | nil => exact h
  | cons m ms ih =>
    rw [List.foldl_cons, globalPart, List.filter_cons]
    by_cases hscope : isScopeKey m.1 = true
    · have hne : globalScope ≠ target m.1 := by
        rw [target, if_pos hscope]
        exact (ne_globalScope hscope).symm
      rw [hscope]
      exact ih ((lookup_place_ne hne).trans h)
    · have hplaced : (place scopes m).lookup globalScope = some (Settings.flatten m.1 m.2 a) := by
        rw [place, target, if_neg hscope, if_neg hscope, lookup_updateScope_same, h]
        rfl
      rw [Bool.eq_false_iff.2 hscope]
      exact ih hplaced

theorem lookup_scope_foldl_place_of_notMem {key : String} (hkey : isScopeKey key = true)
    (h : ∀ m ∈ ms, m.1 ≠ key) :
    (ms.foldl place scopes).lookup key = scopes.lookup key := by
  induction ms generalizing scopes with
  | nil => rfl
  | cons m ms ih =>
    obtain ⟨hm, hms⟩ := List.forall_mem_cons.1 h
    have hne : key ≠ target m.1 := by
      rw [target]
      split
      · exact hm.symm
      · exact ne_globalScope hkey
    rw [List.foldl_cons, ih hms, lookup_place_ne hne]

theorem lookup_scope_foldl_place {key : String} (hsorted : Json.Sorted ms)
    (hkey : isScopeKey key = true) (hmem : (key, .obj inner) ∈ ms)
    (hnone : scopes.lookup key = .none) :
    (ms.foldl place scopes).lookup key = some (Settings.flattenMembers "" inner []) := by
  induction ms generalizing scopes with
  | nil => cases hmem
  | cons m ms ih =>
    rw [List.foldl_cons]
    rcases List.mem_cons.1 hmem with rfl | hmem
    · rw [lookup_scope_foldl_place_of_notMem hkey fun m hm => hsorted.ne_of_mem hm, place, target,
        if_pos hkey, if_pos hkey, lookup_updateScope_same, hnone]
      rfl
    · have hne : key ≠ target m.1 := by
        rw [target]
        split
        · exact hsorted.ne_of_mem hmem
        · exact ne_globalScope hkey
      exact ih (List.Pairwise.of_cons hsorted) hmem ((lookup_place_ne hne).trans hnone)

theorem mem_names_foldl_place {name : String} :
    name ∈ (ms.foldl place scopes).map Prod.fst ↔
      name ∈ scopes.map Prod.fst ∨ ∃ m ∈ ms, target m.1 = name := by
  induction ms generalizing scopes with
  | nil => simp
  | cons m ms ih =>
    rw [List.foldl_cons, ih, place, mem_names_updateScope, List.exists_mem_cons_iff, or_assoc,
      or_left_comm, eq_comm]

theorem scope?_ofMembers_global (ms : List (String × Json)) :
    (ofMembers ms).scope? globalScope = some (flat (globalPart ms)) :=
  lookup_global_foldl_place rfl

theorem scope?_ofMembers {key : String} (hsorted : Json.Sorted ms)
    (hkey : isScopeKey key = true) (hmem : (key, .obj inner) ∈ ms) :
    (ofMembers ms).scope? key = some (flat inner) := by
  apply lookup_scope_foldl_place hsorted hkey hmem
  rw [List.lookup_cons, beq_eq_false_iff_ne.2 (ne_globalScope hkey)]
  rfl

theorem mem_names_ofMembers {key : String} (hkey : isScopeKey key = true) :
    key ∈ (ofMembers ms).scopes.map Prod.fst ↔ ∃ j, (key, j) ∈ ms := by
  rw [ofMembers, mem_names_foldl_place, List.map_singleton, List.mem_singleton]
  constructor
  · rintro (hglobal | ⟨⟨name, j⟩, hm, htarget⟩)
    · exact absurd hglobal (ne_globalScope hkey)
    · rw [target] at htarget
      split at htarget
      · exact ⟨j, htarget ▸ hm⟩
      · exact absurd htarget.symm (ne_globalScope hkey)
  · rintro ⟨j, hm⟩
    exact .inr ⟨_, hm, if_pos hkey⟩

/-! ## The scope of a URI -/

theorem startsWith_iff {p t : Text} : startsWith p t = true ↔ p <+: t := by
  induction p generalizing t with
  | nil => exact iff_of_true rfl List.nil_prefix
  | cons a p ih =>
    cases t with
    | nil => exact iff_of_false Bool.false_ne_true (List.cons_ne_nil _ _ ∘ List.prefix_nil.1)
    | cons b t => rw [startsWith, Bool.and_eq_true, beq_iff_eq, ih, List.cons_prefix_cons]

/-- Of two prefixes of a text the shorter one makes the smaller name. -/
theorem size_lt_of_prefixes {p q uri : String} (hp : p.toList <+: uri.toList)
    (hq : q.toList <+: uri.toList) (hle : q.length ≤ p.length) (hne : q ≠ p) :
    ("<" ++ q ++ ">").utf8ByteSize < ("<" ++ p ++ ">").utf8ByteSize := by
  rw [← String.length_toList, ← String.length_toList] at hle
  obtain ⟨r, hr⟩ := List.prefix_of_prefix_length_le hq hp hle
  have hsplit : p = q ++ String.ofList r := by
    have hinner : (String.ofList r).toList = r := String.toList_ofList
    rw [← String.toList_inj, String.toList_append, hinner, hr]
  have hrest : (String.ofList r).utf8ByteSize ≠ 0 := by
    intro hzero
    rw [String.utf8ByteSize_eq_zero_iff] at hzero
    rw [hzero, String.append_empty] at hsplit
    exact hne hsplit.symm
  rw [hsplit]
  simp only [String.utf8ByteSize_append]
  omega

/-- Whatever the order, the largest name is the one that is kept. -/
theorem foldl_longest {fits : List (String × Attributes)} {key : String} (hkey : key ≠ globalScope)
    (hothers : ∀ e ∈ fits, e.1 ≠ key → e.1.utf8ByteSize < key.utf8ByteSize) {best : String}
    (hbest : best = key ∨
      (∃ e ∈ fits, e.1 = key) ∧ (best = globalScope ∨ best.utf8ByteSize ≤ key.utf8ByteSize)) :
    fits.foldl
      (fun best e =>
        if best = globalScope ∨ best.utf8ByteSize ≤ e.1.utf8ByteSize then e.1 else best)
      best = key := by
  induction fits generalizing best with
  | nil =>
    rcases hbest with hbest | ⟨⟨e, he, -⟩, -⟩
    · exact hbest
    · cases he
  | cons e fits ih =>
    obtain ⟨he, hothers⟩ := List.forall_mem_cons.1 hothers
    rw [List.foldl_cons]
    apply ih hothers
    by_cases heq : e.1 = key
    · left
      rw [heq]
      rcases hbest with rfl | ⟨-, hbest⟩
      · exact if_pos (.inr (Nat.le_refl _))
      · exact if_pos hbest
    · have hlt := he heq
      rcases hbest with rfl | ⟨⟨x, hx, hxkey⟩, hbest⟩
      · left
        rw [if_neg]
        rintro (hglobal | hle)
        · exact hkey hglobal
        · omega
      · rcases List.mem_cons.1 hx with rfl | hx
        · exact absurd hxkey heq
        · refine .inr ⟨⟨x, hx, hxkey⟩, ?_⟩
          split
          · exact .inr (Nat.le_of_lt hlt)
          · exact hbest

theorem scopeForUri_eq {s : ServerSettings} {uri p : String} (huri : uri ≠ "")
    (hp : "<" ++ p ++ ">" ∈ s.scopes.map Prod.fst) (hstarts : p.toList <+: uri.toList)
    (hlongest : ∀ q, "<" ++ q ++ ">" ∈ s.scopes.map Prod.fst → q.toList <+: uri.toList →
      q.length ≤ p.length) :
    s.scopeForUri uri = "<" ++ p ++ ">" := by
  rw [scopeForUri, if_neg huri]
  apply foldl_longest (ne_globalScope (isScopeKey_iff.2 ⟨p, rfl⟩))
  · rintro ⟨name, a⟩ he hne
    obtain ⟨hmem, hfits⟩ := List.mem_filter.1 he
    dsimp only at hfits hne ⊢
    cases hb : bracketed? name with
    | none =>
      rw [hb] at hfits
      cases hfits
    | some t =>
      rw [hb] at hfits
      have hinner : (String.ofList t).toList = t := String.toList_ofList
      rw [← hinner] at hb hfits
      obtain rfl := bracketed?_eq_some_iff.1 hb
      have hprefix := startsWith_iff.1 hfits
      refine size_lt_of_prefixes hstarts hprefix
        (hlongest _ (List.mem_map_of_mem (f := Prod.fst) hmem) hprefix) ?_
      intro heq
      exact hne (heq ▸ rfl)
  · obtain ⟨e, he, hname⟩ := List.mem_map.1 hp
    refine .inr ⟨⟨e, ?_, hname⟩, .inl rfl⟩
    rw [List.mem_filter, hname, bracketed?_eq_some_iff.2 rfl]
    exact ⟨he, startsWith_iff.2 hstarts⟩

theorem scopeForUri_ofMembers {uri p : String} (huri : uri ≠ "")
    (hp : ("<" ++ p ++ ">", .obj inner) ∈ ms) (hstarts : p.toList <+: uri.toList)
    (hlongest : ∀ q j, ("<" ++ q ++ ">", j) ∈ ms → q.toList <+: uri.toList →
      q.length ≤ p.length) {scopes : List (String × Attributes)}
    (hperm : (ofMembers ms).scopes.Perm scopes) :
    scopeForUri ⟨scopes⟩ uri = "<" ++ p ++ ">" := by
  have hnames : ∀ q, "<" ++ q ++ ">" ∈ scopes.map Prod.fst ↔ ∃ j, ("<" ++ q ++ ">", j) ∈ ms := by
    intro q
    rw [← (hperm.map Prod.fst).mem_iff, mem_names_ofMembers (isScopeKey_iff.2 ⟨q, rfl⟩)]
  apply scopeForUri_eq huri ((hnames p).2 ⟨_, hp⟩) hstarts
  intro q hq hqstarts
  obtain ⟨j, hj⟩ := (hnames q).1 hq
  exact hlongest q j hj hqstarts

/-! ## Sections -/

theorem attributes?_eq {s : ServerSettings} {name scope : String} {own : Attributes}
    (h : s.scope? scope = some own) :
    s.attributes? name scope =
      some (Settings.layer name
        (Settings.layer name []
          (if scope = globalScope then [] else (s.scope? globalScope).getD [])) own) := by
  rw [attributes?, h]
  rfl

theorem section_eq_render {s : ServerSettings} {name scope : String} {a : Attributes}
    (h : s.attributes? name scope = some a) : s.section_ name scope = Settings.render a := by
  rw [section_, h]
  cases a <;> rfl

theorem flat_eq (ms : List (String × Json)) : flat ms = Settings.flatten (keyOf []) (.obj ms) [] := by
  rw [Settings.flatten, Settings.keyOf_nil, flat]

theorem dotted_flat (h : (Json.obj ms).Tidy) : Settings.Dotted (flat ms) := by
  rw [flat_eq]
  exact Settings.dotted_flatten h Settings.isPath_nil Settings.dotted_nil

theorem lookup_flat (h : (Json.obj ms).Tidy) {path : List String} (hpath : IsPath path) :
    Json.lookup (keyOf path) (flat ms) = (Json.obj ms).leafAt? path := by
  have hlookup : Json.lookup (keyOf path) (Settings.flatten (keyOf []) (.obj ms) []) =
      ((Json.obj ms).leafAt? path).or (Json.lookup (keyOf path) []) :=
    Settings.lookup_flatten h Settings.isPath_nil hpath
  rw [flat_eq, hlookup, Json.lookup_nil, Option.or_none]

theorem globalPart_eq (h : ∀ m ∈ ms, isScopeKey m.1 = false) : globalPart ms = ms := by
  rw [globalPart, List.filter_eq_self]
  intro m hm
  rw [h m hm]
  rfl

/-- A section of the global attributes is the value at its path, or null. -/
theorem section_global {s : ServerSettings} (htidy : (Json.obj ms).Tidy)
    (hfull : (Json.obj ms).Full) (hown : s.scope? globalScope = some (flat ms))
    {path : List String} (hpath : IsPath path) :
    s.section_ (keyOf path) globalScope = ((Json.obj ms).valueAt? path).getD .null := by
  rw [section_eq_render (attributes?_eq hown), if_pos rfl]
  change Settings.render (Settings.layer (keyOf path) [] (flat ms)) = _
  have hdotted : Settings.Dotted (Settings.layer (keyOf path) [] (flat ms)) :=
    Settings.dotted_layer (dotted_flat htidy) hpath Settings.dotted_nil
  have hlookup : ∀ q, IsPath q →
      Json.lookup (keyOf q) (Settings.layer (keyOf path) [] (flat ms)) =
        ((Json.obj ms).valueAt? path).bind (Json.leafAt? q) := by
    intro q hq
    rw [Settings.lookup_layer (dotted_flat htidy) hpath hq,
      lookup_flat htidy (Settings.isPath_append.2 ⟨hpath, hq⟩), Json.leafAt?_append,
      Json.lookup_nil, Option.or_none]
  cases hvalue : (Json.obj ms).valueAt? path with
  | some v =>
    rw [hvalue] at hlookup
    exact Settings.render_eq hdotted (htidy.valueAt? hvalue).2 (hfull.valueAt? hvalue) hlookup
  | none =>
    rw [hvalue] at hlookup
    rw [hdotted.eq_nil hlookup]
    rfl

/-- A document without scopes and without empty objects is given back by its settings, and a
section of them is the value at its path. -/
theorem section_ofJson (htidy : (Json.obj ms).Tidy) (hfull : (Json.obj ms).Full)
    (hscope : ∀ m ∈ ms, isScopeKey m.1 = false) :
    ∃ s, ofJson (.obj ms) = .ok s ∧ s.toJson = .obj ms ∧
      ∀ path, path ≠ [] → IsPath path →
        s.section_ (".".intercalate path) globalScope =
          ((Json.obj ms).valueAt? path).getD .null := by
  have hown : (ofMembers ms).scope? globalScope = some (flat ms) := by
    rw [scope?_ofMembers_global, globalPart_eq hscope]
  refine ⟨ofMembers ms, ofJson_eq ?_, ?_, ?_⟩
  · intro m hm h
    rw [hscope m hm] at h
    cases h
  · exact section_global htidy hfull hown Settings.isPath_nil
  · intro path _ hpath
    exact section_global htidy hfull hown hpath

theorem section_ofJson_nested :
    ∃ s, ofJson (.obj [("editor", .obj [("tab", .int 4)]), ("trace", .str "off")]) = .ok s ∧
      s.section_ "editor" globalScope = .obj [("tab", .int 4)] ∧
      s.section_ "editor.tab" globalScope = .int 4 ∧
      s.section_ "editor.tab.width" globalScope = .null := by
  have hinner : (Json.obj [("tab", .int 4)]).Tidy ∧ (Json.obj [("tab", .int 4)]).Full := by
    constructor
    · refine .obj (by decide) (by decide) ?_
      rintro _ (_ | ⟨_, ⟨⟩⟩)
      exact .leaf rfl
    · refine Json.full_obj (List.cons_ne_nil _ _) ?_
      rintro _ (_ | ⟨_, ⟨⟩⟩)
      exact Json.full_of_isLeaf rfl
  have htidy : (Json.obj [("editor", .obj [("tab", .int 4)]), ("trace", .str "off")]).Tidy := by
    refine .obj (by decide) (by decide) ?_
    rintro _ (_ | ⟨_, _ | ⟨_, ⟨⟩⟩⟩)
    · exact hinner.1
    · exact .leaf rfl
  have hfull : (Json.obj [("editor", .obj [("tab", .int 4)]), ("trace", .str "off")]).Full := by
    refine Json.full_obj (List.cons_ne_nil _ _) ?_
    rintro _ (_ | ⟨_, _ | ⟨_, ⟨⟩⟩⟩)
    · exact hinner.2
    · exact Json.full_of_isLeaf rfl
  obtain ⟨s, hs, -, hsection⟩ := section_ofJson htidy hfull (by decide)
  refine ⟨s, hs, ?_, ?_, ?_⟩
  · exact hsection ["editor"] (by decide) (by decide)
  · exact hsection ["editor", "tab"] (by decide) (by decide)
  · exact hsection ["editor", "tab", "width"] (by decide) (by decide)

/-! ## Scopes -/

/-- A settings document: every scope holds an object, and all keys, those of the scopes aside, are
pieces of dotted keys. -/
structure Document (ms : List (String × Json)) : Prop where
  sorted : Json.Sorted ms
  shared : ∀ m ∈ ms, isScopeKey m.1 = false → IsKey m.1 ∧ m.2.Tidy
  bracketed : ∀ m ∈ ms, isScopeKey m.1 = true → m.2.isLeaf = false ∧ m.2.Tidy

/-- The leaf at a path in a scope: its own, or else the global one. -/
def overlaid (inner ms : List (String × Json)) (path : List String) : Option Json :=
  ((Json.obj inner).leafAt? path).or ((Json.obj (globalPart ms)).leafAt? path)

namespace Document

variable {p : String} {path : List String} {v : Json}

theorem tidy_globalPart (h : Document ms) : (Json.obj (globalPart ms)).Tidy := by
  refine .obj (List.Pairwise.filter _ h.sorted) ?_ ?_
  · intro m hm
    obtain ⟨hm, hscope⟩ := List.mem_filter.1 hm
    exact (h.shared m hm (Bool.not_eq_true' _ ▸ hscope)).1
  · intro m hm
    obtain ⟨hm, hscope⟩ := List.mem_filter.1 hm
    exact (h.shared m hm (Bool.not_eq_true' _ ▸ hscope)).2

theorem tidy_inner (h : Document ms) (hp : ("<" ++ p ++ ">", .obj inner) ∈ ms) :
    (Json.obj inner).Tidy :=
  (h.bracketed _ hp (isScopeKey_iff.2 ⟨p, rfl⟩)).2

/-- Of the leaves of a scope and the global ones those are found that no other is below. -/
theorem leafAt?_scope_iff (h : Document ms) (hp : ("<" ++ p ++ ">", .obj inner) ∈ ms)
    (hne : path ≠ []) :
    ((ofMembers ms).section_ "" ("<" ++ p ++ ">")).leafAt? path = some v ↔
      IsPath path ∧ overlaid inner ms path = some v ∧
        ∀ t, IsPath t → t ≠ [] → overlaid inner ms (path ++ t) = .none := by
  have hscope : isScopeKey ("<" ++ p ++ ">") = true := isScopeKey_iff.2 ⟨p, rfl⟩
  have hown := dotted_flat (h.tidy_inner hp)
  have hshared := dotted_flat h.tidy_globalPart
  rw [section_eq_render (attributes?_eq (scope?_ofMembers h.sorted hscope hp)),
    if_neg (ne_globalScope hscope), scope?_ofMembers_global, Option.getD_some,
    ← Settings.keyOf_nil]
  have hbase : Settings.Dotted (Settings.layer (keyOf []) [] (flat (globalPart ms))) :=
    Settings.dotted_layer hshared Settings.isPath_nil Settings.dotted_nil
  have hdotted := Settings.dotted_layer hown Settings.isPath_nil hbase
  have hlookup : ∀ q, IsPath q →
      Json.lookup (keyOf q)
        (Settings.layer (keyOf []) (Settings.layer (keyOf []) [] (flat (globalPart ms)))
          (flat inner)) = overlaid inner ms q := by
    intro q hq
    rw [Settings.lookup_layer hown Settings.isPath_nil hq,
      Settings.lookup_layer hshared Settings.isPath_nil hq, List.nil_append,
      lookup_flat (h.tidy_inner hp) hq, lookup_flat h.tidy_globalPart hq, Json.lookup_nil,
      Option.or_none]
    rfl
  rw [Settings.leafAt?_render_iff hdotted (hlookup [] Settings.isPath_nil) hne]
  refine and_congr_right fun hpath => ?_
  rw [hlookup path hpath]
  refine and_congr_right fun _ => forall_congr' fun t => forall_congr' fun ht => ?_
  rw [hlookup _ (Settings.isPath_append.2 ⟨hpath, ht⟩)]

theorem valueAt?_own_iff (h : Document ms) (hp : ("<" ++ p ++ ">", .obj inner) ∈ ms)
    (hv : (Json.obj inner).leafAt? path = some v) :
    ((ofMembers ms).section_ "" ("<" ++ p ++ ">")).valueAt? path = some v ↔
      ∀ t, t ≠ [] → (Json.obj (globalPart ms)).leafAt? (path ++ t) = .none := by
  have hne : path ≠ [] := by
    rintro rfl
    cases hv
  have hbelow : ∀ t, t ≠ [] →
      overlaid inner ms (path ++ t) = (Json.obj (globalPart ms)).leafAt? (path ++ t) := by
    intro t ht
    rw [overlaid, Json.leafAt?_append_of_leaf hv ht, Option.none_or]
  have hleaf := (Json.leafAt?_eq_some_iff.1 hv).2
  have hwhole : ((ofMembers ms).section_ "" ("<" ++ p ++ ">")).valueAt? path = some v ↔
      ((ofMembers ms).section_ "" ("<" ++ p ++ ">")).leafAt? path = some v := by
    rw [Json.leafAt?_eq_some_iff, and_iff_left hleaf]
  rw [hwhole, h.leafAt?_scope_iff hp hne]
  constructor
  · rintro ⟨-, -, hends⟩ t ht
    cases hw : (Json.obj (globalPart ms)).leafAt? (path ++ t) with
    | none => rfl
    | some w =>
      have hpath := (Settings.isPath_append.1 (h.tidy_globalPart.isPath hw)).2
      rw [← hbelow t ht, hends t hpath ht] at hw
      cases hw
  · intro hends
    refine ⟨(h.tidy_inner hp).isPath hv, ?_, ?_⟩
    · rw [overlaid, hv, Option.some_or]
    · intro t _ ht
      rw [hbelow t ht, hends t ht]

theorem valueAt?_shared (h : Document ms) (hp : ("<" ++ p ++ ">", .obj inner) ∈ ms)
    (hv : (Json.obj (globalPart ms)).leafAt? path = some v)
    (hapart : ∀ q w, (Json.obj inner).leafAt? q = some w → ¬q <+: path ∧ ¬path <+: q) :
    ((ofMembers ms).section_ "" ("<" ++ p ++ ">")).valueAt? path = some v := by
  have hne : path ≠ [] := by
    rintro rfl
    cases hv
  have hshared : ∀ t,
      overlaid inner ms (path ++ t) = (Json.obj (globalPart ms)).leafAt? (path ++ t) := by
    intro t
    rw [overlaid]
    cases hw : (Json.obj inner).leafAt? (path ++ t) with
    | none => exact Option.none_or
    | some w => exact absurd (List.prefix_append _ _) (hapart _ w hw).2
  refine (Json.leafAt?_eq_some_iff.1 ((h.leafAt?_scope_iff hp hne).2 ⟨?_, ?_, ?_⟩)).1
  · exact h.tidy_globalPart.isPath hv
  · rw [← List.append_nil path, hshared, List.append_nil, hv]
  · intro t _ ht
    rw [hshared, Json.leafAt?_append_of_leaf hv ht]

end Document

/-- A URI is in the longest scope that it starts with, whatever the order of the scopes. A leaf of
the scope is found unchanged at its path exactly when no global leaf is below that path, and so is
each global leaf that is neither above, at nor below a leaf of the scope. -/
theorem scope_overrides (hdoc : Document ms) {uri p : String} (huri : uri ≠ "")
    (hp : ("<" ++ p ++ ">", .obj inner) ∈ ms) (hstarts : p.toList <+: uri.toList)
    (hlongest : ∀ q j, ("<" ++ q ++ ">", j) ∈ ms → q.toList <+: uri.toList →
      q.length ≤ p.length) :
    ∃ s, ofJson (.obj ms) = .ok s ∧
      (∀ scopes, s.scopes.Perm scopes → scopeForUri ⟨scopes⟩ uri = "<" ++ p ++ ">") ∧
      (∀ path v, (Json.obj inner).leafAt? path = some v →
        ((s.section_ "" ("<" ++ p ++ ">")).valueAt? path = some v ↔
          ∀ t, t ≠ [] → (Json.obj (globalPart ms)).leafAt? (path ++ t) = .none)) ∧
      ∀ path v, (Json.obj (globalPart ms)).leafAt? path = some v →
        (∀ q w, (Json.obj inner).leafAt? q = some w → ¬q <+: path ∧ ¬path <+: q) →
        (s.section_ "" ("<" ++ p ++ ">")).valueAt? path = some v := by
  refine ⟨ofMembers ms, ofJson_eq fun m hm h => (hdoc.bracketed m hm h).1, ?_, ?_, ?_⟩
  · intro scopes hperm
    exact scopeForUri_ofMembers huri hp hstarts hlongest hperm
  · intro path v hv
    exact hdoc.valueAt?_own_iff hp hv
  · intro path v hv hapart
    exact hdoc.valueAt?_shared hp hv hapart

theorem scope_overrides_deeper :
    ∃ s, ofJson (.obj [("<" ++ "file:///p" ++ ">", .obj [("a", .int 2)]),
        ("a", .obj [("b", .int 1)])]) = .ok s ∧
      s.scopeForUri "file:///p/x" = "<" ++ "file:///p" ++ ">" ∧
      (s.section_ "" ("<" ++ "file:///p" ++ ">")).valueAt? ["a"] ≠ some (.int 2) := by
  have hleaf : ∀ key n, IsKey key → (Json.obj [(key, .int n)]).Tidy := by
    intro key n hkey
    refine .obj (List.pairwise_singleton _ _) (List.forall_mem_singleton.2 hkey) ?_
    exact List.forall_mem_singleton.2 (.leaf rfl)
  have hdoc : Document [("<" ++ "file:///p" ++ ">", .obj [("a", .int 2)]),
      ("a", .obj [("b", .int 1)])] := by
    refine ⟨by decide, ?_, ?_⟩
    · rintro _ (_ | ⟨_, _ | ⟨_, ⟨⟩⟩⟩) hscope
      · cases hscope
      · exact ⟨by decide, hleaf "b" 1 (by decide)⟩
    · rintro _ (_ | ⟨_, _ | ⟨_, ⟨⟩⟩⟩) hscope
      · exact ⟨rfl, hleaf "a" 2 (by decide)⟩
      · cases hscope
  have huri : "file:///p/x" ≠ "" := by decide
  obtain ⟨s, hs, hscope, hown, -⟩ := scope_overrides hdoc huri
    List.mem_cons_self (by decide) (by
      intro q j hq _
      rcases List.mem_cons.1 hq with heq | hq
      · have hlength := congrArg String.length (Prod.mk.inj heq).1
        simp only [String.length_append] at hlength
        omega
      · rw [List.mem_singleton] at hq
        have hname := congrArg isScopeKey (Prod.mk.inj hq).1
        rw [isScopeKey_iff.2 ⟨q, rfl⟩] at hname
        cases hname)
  refine ⟨s, hs, hscope _ (List.Perm.refl _), ?_⟩
  intro hfound
  have hend := (hown ["a"] (.int 2) rfl).1 hfound ["b"] (by decide)
  cases hend

end ServerSettings

end LanguageClient
