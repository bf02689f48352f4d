import LanguageClient.Routing.Basic
import LanguageClient.Server.Lifecycle
import LanguageClient.Proofs.Text.Trim
namespace LanguageClient

/-!
# Extension keys

A document is routed to a definition by the keys of the definition, and a server that is restarted
takes the documents whose extension it handles. Both come to the same, but for documents without
an extension: where only white space stands between two semicolons of a key, or at its ends, they
are handled, though no key leads there.
-/

namespace ServerDefinition

/-- Some part of the key, which is not empty itself, is blank. -/
def HasBlankPart (d : ServerDefinition) : Prop :=
  d.extension ≠ [] ∧ ∃ part ∈ Text.splitOnChar ';' d.extension, Text.trim part = []

theorem mem_extensions_iff {d : ServerDefinition} {e : Text} :
    e ∈ d.extensions ↔
      e = d.extension ∨ e ≠ [] ∧ ∃ part ∈ Text.splitOnChar ';' d.extension, Text.trim part = e := by
  have hparts : e ∈ ((Text.splitOnChar ';' d.extension).map Text.trim).filter (· ≠ []) ↔
      e ≠ [] ∧ ∃ part ∈ Text.splitOnChar ';' d.extension, Text.trim part = e := by
    rw [List.mem_filter, List.mem_map, decide_eq_true_iff, and_comm]
  simp only [extensions]
  split
  · rename_i hwhole
    rw [hparts]
    refine ⟨.inr, fun h => ?_⟩
    rcases h with rfl | h
    · exact hparts.1 hwhole
    · exact h
  · rw [List.mem_append, hparts, List.mem_singleton, or_comm]

theorem handlesExtension_iff {d : ServerDefinition} {e : Text} :
    d.handlesExtension e = true ↔
      e = d.extension ∨ ∃ part ∈ Text.splitOnChar ';' d.extension, Text.trim part = e := by
  simp only [handlesExtension, Bool.or_eq_true, List.any_eq_true, beq_iff_eq]
  rw [or_comm, @eq_comm _ d.extension e]

theorem handlesExtension_of_mem {d : ServerDefinition} {e : Text} (h : e ∈ d.extensions) :
    d.handlesExtension e = true :=
  handlesExtension_iff.2 ((mem_extensions_iff.1 h).imp_right (·.2))

theorem mem_extensions_of_handlesExtension {d : ServerDefinition} {e : Text}
    (h : d.handlesExtension e = true) (hblank : ¬ (e = [] ∧ d.HasBlankPart)) :
    e ∈ d.extensions := by
  rw [mem_extensions_iff]
  rcases handlesExtension_iff.1 h with rfl | ⟨part, hpart, rfl⟩
  · exact .inl rfl
  · by_cases hnil : Text.trim part = []
    · have hempty : d.extension = [] := by
        by_contra hne
        exact hblank ⟨hnil, hne, part, hpart, hnil⟩
      exact .inl (hnil.trans hempty.symm)
    · exact .inr ⟨hnil, part, hpart, rfl⟩

theorem HasBlankPart.handles_nil {d : ServerDefinition} (h : d.HasBlankPart) :
    d.handlesExtension [] = true ∧ [] ∉ d.extensions := by
  obtain ⟨hne, part, hpart, hblank⟩ := h
  refine ⟨handlesExtension_iff.2 (.inr ⟨part, hpart, hblank⟩), ?_⟩
  rw [mem_extensions_iff]
  rintro (hnil | ⟨hnil, -⟩)
  · exact hne hnil.symm
  · exact hnil rfl

end ServerDefinition

namespace Routes

theorem any_key_iff {table : List (Text × ServerDefinition)} {key : Text} :
    (table.any fun x => x.1 == key) = true ↔ table.lookup key ≠ none := by
  rw [Ne, List.lookup_eq_none_iff, List.any_eq_true]
  simp only [beq_iff_eq, bne_iff_ne, ne_eq, not_forall, not_not, exists_prop, @eq_comm _ key]

/-- The keys of a definition are added to a table, unless they are there already. -/
theorem lookup_foldl_key (d : ServerDefinition) (e : Text) (keys : List Text)
    (table : List (Text × ServerDefinition)) :
    (keys.foldl (fun table ext =>
        if table.any fun x => x.1 == ext then table else table ++ [(ext, d)]) table).lookup e =
      (table.lookup e).or (if e ∈ keys then some d else none) := by
  induction keys generalizing table with
  | nil => simp
  | cons key keys ih =>
    rw [List.foldl_cons, ih]
    by_cases hkey : (table.any fun x => x.1 == key) = true
    · rw [if_pos hkey]
      cases hlookup : table.lookup e with
      | some d' => rfl
      | none =>
        have hne : e ≠ key := fun heq => any_key_iff.1 hkey (heq ▸ hlookup)
        simp [hne]
    · rw [if_neg hkey, List.lookup_append]
      cases hlookup : table.lookup e with
      | some d' => rfl
      | none =>
        by_cases heq : e = key
        · simp [heq]
        · have hne : (e == key) = false := beq_eq_false_iff_ne.2 heq
          simp [List.lookup_cons, hne, heq]

/-- A key leads to the first definition that has it. -/
theorem lookup_flatten (ds : List ServerDefinition) (e : Text) :
    (flatten ds).lookup e = ds.find? fun d => decide (e ∈ d.extensions) := by
  have htable (table : List (Text × ServerDefinition)) :
      (ds.foldl (fun table d => d.extensions.foldl (fun table ext =>
        if table.any fun x => x.1 == ext then table else table ++ [(ext, d)]) table)
        table).lookup e =
      (table.lookup e).or (ds.find? fun d => decide (e ∈ d.extensions)) := by
    induction ds generalizing table with
    | nil => simp
    | cons d ds ih =>
      rw [List.foldl_cons, ih, lookup_foldl_key, Option.or_assoc]
      by_cases h : e ∈ d.extensions <;> simp [h]
  exact (htable []).trans (Option.none_or ..)

end Routes

/-- A definition handles the extensions that are among its keys, and no others but the empty one of
a key with a blank part. So the documents that a restarted server takes are routed to its
definition, unless another definition has the key of one too. -/
theorem ServerDefinition.handles_keys (d : ServerDefinition) :
    (∀ e, e ∈ d.extensions → d.handlesExtension e = true) ∧
    (∀ e, (d.handlesExtension e = true ↔ e ∈ d.extensions) ↔ ¬ (e = [] ∧ d.HasBlankPart)) ∧
    ∀ (E : Type) (c : Client E) (s : ServerId), (c.server s).definition = d →
      ∀ doc ∈ Server.handled s c, ¬ (doc.extension = [] ∧ d.HasBlankPart) →
        ∀ ds, d ∈ ds → (∀ d' ∈ ds, doc.extension ∈ d'.extensions → d' = d) →
          (Routes.flatten ds).lookup doc.extension = some d := by
  refine ⟨fun e => handlesExtension_of_mem, fun e => ⟨?_, fun hblank =>
    ⟨fun h => mem_extensions_of_handlesExtension h hblank, handlesExtension_of_mem⟩⟩, ?_⟩
  · rintro hiff ⟨rfl, hblank⟩
    obtain ⟨hhandles, hkey⟩ := hblank.handles_nil
    exact hkey (hiff.1 hhandles)
  · rintro E c s rfl doc hdoc hblank ds hds honly
    have hhandles : (c.server s).definition.handlesExtension doc.extension = true :=
      (Bool.and_eq_true_iff.1 (List.mem_filter.1 hdoc).2).2
    have hkey := mem_extensions_of_handlesExtension hhandles hblank
    rw [Routes.lookup_flatten]
    cases hfind : ds.find? fun d => decide (doc.extension ∈ d.extensions) with
    | none => exact absurd (decide_eq_true hkey) (List.find?_eq_none.1 hfind _ hds)
    | some d' =>
      have hkey' : doc.extension ∈ d'.extensions := by simpa using List.find?_some hfind
      rw [honly d' (List.mem_of_find?_eq_some hfind) hkey']

/-- A semicolon at the end of a key: a file without an extension is handled, but not routed. -/
theorem ServerDefinition.handles_keys_trailing_separator :
    let d := ServerDefinition.new "foo;".toList (.executable "fls".toList [])
    let doc : OpenDocument := ⟨"file:///proj/a.foo", "/proj/a.foo".toList, "/proj".toList, 0⟩
    let bare : OpenDocument := ⟨"file:///proj/Makefile", "/proj/Makefile".toList, "/proj".toList, 1⟩
    let c : Client Unit :=
      { Client.new () with
        servers := ⟨[Server.new d "/proj".toList]⟩
        editor := { Editor.new with documents := [doc, bare] } }
    (doc ∈ Server.handled 0 c ∧ bare ∈ Server.handled 0 c ∧ d.HasBlankPart ∧
      "foo".toList ∈ d.extensions) ∧
    d.handlesExtension "foo".toList = true ∧
    ¬ (d.handlesExtension bare.extension = true ↔ bare.extension ∈ d.extensions) ∧
    (Routes.flatten [d]).lookup doc.extension = some d ∧
    (Routes.flatten [d]).lookup bare.extension = none := by
  intro d doc bare c
  obtain ⟨hkeys, hiff, hrouted⟩ := handles_keys d
  have hblank : d.HasBlankPart := ⟨by decide, [], by decide, by decide⟩
  have hfoo : "foo".toList ∈ d.extensions := by decide
  have hdoc : doc ∈ Server.handled 0 c := by decide
  have hbare : bare ∈ Server.handled 0 c := by decide
  refine ⟨⟨hdoc, hbare, hblank, hfoo⟩, hkeys _ hfoo, ?_, ?_, by decide⟩
  · intro h
    exact (hiff bare.extension).1 h ⟨by decide, hblank⟩
  · refine hrouted Unit c 0 rfl doc hdoc (fun h => absurd h.1 (by decide)) [d] (by simp) ?_
    intro d' hd' _
    exact List.mem_singleton.1 hd'

end LanguageClient
