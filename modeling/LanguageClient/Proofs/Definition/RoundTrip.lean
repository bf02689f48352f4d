import LanguageClient.Definition.Basic
import LanguageClient.Proofs.Definition.Arguments
import LanguageClient.Proofs.Definition.Csv
namespace LanguageClient

/-!
# Saving and loading definitions

A definition that is written as a list of strings, or as that list on one CSV line, is read back up
to those of its arguments that only hold white space other than spaces. `escape` leaves these as
they are, and blank elements count for nothing.
-/

/-! ## Options -/

namespace Json

theorem isDigit_of_isBlank {c : Char} (h : Text.isBlank c = true) : Reader.isDigit c = false := by
  have hzero : '0' ≤ c ↔ 48 ≤ c.toNat := Iff.rfl
  have hnine : c ≤ '9' ↔ c.toNat ≤ 57 := Iff.rfl
  simp only [Reader.isDigit, Bool.and_eq_false_iff, decide_eq_false_iff_not, hzero, hnine]
  simp only [Text.isBlank, Bool.or_eq_true, Bool.and_eq_true, decide_eq_true_eq, beq_iff_eq] at h
  omega

theorem number?_of_blank {t : Text} (h : ∀ c ∈ t, Text.isBlank c = true) :
    Reader.number? t = none := by
  have hdigits : Reader.digits? t = none := by
    have : t.takeWhile Reader.isDigit = [] := by
      cases t with
      | nil => rfl
      | cons c t => rw [List.takeWhile_cons, isDigit_of_isBlank (h c List.mem_cons_self)]; rfl
    rw [Reader.digits?, this]
  cases t with
  | nil => rfl
  | cons c t =>
    have hc : c ≠ '-' := by
      rintro rfl
      exact absurd (h '-' List.mem_cons_self) (by decide)
    simp [Reader.number?, Reader.whole?, hc, hdigits]

/-- White space holds no value. -/
theorem read?_of_blank {t : Text} (h : ∀ c ∈ t, Text.isBlank c = true) : read? t = none := by
  have hvalue : Reader.value? maxDepth .whole t = none := by
    have hskip : ∀ c ∈ Reader.skipSpace t, Text.isBlank c = true := fun c hc =>
      h c ((List.dropWhile_suffix _).subset hc)
    -- No bracket, quote or letter comes next, which leaves a number.
    have hno : ∀ c r, Reader.skipSpace t = c :: r → Text.isBlank c = true := fun c r hr =>
      hskip c (hr ▸ List.mem_cons_self)
    unfold Reader.value?
    split
    iterate 6 next hr => exact absurd (hno _ _ hr) (by decide)
    exact number?_of_blank hskip
  rw [read?, readOutline?, hvalue]
  rfl

end Json

/-! ## Definitions -/

namespace Launch

/-- What stands before the arguments, written as it is. -/
def heads : Launch → List Text
  | artifact package mainClass _ => [package, mainClass]
  | executable path _ => [path]
  | rawCommand _ => []

/-- The arguments, or the tokens of a raw command. -/
def arguments : Launch → List Text
  | artifact _ _ args => args
  | executable _ args => args
  | rawCommand command => command

def withArguments (args : List Text) : Launch → Launch
  | artifact package mainClass _ => artifact package mainClass args
  | executable path _ => executable path args
  | rawCommand _ => rawCommand args

/-- The launch without the arguments that are written as blank elements. -/
def standing (l : Launch) : Launch :=
  l.withArguments (l.arguments.filter fun t => Arguments.Stands t)

theorem elements_eq (l : Launch) : l.elements = l.heads ++ l.arguments.map Arguments.escape := by
  cases l <;> rfl

@[simp] theorem tag_withArguments (l : Launch) (args : List Text) :
    (l.withArguments args).tag = l.tag := by
  cases l <;> rfl

@[simp] theorem heads_withArguments (l : Launch) (args : List Text) :
    (l.withArguments args).heads = l.heads := by
  cases l <;> rfl

@[simp] theorem arguments_withArguments (l : Launch) (args : List Text) :
    (l.withArguments args).arguments = args := by
  cases l <;> rfl

@[simp] theorem withArguments_arguments (l : Launch) : l.withArguments l.arguments = l := by
  cases l <;> rfl

theorem standing_eq_self_iff {l : Launch} :
    l.standing = l ↔ ∀ t ∈ l.arguments, Arguments.Stands t := by
  constructor
  · intro h
    have hargs := congrArg arguments h
    rw [standing, arguments_withArguments, List.filter_eq_self] at hargs
    exact fun t ht => of_decide_eq_true (hargs t ht)
  · intro h
    rw [standing, List.filter_eq_self.2 fun t ht => decide_eq_true (h t ht),
      withArguments_arguments]

theorem tag_mem (l : Launch) : l.tag ∈ ["artifact", "exe", "rawCommand"] := by
  cases l <;> simp [tag]

theorem visible_tag (l : Launch) : Text.Visible l.tag.toList := by
  have : ∀ tag ∈ ["artifact", "exe", "rawCommand"], Text.Visible tag.toList := by decide
  exact this _ l.tag_mem

end Launch

namespace ServerDefinition

open Text Arguments

theorem kind?_exe : kind? "exe".toList =
    some (fun rest => .executable (rest.headD []) (Arguments.parse (rest.drop 1)), 1) := by
  rw [kind?, if_neg (by decide), if_pos rfl]

theorem kind?_rawCommand : kind? "rawCommand".toList =
    some (fun rest => .rawCommand (Arguments.parse rest), 1) := by
  rw [kind?, if_neg (by decide), if_neg (by decide), if_pos rfl]

/-- The launch is rebuilt from its elements; too few of them are left only to a raw command. -/
theorem kind?_tag {l : Launch} (h : ∀ t ∈ l.arguments, t ≠ []) :
    ∃ launch required, kind? l.tag.toList = some (launch, required) ∧ launch l.elements = l ∧
      (l.elements.length < required ↔ l = .rawCommand []) := by
  have hparse := parse_map_escape h
  cases l with
  | artifact package mainClass args =>
    refine ⟨_, 2, if_pos rfl, ?_, by simp [Launch.elements]⟩
    exact congrArg (Launch.artifact package mainClass) hparse
  | executable path args =>
    refine ⟨_, 1, kind?_exe, ?_, by simp [Launch.elements]⟩
    exact congrArg (Launch.executable path) hparse
  | rawCommand command =>
    refine ⟨_, 1, kind?_rawCommand, ?_, by simp [Launch.elements]⟩
    exact congrArg Launch.rawCommand hparse

theorem cutExtended_tag (l : Launch) : cutExtended l.tag.toList = (l.tag.toList, false) := by
  have : ∀ tag ∈ ["artifact", "exe", "rawCommand"],
      cutExtended tag.toList = (tag.toList, false) := by decide
  exact this _ l.tag_mem

theorem cutExtended_plus (tag : Text) : cutExtended (tag ++ ['+']) = (tag, true) := by
  simp [cutExtended]

/-- What a definition needs besides its arguments to be read back: no element before them is blank,
and the options are read as they are printed. -/
structure Legible (d : ServerDefinition) : Prop where
  extension : Visible d.extension
  id : d.isPlain = false → Visible d.id
  heads : ∀ t ∈ d.launch.heads, Visible t
  options : ∀ v, d.options = some v → v.isNull = false ∧ Json.read? v.print = some v

theorem Legible.read_options {d : ServerDefinition} (h : d.Legible) :
    ∃ value, Json.read? (d.options.getD .null).print = some value ∧
      (if value.isNull then none else some value) = d.options := by
  cases hopt : d.options with
  | none => exact ⟨.null, by decide, rfl⟩
  | some v =>
    obtain ⟨hnull, hread⟩ := h.options v hopt
    exact ⟨v, hread, by simp [hnull]⟩

theorem Legible.visible_options {d : ServerDefinition} (h : d.Legible) :
    Visible (d.options.getD .null).print := by
  obtain ⟨value, hread, -⟩ := h.read_options
  by_contra hblank
  rw [Json.read?_of_blank (not_visible_iff.1 hblank)] at hread
  cases hread

/-- The definition without the arguments that are written as blank elements. -/
def standing (d : ServerDefinition) : ServerDefinition := { d with launch := d.launch.standing }

theorem Legible.standing {d : ServerDefinition} (h : d.Legible) : d.standing.Legible where
  extension := h.extension
  id := h.id
  heads := by simpa [ServerDefinition.standing, Launch.standing] using h.heads
  options := h.options

theorem filter_elements {l : Launch} (h : ∀ t ∈ l.heads, Visible t) :
    l.elements.filter (fun t => trim t ≠ []) = l.standing.elements := by
  have hheads : l.heads.filter (fun t => trim t ≠ []) = l.heads :=
    List.filter_eq_self.2 fun t ht => decide_eq_true (trim_ne_nil_iff.2 (h t ht))
  have hargs : ((fun t => decide (trim t ≠ [])) ∘ escape) = fun t => decide (Stands t) := by
    funext t
    exact decide_eq_decide.2 (trim_ne_nil_iff.trans visible_escape)
  rw [l.elements_eq, List.filter_append, hheads, List.filter_map, hargs, Launch.elements_eq,
    Launch.standing, Launch.heads_withArguments, Launch.arguments_withArguments]

/-- Of the written elements only those of some arguments are blank. -/
theorem filter_toArray {d : ServerDefinition} (h : d.Legible) :
    d.toArray.filter (fun t => trim t ≠ []) = d.standing.toArray := by
  have hkeep : ∀ {t : Text} (r : List Text), Visible t →
      (t :: r).filter (fun t => trim t ≠ []) = t :: r.filter fun t => trim t ≠ [] :=
    fun r ht => List.filter_cons_of_pos (decide_eq_true (trim_ne_nil_iff.2 ht))
  have hsame : d.standing.launch.tag = d.launch.tag := Launch.tag_withArguments _ _
  rw [toArray, toArray, show d.standing.isPlain = d.isPlain from rfl, hsame]
  cases hplain : d.isPlain with
  | true =>
    rw [if_pos rfl, if_pos rfl, hkeep _ d.launch.visible_tag, hkeep _ h.extension,
      filter_elements h.heads]
    rfl
  | false =>
    obtain ⟨c, hc, hblank⟩ := d.launch.visible_tag
    have htag : Visible (d.launch.tag.toList ++ ['+']) := ⟨c, List.mem_append_left _ hc, hblank⟩
    rw [if_neg Bool.false_ne_true, if_neg Bool.false_ne_true, hkeep _ htag, hkeep _ h.extension,
      hkeep _ (h.id hplain), hkeep _ h.visible_options, filter_elements h.heads]
    rfl

/-- A definition without such arguments is read back, unless it is an empty command. -/
theorem ofArray_toArray_of_stands {d : ServerDefinition} (h : d.Legible)
    (hargs : ∀ t ∈ d.launch.arguments, Stands t) :
    ofArray d.toArray =
      if d.launch = .rawCommand [] then .error (tooShort d.toArray) else .ok d := by
  have hfilter := filter_toArray h
  rw [standing, Launch.standing_eq_self_iff.2 hargs] at hfilter
  obtain ⟨launch, required, hkind, hlaunch, hlength⟩ := kind?_tag fun t ht => (hargs t ht).ne_nil
  rw [ofArray, hfilter]
  simp only [← hlength]
  cases hplain : d.isPlain with
  | true =>
    have hnew : new d.extension d.launch = d := by
      simp only [isPlain, Bool.and_eq_true, beq_iff_eq] at hplain
      rw [new, ← hplain.1, ← hplain.2]
    simp only [toArray, hplain, if_true, cutExtended_tag, hkind, hlaunch, hnew, Bool.false_eq_true,
      if_false]
  | false =>
    obtain ⟨value, hread, hoptions⟩ := h.read_options
    simp only [toArray, hplain, Bool.false_eq_true, if_false, cutExtended_plus, hkind, if_true,
      hread, hoptions, hlaunch]

/-- Reading back a written definition drops the arguments that are blank as written; only a raw
command that loses all its tokens is refused. -/
theorem ofArray_toArray {d : ServerDefinition} (h : d.Legible) :
    ofArray d.toArray =
      if d.standing.launch = .rawCommand [] then .error (tooShort d.standing.toArray)
      else .ok d.standing := by
  have hargs : ∀ t ∈ d.standing.launch.arguments, Stands t := by
    intro t ht
    rw [standing, Launch.standing, Launch.arguments_withArguments] at ht
    exact of_decide_eq_true (List.mem_filter.1 ht).2
  rw [← ofArray_toArray_of_stands h.standing hargs, ← filter_toArray h, ofArray, ofArray,
    List.filter_filter]
  simp only [Bool.and_self]

theorem toArray_ne_nil (d : ServerDefinition) : d.toArray ≠ [] := by
  unfold toArray
  dsimp only
  split <;> exact List.cons_ne_nil _ _

theorem ofCsv_toCsv (d : ServerDefinition) : ofCsv d.toCsv = ofArray d.toArray := by
  rw [ofCsv, toCsv, Csv.decode?_encode d.toArray_ne_nil]

theorem legible_of_visible {d : ServerDefinition} (hextension : Visible d.extension)
    (hid : d.isPlain = false → Visible d.id) (hheads : ∀ t ∈ d.launch.heads, Visible t)
    (hoptions : ∀ v, d.options = some v → v ≠ .null ∧ Json.read? v.print = some v) :
    d.Legible where
  extension := hextension
  id := hid
  heads := hheads
  options v hv := by
    obtain ⟨hnull, hread⟩ := hoptions v hv
    refine ⟨?_, hread⟩
    cases v <;> first | rfl | exact absurd rfl hnull

/-- A definition with nothing blank in it is read back from its list and from its line, whatever
quotes, backslashes, commas, line ends and spaces it holds. -/
theorem reads_back {d : ServerDefinition} (hextension : Visible d.extension) (hid : Visible d.id)
    (hheads : ∀ t ∈ d.launch.heads, Visible t) (hargs : ∀ t ∈ d.launch.arguments, Stands t)
    (hcommand : d.launch ≠ .rawCommand [])
    (hoptions : ∀ v, d.options = some v → v ≠ .null ∧ Json.read? v.print = some v) :
    ofArray d.toArray = .ok d ∧ ofCsv d.toCsv = .ok d := by
  have hlegible := legible_of_visible hextension (fun _ => hid) hheads hoptions
  have harray : ofArray d.toArray = .ok d := by
    rw [ofArray_toArray_of_stands hlegible hargs, if_neg hcommand]
  exact ⟨harray, (ofCsv_toCsv d).trans harray⟩

/-- A path with a comma, and arguments of quotes, backslashes, line ends and spaces alone. -/
def knotted : ServerDefinition where
  extension := "tex;bib".toList
  id := "la,tex".toList
  launch := .executable "/opt/a,\"b\"/run".toList
    ["--name=\"x y".toList, "\\".toList, " ".toList, "',\r\n'\n".toList, "\t\\\"".toList]
  options := some (.obj [("args", .arr [.str "a,\"b\"\n", .int (-1), .null])])

theorem reads_back_knotted :
    ofArray knotted.toArray = .ok knotted ∧ ofCsv knotted.toCsv = .ok knotted := by
  refine reads_back (by decide) (by decide) (by decide) (by decide) (by decide) ?_
  rintro v ⟨⟩
  exact ⟨by decide, by decide +kernel⟩

/-! ## Definitions that were loaded -/

theorem kind?_visible {tag : Text} {launch : List Text → Launch} {required : Nat}
    (h : kind? tag = some (launch, required)) {rest : List Text} (hlength : required ≤ rest.length)
    (hrest : ∀ t ∈ rest, Visible t) :
    (∀ t ∈ (launch rest).heads, Visible t) ∧ launch rest ≠ .rawCommand [] := by
  unfold kind? at h
  split at h
  · cases h
    match rest, hlength with
    | package :: mainClass :: args, _ =>
      refine ⟨fun t ht => hrest t ?_, by simp⟩
      simp only [Launch.heads, List.headD_cons, List.drop_succ_cons, List.drop_zero, List.mem_cons,
        List.not_mem_nil, or_false] at ht ⊢
      tauto
  split at h
  · cases h
    match rest, hlength with
    | path :: args, _ =>
      refine ⟨fun t ht => hrest t ?_, by simp⟩
      simp only [Launch.heads, List.headD_cons, List.mem_singleton] at ht
      exact ht ▸ List.mem_cons_self
  split at h
  · cases h
    refine ⟨by simp [Launch.heads], ?_⟩
    have := parse_ne_nil (List.ne_nil_of_length_pos hlength) hrest
    simpa using this
  · cases h

/-- What is loaded has no blank element before its arguments and some argument for a command. -/
theorem of_ofArray {array : List Text} {d : ServerDefinition} (h : ofArray array = .ok d) :
    (Visible d.extension ∧ (d.isPlain = false → Visible d.id) ∧
      ∀ t ∈ d.launch.heads, Visible t) ∧
    d.launch ≠ .rawCommand [] ∧ d.options ≠ some .null := by
  have hvisible : ∀ t ∈ array.filter fun t => trim t ≠ [], Visible t := fun t ht =>
    trim_ne_nil_iff.1 (of_decide_eq_true (List.mem_filter.1 ht).2)
  unfold ofArray at h
  dsimp only at h
  generalize array.filter (fun t => trim t ≠ []) = elements at h hvisible
  cases elements with
  | nil => cases h
  | cons first tail =>
    have htail : ∀ t ∈ tail, Visible t := fun t ht => hvisible t (List.mem_cons_of_mem _ ht)
    dsimp only at h
    cases hkind : kind? (cutExtended first).1 with
    | none => rw [hkind] at h; cases h
    | some kind =>
      obtain ⟨launch, required⟩ := kind
      rw [hkind] at h
      dsimp only at h
      split at h
      · split at h
        · next extension id options rest =>
          simp only [List.forall_mem_cons] at htail
          obtain ⟨hextension, hid, -, hrest⟩ := htail
          split at h
          · cases h
          next hlength =>
          obtain ⟨hheads, hcommand⟩ := kind?_visible hkind (Nat.not_lt.1 hlength) hrest
          split at h
          · cases h
          next value hread =>
          cases h
          refine ⟨⟨hextension, fun _ => hid, hheads⟩, hcommand, ?_⟩
          cases value <;> simp [Json.isNull]
        · cases h
      · split at h
        · next extension rest =>
          obtain ⟨hextension, hrest⟩ := List.forall_mem_cons.1 htail
          split at h
          · cases h
          next hlength =>
          obtain ⟨hheads, hcommand⟩ := kind?_visible hkind (Nat.not_lt.1 hlength) hrest
          cases h
          refine ⟨⟨hextension, fun hplain => ?_, hheads⟩, hcommand, by simp [new]⟩
          simp [isPlain, new] at hplain
        · cases h

/-- A definition that was loaded can be saved and loaded again exactly if each of its arguments
holds a space or a character that is no white space. -/
theorem reloads_iff {array : List Text} {d : ServerDefinition} (h : ofArray array = .ok d)
    (hoptions : ∀ v, d.options = some v → Json.read? v.print = some v) :
    (ofArray d.toArray = .ok d ∧ ofCsv d.toCsv = .ok d) ↔ ∀ t ∈ d.launch.arguments, Stands t := by
  obtain ⟨⟨hextension, hid, hheads⟩, hcommand, hnull⟩ := of_ofArray h
  have hlegible : d.Legible := legible_of_visible hextension hid hheads fun v hv =>
    ⟨fun hv' => hnull (hv' ▸ hv), hoptions v hv⟩
  rw [ofCsv_toCsv, and_self]
  constructor
  · intro hsaved
    rw [ofArray_toArray hlegible] at hsaved
    split at hsaved
    · cases hsaved
    · exact Launch.standing_eq_self_iff.1 (congrArg launch (Except.ok.inj hsaved))
  · intro hargs
    rw [ofArray_toArray_of_stands hlegible hargs, if_neg hcommand]

/-- A command whose last backslash stays open: the argument that it leaves is empty, and the
command is refused when it is loaded again. -/
def dangling : ServerDefinition := new "foo".toList (.rawCommand [[]])

theorem reloads_iff_dangling :
    ofArray ["rawCommand".toList, "foo".toList, "\\".toList] = .ok dangling ∧
      ¬ (ofArray dangling.toArray = .ok dangling ∧ ofCsv dangling.toCsv = .ok dangling) := by
  have hload : ofArray ["rawCommand".toList, "foo".toList, "\\".toList] = .ok dangling := by
    rfl
  refine ⟨hload, fun hsaved => ?_⟩
  have := (reloads_iff hload (by rintro v ⟨⟩)).1 hsaved [] (by decide)
  exact absurd this (by decide)

end ServerDefinition

end LanguageClient
