import LanguageClient.Schema.Basic
namespace LanguageClient

/-!
# Records member by member

A record that was written with some of its fields is read field by field: each contributes what its
own value gives, whatever the others are, and the normal form has just these members.
-/

namespace Json

/-- The members that are there. -/
def present (members : List (String × Option Json)) : List (String × Json) :=
  members.filterMap fun m => m.2.map fun v => (m.1, v)

theorem present_cons (m : String × Option Json) (members : List (String × Option Json)) :
    present (m :: members) = (m.2.map fun v => (m.1, v)).toList ++ present members := by
  rw [present, List.filterMap_cons]
  cases m.2 <;> rfl

theorem mem_present {members : List (String × Option Json)} {m : String × Json} :
    m ∈ present members ↔ (m.1, some m.2) ∈ members := by
  simp only [present, List.mem_filterMap, Option.map_eq_some_iff]
  constructor
  · rintro ⟨⟨name, value⟩, hmem, v, rfl, rfl⟩
    exact hmem
  · exact fun h => ⟨_, h, _, rfl, rfl⟩

theorem names_present_sublist (members : List (String × Option Json)) :
    ((present members).map Prod.fst).Sublist (members.map Prod.fst) := by
  induction members with
  | nil => exact .slnil
  | cons m members ih =>
    rw [present_cons]
    cases m.2 with
    | none => exact ih.cons m.1
    | some v => exact ih.cons_cons m.1

theorem filter_present {members : List (String × Option Json)}
    (h : (members.map Prod.fst).Nodup) {key : String} {value : Option Json}
    (hmem : (key, value) ∈ members) :
    (present members).filter (fun m => m.1 == key) = (value.map fun v => (key, v)).toList := by
  induction members with
  | nil => cases hmem
  | cons m members ih =>
    rw [List.map_cons, List.nodup_cons] at h
    rw [present_cons, List.filter_append]
    rcases List.mem_cons.1 hmem with rfl | hmem
    · -- No other member has this name.
      have hothers : (present members).filter (fun m => m.1 == key) = [] := by
        rw [List.filter_eq_nil_iff]
        intro m hm hkey
        have hname := (names_present_sublist members).subset
          (List.mem_map_of_mem (f := Prod.fst) hm)
        rw [beq_iff_eq.1 hkey] at hname
        exact h.1 hname
      rw [hothers, List.append_nil]
      cases value with
      | none => rfl
      | some v => exact List.filter_cons_of_pos (by simp)
    · have hname : m.1 ≠ key := fun heq => h.1 (heq ▸ List.mem_map_of_mem (f := Prod.fst) hmem)
      rw [ih h.2 hmem]
      cases m.2 with
      | none => rfl
      | some v =>
        rw [Option.map_some, Option.toList_some, List.filter_cons_of_neg (by simpa using hname)]
        rfl

theorem lookup_eq_head?_filter (key : String) (members : List (String × Json)) :
    lookup key members = (members.filter fun m => m.1 == key).head?.map Prod.snd := by
  induction members with
  | nil => rfl
  | cons m members ih =>
    by_cases hkey : m.1 = key
    · rw [lookup, if_pos hkey, List.filter_cons_of_pos (by simpa using hkey)]
      rfl
    · rw [lookup, if_neg hkey, List.filter_cons_of_neg (by simpa using hkey), ih]

theorem lookup_foldl_putMember {members : List (String × Json)}
    (h : (members.map Prod.fst).Nodup) (key : String) (before : List (String × Json)) :
    lookup key (members.foldl (fun acc m => putMember m.1 m.2 acc) before) =
      (lookup key members).or (lookup key before) := by
  induction members generalizing before with
  | nil => rfl
  | cons m members ih =>
    rw [List.map_cons, List.nodup_cons] at h
    rw [List.foldl_cons, ih h.2, lookup_putMember, lookup]
    by_cases hkey : m.1 = key
    · have hnone : lookup key members = none := by
        rw [lookup_eq_head?_filter, List.filter_eq_nil_iff.2]
        · rfl
        · intro m' hm' heq
          exact h.1 (hkey ▸ beq_iff_eq.1 heq ▸ List.mem_map_of_mem hm')
      rw [if_pos hkey, if_pos hkey, hnone]
      rfl
    · rw [if_neg hkey, if_neg hkey]

/-- A member of a record is what was given under its name. -/
theorem get?_record {members : List (String × Option Json)} (h : (members.map Prod.fst).Nodup)
    {key : String} {value : Option Json} (hmem : (key, value) ∈ members) :
    (record members).get? key = value := by
  change lookup key ((present members).foldl _ []) = value
  rw [lookup_foldl_putMember (h.sublist (names_present_sublist members)), lookup_eq_head?_filter,
    filter_present h hmem]
  cases value <;> rfl

end Json

namespace Shape

/-- The slot of a value, or of none. -/
def Slot.of : Option Json → Slot
  | none => .missing
  | some v => .given v

theorem slot?_present {members : List (String × Option Json)}
    (h : (members.map Prod.fst).Nodup) {key : String} {value : Option Json}
    (hmem : (key, value) ∈ members) : slot? (Json.present members) key = some (.of value) := by
  rw [slot?, Json.filter_present h hmem]
  cases value <;> rfl

/-- A field, the value it is written with, if any, and what it is read as. -/
structure Entry where
  field : Field
  given : Option Json
  normal : Option Json
  reads : field.read (.of given) = some (normal.map fun v => (field.name, v)).toList

variable {entries : List Entry}

theorem readMembers_present (h : (entries.map fun e => e.field.name).Nodup) :
    readMembers (entries.map Entry.field)
        (Json.present (entries.map fun e => (e.field.name, e.given))) =
      some (Json.present (entries.map fun e => (e.field.name, e.normal))) := by
  have hnames : ((entries.map fun e => (e.field.name, e.given)).map Prod.fst).Nodup := by
    rwa [List.map_map]
  have hparts : ∀ es ⊆ entries,
      (es.map Entry.field).mapM (fun f => (slot?
          (Json.present (entries.map fun e => (e.field.name, e.given))) f.name).bind f.read) =
        some (es.map fun e => (e.normal.map fun v => (e.field.name, v)).toList) := by
    intro es hes
    induction es with
    | nil => rfl
    | cons e es ih =>
      have he := List.mem_map_of_mem (f := fun e : Entry => (e.field.name, e.given))
        (hes List.mem_cons_self)
      have hothers := ih fun _ h => hes (List.mem_cons_of_mem e h)
      simp only [List.map_cons, List.mapM_cons, slot?_present hnames he, Option.bind_some, e.reads,
        hothers, Option.bind_eq_bind, Option.pure_def]
  have hflat (es : List Entry) :
      (es.map fun e => (e.normal.map fun v => (e.field.name, v)).toList).flatten =
        Json.present (es.map fun e => (e.field.name, e.normal)) := by
    induction es with
    | nil => rfl
    | cons e es ih => rw [List.map_cons, List.flatten_cons, ih, List.map_cons, Json.present_cons]
  rw [readMembers, hparts entries fun _ h => h, Option.bind_eq_bind, Option.bind_some, hflat]
  rfl

/-- The members of a record are read one by one, and its normal form has what they give. -/
theorem exists_record (entries : List Entry) (h : (entries.map fun e => e.field.name).Nodup) :
    ∃ j, record (entries.map Entry.field)
        (.obj (Json.present (entries.map fun e => (e.field.name, e.given)))) = some j ∧
      ∀ e ∈ entries, j.get? e.field.name = e.normal := by
  have hnames : ((entries.map fun e => (e.field.name, e.normal)).map Prod.fst).Nodup := by
    rwa [List.map_map]
  refine ⟨Json.record (entries.map fun e => (e.field.name, e.normal)), ?_, fun e he => ?_⟩
  · rw [record, readMembers_present h]
    rfl
  · exact Json.get?_record hnames
      (List.mem_map_of_mem (f := fun e : Entry => (e.field.name, e.normal)) he)

/-! ## Fields -/

theorem read_given {s : Shape} {j w : Json} (h : s j = some w) (hne : j ≠ .null) (name : String)
    (presence : Presence) :
    (Field.mk name s presence).read (.given j) = some [(name, w)] := by
  cases presence <;> cases j <;> simp_all [Field.read]

/-- A field of any value that may be left out is read as its value, null as none. -/
theorem read_any {presence : Presence} (hp : presence = .optional ∨ presence = .omittable)
    {given : Option Json} (h : ∀ v ∈ given, v.canonical = v) (name : String) :
    (Field.mk name any presence).read (.of given) =
      some ((given.filter fun v => !v.isNull).map fun v => (name, v)).toList := by
  cases given with
  | none => rcases hp with rfl | rfl <;> rfl
  | some j =>
    by_cases hnull : j = .null
    · subst hnull
      rcases hp with rfl | rfl <;> rfl
    · have hany : any j = some j := congrArg some (h j rfl)
      have hvisible : j.isNull = false := by cases j <;> simp_all [Json.isNull]
      rw [Slot.of, read_given hany hnull, Option.filter_some_pos (by simp [hvisible])]
      rfl

end Shape

end LanguageClient
