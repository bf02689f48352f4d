import LanguageClient.Definition.Line
import LanguageClient.Proofs.Text.Trim
namespace LanguageClient

/-!
# CSV records

Every record is read back from the line that it is written on, whatever its fields hold, and line
ends after the line are of no account. A field that holds a comma, a quote or a line end stands in
quotes, so a record never ends in a line end itself. Only the record without fields is lost: its
line is that of one empty field.
-/

namespace Csv

theorem isSpecial_eq_false_iff {c : Char} :
    isSpecial c = false ↔ c ≠ ',' ∧ c ≠ '"' ∧ isLineEnd c = false := by
  simp [isSpecial, and_assoc]

theorem encode_cons (t : Text) {fields : List Text} (h : fields ≠ []) :
    encode (t :: fields) = encodeField t ++ ',' :: encode fields := by
  have hmap : fields.map encodeField ≠ [] := List.map_eq_nil_iff.not.2 h
  rw [encode, List.map_cons, Text.joinWith_cons _ _ hmap]
  rfl

/-! ## Reading a field -/

/-- A field is read up to its end, which is the end of the record or a comma. -/
theorem fields?_plain {t : Text} (h : ∀ c ∈ t, isSpecial c = false) (current rest : Text) :
    fields? (t ++ rest) false current = fields? rest false (t.reverse ++ current) := by
  induction t generalizing current with
  | nil => rfl
  | cons c t ih =>
    rw [List.forall_mem_cons] at h
    obtain ⟨hcomma, hquote, -⟩ := isSpecial_eq_false_iff.1 h.1
    rw [List.cons_append, fields?, if_neg (fun hq => hquote hq.1), if_neg hcomma, ih h.2]
    simp

theorem fields?_closing {rest : Text} (h : rest.head? ≠ some '"') (current : Text) :
    fields? ('"' :: rest) true current = fields? rest false current := by
  cases rest with
  | nil => simp [fields?]
  | cons c rest =>
    have hc : c ≠ '"' := by simpa using h
    rw [fields?, if_pos rfl]
    simpa using hc

theorem fields?_doubleQuotes {rest : Text} (h : rest.head? ≠ some '"') (t current : Text) :
    fields? (doubleQuotes t ++ '"' :: rest) true current =
      fields? rest false (t.reverse ++ current) := by
  induction t generalizing current with
  | nil => exact fields?_closing h current
  | cons c t ih =>
    by_cases hc : c = '"'
    · subst hc
      have : doubleQuotes ('"' :: t) = '"' :: '"' :: doubleQuotes t := rfl
      rw [this, List.cons_append, List.cons_append, fields?, ih]
      simp
    · have : doubleQuotes (c :: t) = c :: doubleQuotes t := by simp [doubleQuotes, hc]
      rw [this, List.cons_append, fields?, if_neg hc, ih]
      · simp
      · intro r hr
        exact absurd hr hc

theorem fields?_encodeField {rest : Text} (h : rest.head? ≠ some '"') (t : Text) :
    fields? (encodeField t ++ rest) false [] = fields? rest false t.reverse := by
  unfold encodeField
  split
  · rw [List.cons_append, fields?, if_pos ⟨rfl, rfl⟩, List.append_assoc,
      List.singleton_append, fields?_doubleQuotes h, List.append_nil]
  · next hs =>
    have hs : ∀ c ∈ t, isSpecial c = false := by simpa using hs
    rw [fields?_plain hs, List.append_nil]

theorem fields?_encode {fields : List Text} (h : fields ≠ []) :
    fields? (encode fields) false [] = some fields := by
  induction fields with
  | nil => exact absurd rfl h
  | cons t fields ih =>
    by_cases hnil : fields = []
    · subst hnil
      have hfield : fields? (encodeField t ++ []) false [] = fields? [] false t.reverse :=
        fields?_encodeField (by simp) t
      simpa [encode, Text.joinWith, fields?] using hfield
    · rw [encode_cons t hnil, fields?_encodeField (by simp), fields?, if_neg (by simp),
        if_pos rfl, ih hnil, List.reverse_reverse]
      rfl

/-! ## Line ends -/

theorem getLast?_encodeField (t : Text) :
    ∀ c ∈ (encodeField t).getLast?, isLineEnd c = false := by
  intro c hc
  unfold encodeField at hc
  split at hc
  · rw [← List.cons_append, List.getLast?_concat, Option.mem_some_iff] at hc
    subst hc
    rfl
  · next hs =>
    have hs : ∀ c ∈ t, isSpecial c = false := by simpa using hs
    exact (isSpecial_eq_false_iff.1 (hs c (List.mem_of_mem_getLast? hc))).2.2

/-- No record ends in a line end: a field that does stands in quotes. -/
theorem getLast?_encode (fields : List Text) :
    ∀ c ∈ (encode fields).getLast?, isLineEnd c = false := by
  induction fields with
  | nil => intro c hc; cases hc
  | cons t fields ih =>
    by_cases hnil : fields = []
    · subst hnil
      simpa [encode, Text.joinWith] using getLast?_encodeField t
    · intro c hc
      rw [encode_cons t hnil, List.getLast?_append, List.getLast?_cons, Option.some_or,
        Option.mem_some_iff] at hc
      subst hc
      -- An empty last field leaves the comma before it at the end.
      cases hlast : (encode fields).getLast? with
      | none => rfl
      | some d => exact ih d hlast

/-- Line ends after a line change nothing in what is read from it. -/
theorem decode?_append_lineEnds {ends : Text} (h : ∀ c ∈ ends, isLineEnd c = true) (line : Text) :
    decode? (line ++ ends) = decode? line := by
  have hdrop : (ends.reverse ++ line.reverse).dropWhile isLineEnd =
      line.reverse.dropWhile isLineEnd :=
    List.dropWhile_append_of_pos fun c hc => h c (List.mem_reverse.1 hc)
  rw [decode?, decode?, List.reverse_append, hdrop]

theorem decode?_encode {fields : List Text} (h : fields ≠ []) :
    decode? (encode fields) = some fields := by
  have hlast : (encode fields).rdropWhile isLineEnd = encode fields := by
    refine List.rdropWhile_eq_self_iff.2 fun hl => ?_
    rw [getLast?_encode fields _ (List.getLast?_eq_some_getLast hl)]
    exact Bool.false_ne_true
  calc
    decode? (encode fields) = fields? ((encode fields).rdropWhile isLineEnd) false [] := rfl
    _ = some fields := by rw [hlast, fields?_encode h]

/-- Every record of one field or more is read back from its line, and from its line with any line
ends after it. -/
theorem encode_lossless {fields : List Text} (h : fields ≠ []) :
    decode? (encode fields) = some fields ∧
      ∀ ends : Text, (∀ c ∈ ends, isLineEnd c = true) →
        decode? (encode fields ++ ends) = some fields := by
  have hline := decode?_encode h
  refine ⟨hline, fun ends hends => ?_⟩
  rw [decode?_append_lineEnds hends, hline]

example : encode [] = encode [[]] := rfl

/-- Empty fields at both ends and in between, a lone quote, and fields that end in line ends. -/
def entangled : List Text :=
  ["".toList, "\"".toList, "a,\"b\"\r\n".toList, "".toList, "\n".toList, "".toList]

theorem encode_lossless_entangled :
    encode entangled = ",\"\"\"\",\"a,\"\"b\"\"\r\n\",,\"\n\",".toList ∧
      decode? (encode entangled) = some entangled ∧
      decode? (encode entangled ++ "\r\n\n\r".toList) = some entangled := by
  have hne : entangled ≠ [] := by decide
  have hends : "\r\n\n\r".toList.all isLineEnd = true := by decide
  obtain ⟨hline, hmore⟩ := encode_lossless hne
  exact ⟨by decide, hline, hmore _ (List.all_eq_true.1 hends)⟩

end Csv

end LanguageClient
