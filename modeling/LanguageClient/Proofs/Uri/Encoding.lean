import LanguageClient.Proofs.Text.Trim
import LanguageClient.Proofs.Text.Utf8
import LanguageClient.Uri.FilePath
namespace LanguageClient

/-!
# Percent-encoded paths

The path of a file URI is the path of the file, with a percent sign and two digits in place of
each byte that a name may not show. Decoding gives the bytes back, the slashes stay where they
were, and no dots come out of other characters. The grammar of URIs follows such a path up to the
first bracket, caret or bar: a name shows these, and the grammar has no place for them.
-/

namespace Uri

/-! ## One byte -/

theorem isHex_upperHex : ∀ n < 16, isHex (upperHex n) = true := by decide

theorem hexValue_upperHex : ∀ n < 16, hexValue (upperHex n) = n := by decide

/-- The bytes of a path that are percent-encoded. A slash parts two names and stays. -/
def isEscaped (b : UInt8) : Bool := isEncoded b && b != 0x2F

/-- The characters that a path shows. -/
def isLiteral (c : Char) : Bool := decide (c.toNat < 0x80) && !isEscaped c.toNat.toUInt8

/-- The characters that a path shows and the grammar refuses. -/
def refused : List Char := ['[', ']', '^', '|']

theorem lt_of_isLiteral {c : Char} (h : isLiteral c = true) : c.toNat < 0x80 := by
  simp only [isLiteral, Bool.and_eq_true, decide_eq_true_eq] at h
  exact h.1

/-- What holds of each plain character that is shown holds of every one. -/
theorem forall_isLiteral {P : Char → Prop}
    (h : ∀ n < 128, isLiteral (Char.ofNat n) = true → P (Char.ofNat n)) {c : Char}
    (hc : isLiteral c = true) : P c := by
  have hP := h c.toNat (lt_of_isLiteral hc)
  rw [Char.ofNat_toNat] at hP
  exact hP hc

theorem isLiteral_upperHex : ∀ n < 16, isLiteral (upperHex n) = true := by decide

theorem upperHex_notMem_refused : ∀ n < 16, upperHex n ∉ refused := by decide

/-- What the grammar refuses is shown all the same, and is no part of a code or of a URI's frame. -/
theorem refused_facts {c : Char} (hc : c ∈ refused) : isLiteral c = true ∧ isHex c = false ∧
    isPathChar c = false ∧ c ≠ '?' ∧ c ≠ '#' := by
  simp only [refused, List.mem_cons, List.not_mem_nil, or_false] at hc
  rcases hc with rfl | rfl | rfl | rfl <;> decide

theorem ne_percent {c : Char} (hc : isLiteral c = true) : c ≠ '%' :=
  forall_isLiteral (P := fun c => c ≠ '%') (by decide) hc

theorem isPathChar_or {c : Char} (hc : isLiteral c = true) : isPathChar c = true ∨ c ∈ refused :=
  forall_isLiteral (P := fun c => isPathChar c = true ∨ c ∈ refused) (by decide) hc

/-- Nothing that is shown ends a path, starts one over or goes unread. -/
theorem shown_facts {c : Char} (hc : isLiteral c = true ∨ c = '%') :
    0x20 < c.toNat ∧ c ≠ '\\' ∧ c ≠ '?' ∧ c ≠ '#' := by
  rcases hc with hc | rfl
  · exact forall_isLiteral (P := fun c => 0x20 < c.toNat ∧ c ≠ '\\' ∧ c ≠ '?' ∧ c ≠ '#') (by decide)
      hc
  · decide

theorem digits_lt (b : UInt8) : b.toNat / 16 < 16 ∧ b.toNat % 16 < 16 := by
  have hb := b.toNat_lt
  omega

theorem isHex_digits (b : UInt8) :
    (isHex (upperHex (b.toNat / 16)) && isHex (upperHex (b.toNat % 16))) = true := by
  obtain ⟨hhigh, hlow⟩ := digits_lt b
  rw [isHex_upperHex _ hhigh, isHex_upperHex _ hlow, Bool.and_self]

/-- A dot is shown, so no code stands for one. -/
theorem dot_notMem_digits {b : UInt8} (hb : isEscaped b = true)
    (hhigh : upperHex (b.toNat / 16) = '2') :
    ¬ (upperHex (b.toNat % 16) = 'e' ∨ upperHex (b.toNat % 16) = 'E') := by
  intro h
  obtain ⟨hlt, hlt'⟩ := digits_lt b
  have htwo : b.toNat / 16 = hexValue '2' := by rw [← hhigh, hexValue_upperHex _ hlt]
  have hfourteen : b.toNat % 16 = 14 := by
    rcases h with h | h
    · rw [← hexValue_upperHex _ hlt', h]
      rfl
    · rw [← hexValue_upperHex _ hlt', h]
      rfl
  have hdot : b = 0x2E := UInt8.toNat_inj.1 (by
    have : hexValue '2' = 2 := rfl
    simp only [UInt8.reduceToNat]
    omega)
  subst hdot
  exact absurd hb (by decide)

theorem encodeByte_of_isEscaped {b : UInt8} (hb : isEscaped b = true) :
    encodeByte isEscaped b = ['%', upperHex (b.toNat / 16), upperHex (b.toNat % 16)] :=
  if_pos hb

theorem encodeByte_cases (b : UInt8) :
    isEscaped b = true ∨
      ∃ c, isLiteral c = true ∧ b = c.toNat.toUInt8 ∧ encodeByte isEscaped b = [c] := by
  by_cases hb : isEscaped b = true
  · exact .inl hb
  · have hlt : b.toNat < 0x7F := by
      by_contra hge
      have hle : 0x7F ≤ b := UInt8.le_iff_toNat_le.2 (Nat.le_of_not_lt hge)
      have hne : b ≠ 0x2F := by
        rintro rfl
        exact absurd hle (by decide)
      exact hb (by simp [isEscaped, isEncoded, hle, hne])
    have hc : (Char.ofNat b.toNat).toNat = b.toNat := by
      rw [Char.ofNat, dif_pos (.inl (Nat.lt_trans hlt (by decide)))]
      rfl
    refine .inr ⟨Char.ofNat b.toNat, ?_, ?_, if_neg hb⟩
    · simpa [isLiteral, hc, Nat.lt_trans hlt (by decide : 0x7F < 0x80)] using hb
    · simp [hc]

/-! ## Paths -/

/-- A path as its URI shows it. -/
def spell (t : Text) : Text := (Utf8.encode t).flatMap (encodeByte isEscaped)

/-- What is shown for some bytes, one at a time. -/
inductive Spells : Bytes → Text → Prop where
  | nil : Spells [] []
  | escape {b : UInt8} {bytes : Bytes} {t : Text} (hb : isEscaped b = true) (h : Spells bytes t) :
      Spells (b :: bytes) ('%' :: upperHex (b.toNat / 16) :: upperHex (b.toNat % 16) :: t)
  | literal {c : Char} {bytes : Bytes} {t : Text} (hc : isLiteral c = true) (h : Spells bytes t) :
      Spells (c.toNat.toUInt8 :: bytes) (c :: t)

theorem spells_flatMap (bytes : Bytes) : Spells bytes (bytes.flatMap (encodeByte isEscaped)) := by
  induction bytes with
  | nil => exact .nil
  | cons b bytes ih =>
    rw [List.flatMap_cons]
    rcases encodeByte_cases b with hb | ⟨c, hc, rfl, hspell⟩
    · rw [encodeByte_of_isEscaped hb]
      exact .escape hb ih
    · rw [hspell]
      exact .literal hc ih

theorem spells_spell (t : Text) : Spells (Utf8.encode t) (spell t) := spells_flatMap _

namespace Spells

variable {bytes : Bytes} {t : Text}

theorem decodeBytes_eq (h : Spells bytes t) : decodeBytes t = bytes := by
  induction h with
  | nil => rfl
  | @escape b bytes t hb _ ih =>
    obtain ⟨hhigh, hlow⟩ := digits_lt b
    rw [decodeBytes, if_pos (isHex_digits b), hexValue_upperHex _ hhigh, hexValue_upperHex _ hlow,
      ih, Nat.div_add_mod' b.toNat 16]
    simp
  | @literal c bytes t hc _ ih =>
    have hlt := lt_of_isLiteral hc
    simp [decodeBytes, ne_percent hc, Utf8.encodeChar_of_lt hlt, ih]

/-- The grammar stops where the first character stands that it refuses. -/
theorem skipClass_eq (h : Spells bytes t) : skipClass isPathChar t = t.dropWhile (· ∉ refused) := by
  induction h with
  | nil => rfl
  | @escape b bytes t hb _ ih =>
    obtain ⟨hhigh, hlow⟩ := digits_lt b
    rw [skipClass, if_pos (isHex_digits b), ih]
    have hpercent : '%' ∉ refused := by decide
    simp [upperHex_notMem_refused _ hhigh, upperHex_notMem_refused _ hlow, hpercent]
  | @literal c bytes t hc _ ih =>
    by_cases hmem : c ∈ refused
    · simp [skipClass, ne_percent hc, (refused_facts hmem).2.2.1, hmem]
    · simp [skipClass, ne_percent hc, (isPathChar_or hc).resolve_right hmem, hmem, ih]

/-- Dots are shown for dots only. -/
theorem of_dots (h : Spells bytes t) {n : Nat} (hdots : dots t = some n) :
    bytes = List.replicate n 0x2E := by
  induction h generalizing n with
  | nil =>
    cases hdots
    rfl
  | @escape b bytes t hb _ ih =>
    rw [dots.eq_def] at hdots
    split at hdots
    · rename_i heq
      cases heq
    · rename_i heq
      cases (List.cons.inj heq).1
    · rename_i heq
      obtain ⟨-, hhigh, hlow, -⟩ : _ ∧ upperHex (b.toNat / 16) = '2' ∧ _ ∧ _ := by
        simpa only [List.cons.injEq] using heq
      rw [if_neg (hlow ▸ dot_notMem_digits hb hhigh)] at hdots
      cases hdots
    · cases hdots
  | @literal c bytes t hc _ ih =>
    by_cases hdot : c = '.'
    · subst hdot
      obtain ⟨m, hm, rfl⟩ := Option.map_eq_some_iff.1 hdots
      rw [ih hm, List.replicate_succ]
      rfl
    · simp [dots, hdot, ne_percent hc] at hdots

theorem shown (h : Spells bytes t) {c : Char} (hc : c ∈ t) : isLiteral c = true ∨ c = '%' := by
  induction h with
  | nil => cases hc
  | @escape b bytes t hb _ ih =>
    obtain ⟨hhigh, hlow⟩ := digits_lt b
    simp only [List.mem_cons] at hc
    rcases hc with rfl | rfl | rfl | hc
    · exact .inr rfl
    · exact .inl (isLiteral_upperHex _ hhigh)
    · exact .inl (isLiteral_upperHex _ hlow)
    · exact ih hc
  | literal hd _ ih =>
    rcases List.mem_cons.1 hc with rfl | hc
    · exact .inl hd
    · exact ih hc

/-- A character that is shown and is none of a code stands for itself. -/
theorem mem_iff (h : Spells bytes t) {c : Char} (hc : isLiteral c = true) (hhex : isHex c = false) :
    c ∈ t ↔ c.toNat.toUInt8 ∈ bytes := by
  have hlt := lt_of_isLiteral hc
  induction h with
  | nil => simp
  | @escape b bytes t hb _ ih =>
    obtain ⟨hhigh, hlow⟩ := digits_lt b
    have hne {n : Nat} (hn : n < 16) : c ≠ upperHex n := by
      rintro rfl
      rw [isHex_upperHex n hn] at hhex
      cases hhex
    have hbyte : c.toNat.toUInt8 ≠ b := by
      rintro rfl
      simp [isLiteral, hb] at hc
    simp only [List.mem_cons, ne_percent hc, hne hhigh, hne hlow, hbyte, false_or, ih]
  | @literal d bytes t hd _ ih =>
    have hbyte : c.toNat.toUInt8 = d.toNat.toUInt8 ↔ c = d := by
      have hlt' := lt_of_isLiteral hd
      rw [← UInt8.toNat_inj, Utf8.toNat_toUInt8 (by omega), Utf8.toNat_toUInt8 (by omega),
        Char.toNat_inj]
    simp only [List.mem_cons, hbyte, ih]

end Spells

theorem mem_spell_iff {t : Text} {c : Char} (hc : isLiteral c = true) (hhex : isHex c = false) :
    c ∈ spell t ↔ c ∈ t := by
  rw [(spells_spell t).mem_iff hc hhex, Utf8.mem_encode_iff (lt_of_isLiteral hc)]

theorem spell_append (s t : Text) : spell (s ++ t) = spell s ++ spell t := by
  rw [spell, Utf8.encode_append, List.flatMap_append]
  rfl

theorem spell_slash : spell ['/'] = ['/'] := by decide

theorem spell_slash_cons (t : Text) : spell ('/' :: t) = '/' :: spell t := by
  rw [← List.singleton_append, spell_append, spell_slash, List.singleton_append]

theorem spell_joinWith (ts : List Text) :
    spell (Text.joinWith ['/'] ts) = Text.joinWith ['/'] (ts.map spell) := by
  induction ts with
  | nil => rfl
  | cons t ts ih =>
    by_cases hnil : ts = []
    · subst hnil
      simp [Text.joinWith]
    · rw [Text.joinWith_cons _ _ hnil, List.map_cons,
        Text.joinWith_cons _ _ (List.map_eq_nil_iff.not.2 hnil), spell_append, spell_append,
        spell_slash, ih]

theorem splitOnChar_spell (t : Text) :
    Text.splitOnChar '/' (spell t) = (Text.splitOnChar '/' t).map spell := by
  have hne : (Text.splitOnChar '/' t).map spell ≠ [] :=
    List.map_eq_nil_iff.not.2 (Text.splitOnChar_ne_nil '/' t)
  have hslash : ∀ piece ∈ (Text.splitOnChar '/' t).map spell, '/' ∉ piece := by
    intro piece hpiece
    obtain ⟨name, hname, rfl⟩ := List.mem_map.1 hpiece
    rw [mem_spell_iff rfl rfl]
    exact Text.notMem_of_mem_splitOnChar hname
  rw [← Text.splitOnChar_joinWith hne hslash, ← spell_joinWith, Text.joinWith_splitOnChar]

theorem encodeComponent_eq {t : Text} (h : '/' ∉ t) : encodeComponent t = spell t := by
  have hslash : 0x2F ∉ Utf8.encode t :=
    fun hmem => h ((Utf8.mem_encode_iff (c := '/') (by decide)).1 hmem)
  unfold encodeComponent spell
  refine List.flatMap_congr fun b hb => ?_
  have hne : b ≠ 0x2F := fun heq => hslash (heq ▸ hb)
  simp [encodeByte, isEscaped, hne]

theorem decodeBytes_spell (t : Text) : decodeBytes (spell t) = Utf8.encode t :=
  (spells_spell t).decodeBytes_eq

theorem spell_injective {s t : Text} (h : spell s = spell t) : s = t := by
  refine Utf8.encode_injective ?_
  rw [← decodeBytes_spell, h, decodeBytes_spell]

theorem encode_replicate_dot (n : Nat) :
    Utf8.encode (List.replicate n '.') = List.replicate n 0x2E := by
  induction n with
  | zero => rfl
  | succ n ih =>
    rw [List.replicate_succ, Utf8.encode_cons, ih, List.replicate_succ]
    rfl

theorem eq_replicate_of_dots {t : Text} {n : Nat} (h : dots (spell t) = some n) :
    t = List.replicate n '.' := by
  refine Utf8.encode_injective ?_
  rw [encode_replicate_dot, (spells_spell t).of_dots h]

/-! ## The grammar -/

theorem skipTail_spell (t : Text) : skipTail (spell t) = (spell t).dropWhile (· ∉ refused) := by
  have hclass := (spells_spell t).skipClass_eq
  unfold skipTail
  rw [hclass]
  cases hrest : (spell t).dropWhile (· ∉ refused) with
  | nil => rfl
  | cons c r =>
    have hc : c ∈ refused := by
      have hhead := List.head?_dropWhile_not (fun c => decide (c ∉ refused)) (spell t)
      rw [hrest] at hhead
      simpa using hhead
    obtain ⟨-, -, -, hquery, hfragment⟩ := refused_facts hc
    simp [hquery, hfragment]

theorem mem_spell_iff_of_refused {t : Text} {c : Char} (hc : c ∈ refused) :
    c ∈ spell t ↔ c ∈ t := by
  obtain ⟨hliteral, hhex, -⟩ := refused_facts hc
  exact mem_spell_iff hliteral hhex

theorem firstFault?_eq_none_iff {t : Text} : firstFault? t = none ↔ skipReference t = [] := by
  unfold firstFault?
  cases skipReference t <;> simp

/-- An absolute path gives a reference unless it has a character that the grammar refuses. -/
theorem firstFault?_spell_eq_none_iff {t : Text} :
    firstFault? ("file://".toList ++ spell ('/' :: t)) = none ↔ ∀ c ∈ refused, c ∉ '/' :: t := by
  have hreference : skipReference ("file://".toList ++ spell ('/' :: t)) =
      skipTail (spell ('/' :: t)) := by
    rw [spell_slash_cons]
    rfl
  rw [firstFault?_eq_none_iff, hreference, skipTail_spell, List.dropWhile_eq_nil_iff]
  constructor
  · intro h c hc hmem
    simpa [hc] using h c ((mem_spell_iff_of_refused hc).2 hmem)
  · intro h c hmem
    rw [decide_eq_true_eq]
    exact fun hc => h c hc ((mem_spell_iff_of_refused hc).1 hmem)

end Uri

end LanguageClient
