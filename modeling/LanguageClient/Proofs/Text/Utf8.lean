import LanguageClient.Proofs.Text.Offset
import LanguageClient.Text.Utf8
namespace LanguageClient

/-!
# Decoding what was encoded

The bytes of a text decode to the text again. Where they are cut off inside a character they do not
decode; where they are cut off between two they decode to what stands before the cut.
-/

namespace Utf8

theorem toNat_toUInt8 {n : Nat} (h : n < 256) : n.toUInt8.toNat = n := UInt8.toNat_ofNat_of_lt' h

/-! ## The first byte of a character -/

theorem lead_two {a : Nat} (h : 2 ≤ a) (h' : a < 32) :
    lead (0xC0 + a).toUInt8 = some (2, 0x80, 0xBF) := by
  have ha : (0xC0 + a).toUInt8.toNat = 0xC0 + a := toNat_toUInt8 (by omega)
  rw [lead, if_pos]
  simp only [UInt8.le_iff_toNat_le, ha, UInt8.reduceToNat]
  omega

theorem lead_three {a b : Nat} (ha : a < 16) (hb : b < 64) (hmin : a = 0 → 32 ≤ b)
    (hvalid : a = 13 → b < 32) : ∃ low high : UInt8,
      lead (0xE0 + a).toUInt8 = some (3, low, high) ∧ low.toNat ≤ 0x80 + b ∧
        0x80 + b ≤ high.toNat := by
  have hlead : (0xE0 + a).toUInt8.toNat = 0xE0 + a := toNat_toUInt8 (by omega)
  unfold lead
  simp only [UInt8.le_iff_toNat_le, ← UInt8.toNat_inj, hlead, UInt8.reduceToNat]
  rw [if_neg (by omega)]
  by_cases h0 : a = 0
  · rw [if_pos (by omega)]
    exact ⟨_, _, rfl, Nat.add_le_add_left (hmin h0) 0x80, by simp; omega⟩
  by_cases h13 : a = 13
  · rw [if_neg (by omega), if_pos (by omega)]
    exact ⟨_, _, rfl, Nat.le_add_right _ _, by have := hvalid h13; simp; omega⟩
  · rw [if_neg (by omega), if_neg (by omega), if_pos (by omega)]
    exact ⟨_, _, rfl, Nat.le_add_right _ _, by simp; omega⟩

theorem lead_four {a b : Nat} (ha : a < 5) (hb : b < 64) (hmin : a = 0 → 16 ≤ b)
    (hmax : a = 4 → b < 16) : ∃ low high : UInt8,
      lead (0xF0 + a).toUInt8 = some (4, low, high) ∧ low.toNat ≤ 0x80 + b ∧
        0x80 + b ≤ high.toNat := by
  have hlead : (0xF0 + a).toUInt8.toNat = 0xF0 + a := toNat_toUInt8 (by omega)
  unfold lead
  simp only [UInt8.le_iff_toNat_le, ← UInt8.toNat_inj, hlead, UInt8.reduceToNat]
  rw [if_neg (by omega), if_neg (by omega), if_neg (by omega), if_neg (by omega)]
  by_cases h0 : a = 0
  · rw [if_pos (by omega)]
    exact ⟨_, _, rfl, Nat.add_le_add_left (hmin h0) 0x80, by simp; omega⟩
  by_cases h4 : a = 4
  · rw [if_neg (by omega), if_neg (by omega), if_pos (by omega)]
    exact ⟨_, _, rfl, Nat.le_add_right _ _, by have := hmax h4; simp; omega⟩
  · rw [if_neg (by omega), if_pos (by omega)]
    exact ⟨_, _, rfl, Nat.le_add_right _ _, by simp; omega⟩

theorem isContinuation_toUInt8 {a : Nat} (h : a < 64) :
    isContinuation (0x80 + a).toUInt8 = true := by
  have ha : (0x80 + a).toUInt8.toNat = 0x80 + a := toNat_toUInt8 (by omega)
  simp only [isContinuation, UInt8.le_iff_toNat_le, ha, UInt8.reduceToNat, Bool.and_eq_true,
    decide_eq_true_eq]
  omega

/-! ## One character -/

/-- The first byte of a character of several bytes, and what it says of the second one. -/
structure Leads (count a b : Nat) : Prop where
  le : 0x80 ≤ a
  lt : a < 256
  second : b < 64
  lead : ∃ low high : UInt8, lead a.toUInt8 = some (count, low, high) ∧ low.toNat ≤ 0x80 + b ∧
    0x80 + b ≤ high.toNat

/-- A character has one to four bytes, which its number is made of. -/
inductive Encodes : Nat → Bytes → Prop where
  | one {a : Nat} (h : a < 0x80) : Encodes a [a.toUInt8]
  | two {a b : Nat} (h : Leads 2 (0xC0 + a) b) :
      Encodes (a * 64 + b) [(0xC0 + a).toUInt8, (0x80 + b).toUInt8]
  | three {a b d : Nat} (h : Leads 3 (0xE0 + a) b) (hd : d < 64) :
      Encodes ((a * 64 + b) * 64 + d)
        [(0xE0 + a).toUInt8, (0x80 + b).toUInt8, (0x80 + d).toUInt8]
  | four {a b d e : Nat} (h : Leads 4 (0xF0 + a) b) (hd : d < 64) (he : e < 64) :
      Encodes (((a * 64 + b) * 64 + d) * 64 + e)
        [(0xF0 + a).toUInt8, (0x80 + b).toUInt8, (0x80 + d).toUInt8, (0x80 + e).toUInt8]

theorem encodes_encodeChar (c : Char) : Encodes c.toNat (encodeChar c) := by
  have hvalid : c.toNat < 0xD800 ∨ 0xDFFF < c.toNat ∧ c.toNat < 0x110000 := c.valid
  unfold encodeChar
  generalize c.toNat = n at hvalid
  dsimp only
  split
  · exact .one (by assumption)
  split
  · have hn : n / 64 * 64 + n % 64 = n := by omega
    have h := Encodes.two (a := n / 64) (b := n % 64) ⟨by omega, by omega, by omega, _, _,
      lead_two (by omega) (by omega), by simp, by simp; omega⟩
    rwa [hn] at h
  split
  · have hn : (n / 4096 * 64 + n / 64 % 64) * 64 + n % 64 = n := by omega
    have h := Encodes.three (a := n / 4096) (b := n / 64 % 64) (d := n % 64)
      ⟨by omega, by omega, by omega, lead_three (by omega) (by omega) (by omega) (by omega)⟩
      (by omega)
    rwa [hn] at h
  · have hn : ((n / 262144 * 64 + n / 4096 % 64) * 64 + n / 64 % 64) * 64 + n % 64 = n := by omega
    have h := Encodes.four (a := n / 262144) (b := n / 4096 % 64) (d := n / 64 % 64) (e := n % 64)
      ⟨by omega, by omega, by omega, lead_four (by omega) (by omega) (by omega) (by omega)⟩
      (by omega) (by omega)
    rwa [hn] at h

theorem Leads.first? {count a b : Nat} (h : Leads count a b) (rest : Bytes) :
    first? (a.toUInt8 :: (0x80 + b).toUInt8 :: rest) =
      if count = 2 then (some (Char.ofNat ((a - 0xC0) * 64 + b)), 2)
      else
        match rest with
        | [] => (none, 2)
        | c :: r =>
          if !isContinuation c then (none, 2)
          else if count = 3 then
            (some (Char.ofNat (((a - 0xE0) * 64 + b) * 64 + (c.toNat - 0x80))), 3)
          else
            match r with
            | [] => (none, 3)
            | d :: _ =>
              if !isContinuation d then (none, 3)
              else
                (some (Char.ofNat
                  ((((a - 0xF0) * 64 + b) * 64 + (c.toNat - 0x80)) * 64 +
                    (d.toNat - 0x80))), 4) := by
  obtain ⟨hle, hlt, hb, low, high, hlead, hlow, hhigh⟩ := h
  have ha : a.toUInt8.toNat = a := toNat_toUInt8 hlt
  have hb' : (0x80 + b).toUInt8.toNat = 0x80 + b := toNat_toUInt8 (by omega)
  have hlarge : ¬ a.toUInt8 < 0x80 := by
    rw [UInt8.lt_iff_toNat_lt, ha]
    exact Nat.not_lt.2 hle
  have hinside : ¬ ((0x80 + b).toUInt8 < low ∨ high < (0x80 + b).toUInt8) := by
    simp only [UInt8.lt_iff_toNat_lt, hb']
    omega
  simp only [Utf8.first?, if_neg hlarge, hlead, if_neg hinside, ha, hb', Nat.add_sub_cancel_left]
  rfl

/-- A first byte alone is no character. -/
theorem Leads.first?_alone {count a b : Nat} (h : Leads count a b) :
    Utf8.first? [a.toUInt8] = (none, 1) := by
  obtain ⟨hle, hlt, -, low, high, hlead, -, -⟩ := h
  have hlarge : ¬ a.toUInt8 < 0x80 := by
    rw [UInt8.lt_iff_toNat_lt, toNat_toUInt8 hlt]
    exact Nat.not_lt.2 hle
  simp only [Utf8.first?, if_neg hlarge, hlead]

theorem Encodes.first? {n : Nat} {bytes : Bytes} (h : Encodes n bytes) (rest : Bytes) :
    first? (bytes ++ rest) = (some (Char.ofNat n), bytes.length) := by
  have htail {d : Nat} (hd : d < 64) : (0x80 + d).toUInt8.toNat = 0x80 + d :=
    toNat_toUInt8 (by omega)
  cases h with
  | one h =>
    have hlt : n.toUInt8 < 0x80 := by
      rw [UInt8.lt_iff_toNat_lt, toNat_toUInt8 (by omega)]
      exact h
    have hnat := toNat_toUInt8 (Nat.lt_trans h (by decide : 0x80 < 256))
    simp only [List.cons_append, Utf8.first?, if_pos hlt, hnat]
    rfl
  | two h =>
    simp only [List.cons_append, List.nil_append, h.first?, Nat.add_sub_cancel_left, if_true]
    rfl
  | three h hd =>
    simp only [List.cons_append, List.nil_append, h.first?, isContinuation_toUInt8 hd, htail hd,
      Nat.add_sub_cancel_left, Bool.not_true, Bool.false_eq_true, Nat.reduceEqDiff, if_true,
      if_false, List.length_cons, List.length_nil]
  | four h hd he =>
    simp only [List.cons_append, List.nil_append, h.first?, isContinuation_toUInt8 hd,
      isContinuation_toUInt8 he, htail hd, htail he, Nat.add_sub_cancel_left, Bool.not_true,
      Bool.false_eq_true, Nat.reduceEqDiff, if_false, List.length_cons, List.length_nil]

/-- Cut off, a character is none. -/
theorem Encodes.first?_take {n : Nat} {bytes : Bytes} (h : Encodes n bytes) {k : Nat} (hk : 0 < k)
    (hk' : k < bytes.length) : (Utf8.first? (bytes.take k)).1 = none := by
  cases h with
  | one h =>
    simp only [List.length_cons, List.length_nil] at hk'
    omega
  | two h =>
    simp only [List.length_cons, List.length_nil] at hk'
    obtain rfl : k = 1 := by omega
    simp only [List.take_succ_cons, List.take_zero, h.first?_alone]
  | three h hd =>
    simp only [List.length_cons, List.length_nil] at hk'
    obtain rfl | rfl : k = 1 ∨ k = 2 := by omega
    · simp only [List.take_succ_cons, List.take_zero, h.first?_alone]
    · simp only [List.take_succ_cons, List.take_zero, h.first?, Nat.reduceEqDiff, if_false]
  | four h hd he =>
    simp only [List.length_cons, List.length_nil] at hk'
    obtain rfl | rfl | rfl : k = 1 ∨ k = 2 ∨ k = 3 := by omega
    · simp only [List.take_succ_cons, List.take_zero, h.first?_alone]
    · simp only [List.take_succ_cons, List.take_zero, h.first?, Nat.reduceEqDiff, if_false]
    · simp only [List.take_succ_cons, List.take_zero, h.first?, isContinuation_toUInt8 hd,
        Bool.not_true, Bool.false_eq_true, Nat.reduceEqDiff, if_false]

theorem length_encodeChar (c : Char) : (encodeChar c).length = c.utf8Size := by
  unfold encodeChar Char.utf8Size
  simp only [UInt32.le_iff_toNat_le, Char.toNat]
  grind

theorem first?_encodeChar (c : Char) (rest : Bytes) :
    first? (encodeChar c ++ rest) = (some c, c.utf8Size) := by
  rw [(encodes_encodeChar c).first? rest, Char.ofNat_toNat, length_encodeChar]

/-! ## Texts -/

@[simp] theorem encode_cons (c : Char) (t : Text) : encode (c :: t) = encodeChar c ++ encode t :=
  List.flatMap_cons

@[simp] theorem encode_append (s t : Text) : encode (s ++ t) = encode s ++ encode t :=
  List.flatMap_append

@[simp] theorem length_encode (t : Text) : (encode t).length = t.byteLength := by
  induction t with
  | nil => rfl
  | cons c t ih => rw [encode_cons, List.length_append, ih, length_encodeChar, Text.byteLength_cons]

theorem decodeWith_nil (fault : Option Char) (fuel : Nat) : decodeWith fault fuel [] = some [] := by
  cases fuel <;> rfl

theorem decodeWith_encodeChar (fault : Option Char) (fuel : Nat) (c : Char) (rest : Bytes) :
    decodeWith fault (fuel + 1) (encodeChar c ++ rest) =
      (decodeWith fault fuel rest).map (c :: ·) := by
  have hlen := length_encodeChar c
  have hfirst := first?_encodeChar c rest
  have hdrop : (encodeChar c ++ rest).drop c.utf8Size = rest := by rw [← hlen, List.drop_left]
  have hc := c.utf8Size_pos
  generalize hbytes : encodeChar c ++ rest = bytes at hfirst hdrop
  cases bytes with
  | nil =>
    have hzero := congrArg List.length hbytes
    rw [List.length_append, hlen, List.length_nil] at hzero
    omega
  | cons b bytes => simp only [decodeWith, hfirst, hdrop]

theorem decodeWith_eq_none {bytes : Bytes} (h : (first? bytes).1 = none) (hne : bytes ≠ [])
    {fuel : Nat} (hfuel : 0 < fuel) : decodeWith none fuel bytes = none := by
  cases fuel with
  | zero => exact absurd hfuel (Nat.lt_irrefl 0)
  | succ fuel =>
    cases bytes with
    | nil => exact absurd rfl hne
    | cons b bytes =>
      obtain ⟨n, hn⟩ : ∃ n, first? (b :: bytes) = (none, n) := ⟨_, Prod.ext h rfl⟩
      simp only [decodeWith, hn]

theorem decodeWith_take (t : Text) {n fuel : Nat} (hn : n ≤ t.byteLength) (hfuel : n ≤ fuel) :
    decodeWith none fuel ((encode t).take n) =
      if t.IsBoundary n then some (t.takeBytes n) else none := by
  induction t generalizing n fuel with
  | nil =>
    obtain rfl : n = 0 := Nat.le_zero.1 hn
    exact decodeWith_nil none fuel
  | cons c t ih =>
    have hc := c.utf8Size_pos
    have hlen := length_encodeChar c
    rw [Text.byteLength_cons] at hn
    by_cases hle : c.utf8Size ≤ n
    · -- The first character is there, and the cut falls into the others.
      obtain ⟨fuel, rfl⟩ := Nat.exists_eq_succ_of_ne_zero (show fuel ≠ 0 by omega)
      have hpiece : (encode (c :: t)).take n =
          encodeChar c ++ (encode t).take (n - c.utf8Size) := by
        rw [encode_cons, List.take_append, hlen, List.take_of_length_le (by rwa [hlen])]
      rw [hpiece, decodeWith_encodeChar, ih (by omega) (by omega)]
      simp only [Text.isBoundary_cons hle, Text.takeBytes, if_pos hle]
      split <;> rfl
    · simp only [Text.isBoundary_cons_of_lt (Nat.lt_of_not_le hle), Text.takeBytes, if_neg hle]
      rcases Nat.eq_zero_or_pos n with rfl | hpos
      · exact decodeWith_nil none fuel
      · have hpiece : (encode (c :: t)).take n = (encodeChar c).take n := by
          rw [encode_cons, List.take_append_of_le_length (by omega)]
        have hne : (encodeChar c).take n ≠ [] := by
          intro h
          have hzero := congrArg List.length h
          rw [List.length_take, List.length_nil] at hzero
          omega
        rw [hpiece, if_neg (by omega)]
        exact decodeWith_eq_none ((encodes_encodeChar c).first?_take hpos (by omega)) hne (by omega)

/-- Bytes that are cut off between two characters decode to what stands before the cut, those that
are cut off inside one do not decode. -/
theorem decode?_take (t : Text) {n : Nat} (hn : n ≤ t.byteLength) :
    decode? ((encode t).take n) = if t.IsBoundary n then some (t.takeBytes n) else none := by
  rw [decode?, List.length_take, length_encode, Nat.min_eq_left hn]
  exact decodeWith_take t hn (Nat.le_refl n)

theorem decodeWith_encode (fault : Option Char) (t : Text) {fuel : Nat} (h : t.byteLength ≤ fuel) :
    decodeWith fault fuel (encode t) = some t := by
  induction t generalizing fuel with
  | nil => exact decodeWith_nil fault fuel
  | cons c t ih =>
    have hc := c.utf8Size_pos
    rw [Text.byteLength_cons] at h
    obtain ⟨fuel, rfl⟩ := Nat.exists_eq_succ_of_ne_zero (show fuel ≠ 0 by omega)
    rw [encode_cons, decodeWith_encodeChar, ih (by omega)]
    rfl

theorem decode?_encode (t : Text) : decode? (encode t) = some t :=
  decodeWith_encode none t (Nat.le_of_eq (length_encode t).symm)

theorem decodeLossy_encode (t : Text) : decodeLossy (encode t) = t := by
  rw [decodeLossy, decodeWith_encode _ _ (Nat.le_of_eq (length_encode t).symm)]
  rfl

theorem encode_injective {s t : Text} (h : encode s = encode t) : s = t := by
  rw [← decodeLossy_encode s, h, decodeLossy_encode]

/-! ## Plain characters -/

theorem encodeChar_of_lt {c : Char} (hc : c.toNat < 0x80) : encodeChar c = [c.toNat.toUInt8] :=
  if_pos hc

/-- A byte below 128 is the whole of its character. -/
theorem Encodes.eq_toNat {n : Nat} {bytes : Bytes} (h : Encodes n bytes) {b : UInt8}
    (hb : b ∈ bytes) (hlt : b.toNat < 0x80) : n = b.toNat := by
  have hlarge {a : Nat} (ha : a < 256) (hle : 0x80 ≤ a) : b ≠ a.toUInt8 := by
    rintro rfl
    rw [toNat_toUInt8 ha] at hlt
    omega
  cases h with
  | one h =>
    rw [List.mem_singleton.1 hb, toNat_toUInt8 (by omega)]
  | two h =>
    have hsecond := h.second
    simp only [List.mem_cons, List.not_mem_nil, or_false] at hb
    rcases hb with hb | hb
    · exact absurd hb (hlarge h.lt h.le)
    · exact absurd hb (hlarge (by omega) (by omega))
  | three h hd =>
    have hsecond := h.second
    simp only [List.mem_cons, List.not_mem_nil, or_false] at hb
    rcases hb with hb | hb | hb
    · exact absurd hb (hlarge h.lt h.le)
    · exact absurd hb (hlarge (by omega) (by omega))
    · exact absurd hb (hlarge (by omega) (by omega))
  | four h hd he =>
    have hsecond := h.second
    simp only [List.mem_cons, List.not_mem_nil, or_false] at hb
    rcases hb with hb | hb | hb | hb
    · exact absurd hb (hlarge h.lt h.le)
    · exact absurd hb (hlarge (by omega) (by omega))
    · exact absurd hb (hlarge (by omega) (by omega))
    · exact absurd hb (hlarge (by omega) (by omega))

/-- A plain character is a byte of no other one. -/
theorem mem_encode_iff {t : Text} {c : Char} (hc : c.toNat < 0x80) :
    c.toNat.toUInt8 ∈ encode t ↔ c ∈ t := by
  have hbyte := toNat_toUInt8 (Nat.lt_trans hc (by decide : 0x80 < 256))
  constructor
  · intro h
    obtain ⟨d, hd, hmem⟩ := List.mem_flatMap.1 h
    have heq := (encodes_encodeChar d).eq_toNat hmem (by rwa [hbyte])
    rw [hbyte] at heq
    rwa [← Char.toNat_inj.1 heq]
  · intro h
    refine List.mem_flatMap.2 ⟨c, h, ?_⟩
    rw [encodeChar_of_lt hc]
    exact List.mem_singleton_self _

theorem notMem_encode {t : Text} (h : '\n' ∉ t) : 0x0A ∉ encode t :=
  fun hmem => h ((mem_encode_iff (c := '\n') (by decide)).1 hmem)

end Utf8

end LanguageClient
