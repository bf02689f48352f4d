import LanguageClient.Message.Frame
import LanguageClient.Proofs.Text.Trim
import LanguageClient.Proofs.Text.Utf8
namespace LanguageClient

/-!
# Header lines and bodies

What the reader of frames does on each part of one, and where the bytes break off in it: a line is
read whole whatever it says, an empty one is followed by the body, and a part that is not there to
its end gives nothing.
-/

namespace Frame

def crlf : Text := ['\r', '\n']

theorem isBlank_of_mem_crlf : ∀ c ∈ crlf, Text.isBlank c = true := List.all_eq_true.1 rfl

/-! ## One line -/

/-- The line that is looked at next: the bytes that are left count as one when the stream ended. -/
def line? (ended : Bool) (bytes : Bytes) : Option (Bytes × Bytes) :=
  match cutLine? bytes with
  | some c => some c
  | none => if ended then some (bytes, []) else none

theorem cutLine?_append_of_notMem {line : Bytes} (h : 0x0A ∉ line) (rest : Bytes) :
    cutLine? (line ++ 0x0A :: rest) = some (line ++ [0x0A], rest) := by
  induction line with
  | nil => simp [cutLine?]
  | cons b line ih =>
    rw [List.mem_cons, not_or] at h
    rw [List.cons_append, cutLine?, if_neg (Ne.symm h.1), ih h.2]
    rfl

theorem cutLine?_of_notMem {bytes : Bytes} (h : 0x0A ∉ bytes) : cutLine? bytes = none := by
  induction bytes with
  | nil => rfl
  | cons b bytes ih =>
    rw [List.mem_cons, not_or] at h
    rw [cutLine?, if_neg (Ne.symm h.1), ih h.2]
    rfl

theorem encode_append_crlf (t : Text) :
    Utf8.encode (t ++ crlf) = (Utf8.encode t ++ [0x0D]) ++ [0x0A] := by
  rw [Utf8.encode_append, List.append_assoc]
  rfl

theorem line?_encode {t : Text} (h : '\n' ∉ t) (ended : Bool) (rest : Bytes) :
    line? ended (Utf8.encode (t ++ crlf) ++ rest) = some (Utf8.encode (t ++ crlf), rest) := by
  have hfree : 0x0A ∉ Utf8.encode t ++ [0x0D] := by
    simpa only [List.mem_append, List.mem_singleton, not_or] using
      ⟨Utf8.notMem_encode h, by decide⟩
  rw [line?, encode_append_crlf, List.append_assoc, List.singleton_append,
    cutLine?_append_of_notMem hfree]

theorem cutLine?_take {t : Text} (h : '\n' ∉ t) {k : Nat}
    (hk : k < (Utf8.encode (t ++ crlf)).length) :
    cutLine? ((Utf8.encode (t ++ crlf)).take k) = none := by
  have hfree : 0x0A ∉ Utf8.encode t ++ [0x0D] := by
    simpa only [List.mem_append, List.mem_singleton, not_or] using
      ⟨Utf8.notMem_encode h, by decide⟩
  refine cutLine?_of_notMem fun hmem => hfree ?_
  rw [encode_append_crlf] at hmem hk
  rw [List.length_append, List.length_singleton] at hk
  rw [List.take_append_of_le_length (by omega)] at hmem
  exact List.mem_of_mem_take hmem

/-! ## Header lines -/

/-- A header line without its ending. -/
structure IsLine (t : Text) : Prop where
  single : '\n' ∉ t
  solid : t.Solid

variable {ended saw : Bool} {fuel n : Nat} {length length' : Option Nat} {bytes line rest : Bytes}
  {t content : Text} {lines : List Text}

theorem headers_of_line (hline : line? ended bytes = some (line, rest)) (hne : line ≠ [])
    (ht : Utf8.decode? line = some t) :
    headers ended (fuel + 1) saw length bytes =
      if Text.trim t = [] then
        if saw then body ended length rest else headers ended fuel false length rest
      else
        match headerLength (Text.trim t) length with
        | .ok length => headers ended fuel true length rest
        | .error e => .failed e := by
  obtain ⟨b, line, rfl⟩ := List.exists_cons_of_ne_nil hne
  unfold line? at hline
  cases hcut : cutLine? bytes with
  | some c =>
    simp only [hcut, Option.some.injEq] at hline
    simp only [headers, hcut, hline, ht]
    cases Text.trim t <;> rfl
  | none =>
    cases ended with
    | false => simp [hcut] at hline
    | true =>
      simp only [hcut, if_true, Option.some.injEq] at hline
      simp only [headers, hcut, if_true, hline, ht]
      cases Text.trim t <;> rfl

theorem encode_append_crlf_ne_nil (t : Text) : Utf8.encode (t ++ crlf) ≠ [] := by
  rw [encode_append_crlf]
  exact List.append_ne_nil_of_right_ne_nil _ (List.cons_ne_nil _ _)

theorem headers_line (h : IsLine t) (hlen : headerLength (Text.trim t) length = .ok length') :
    headers ended (fuel + 1) saw length (Utf8.encode (t ++ crlf) ++ rest) =
      headers ended fuel true length' rest := by
  rw [headers_of_line (line?_encode h.single ended rest) (encode_append_crlf_ne_nil t)
    (Utf8.decode?_encode _), h.solid.trim_append isBlank_of_mem_crlf, if_neg h.solid.trim_ne_nil,
    hlen]

theorem headers_blank :
    headers ended (fuel + 1) true length (Utf8.encode crlf ++ rest) = body ended length rest := by
  rw [← List.nil_append crlf, headers_of_line (line?_encode List.not_mem_nil ended rest)
    (encode_append_crlf_ne_nil []) (Utf8.decode?_encode _), List.nil_append,
    if_pos (Text.trim_of_forall isBlank_of_mem_crlf), if_pos rfl]

theorem body_encode (hfit : content.byteLength ≤ maxLength) :
    body ended (some content.byteLength) (Utf8.encode content ++ rest) = .frame content rest := by
  have htake : (Utf8.encode content ++ rest).take content.byteLength = Utf8.encode content := by
    rw [← Utf8.length_encode, List.take_left]
  have hdrop : (Utf8.encode content ++ rest).drop content.byteLength = rest := by
    rw [← Utf8.length_encode, List.drop_left]
  simp only [body, if_neg (Nat.not_lt.2 hfit), htake, Utf8.length_encode, Nat.lt_irrefl, if_false,
    Utf8.decode?_encode, hdrop]

/-! ## Where a stream breaks off -/

/-- The reader waits for more bytes, or fails if there will be none. -/
def Broken (ended : Bool) (next : Next) : Prop :=
  if ended then ∃ e, next = .failed e else next = .incomplete

theorem broken_failed (e : ClientError) : Broken true (.failed e) := ⟨e, rfl⟩

theorem broken_incomplete : Broken false .incomplete := rfl

theorem headers_nil : Broken ended (headers ended (fuel + 1) true length []) := by
  cases ended with
  | true => exact broken_failed _
  | false => exact broken_incomplete

/-- A header line that breaks off does not count, however far it came. -/
theorem headers_take (h : IsLine t) {k : Nat} (hpos : 0 < k)
    (hk : k < (Utf8.encode (t ++ crlf)).length) :
    Broken ended (headers ended (fuel + 2) saw length ((Utf8.encode (t ++ crlf)).take k)) := by
  have hcut := cutLine?_take h.single hk
  have hne : (Utf8.encode (t ++ crlf)).take k ≠ [] := by
    rw [Ne, List.take_eq_nil_iff, not_or]
    exact ⟨by omega, encode_append_crlf_ne_nil t⟩
  have hdecode := Utf8.decode?_take (t ++ crlf) (n := k) (by rw [← Utf8.length_encode]; omega)
  generalize (Utf8.encode (t ++ crlf)).take k = bytes at hcut hne hdecode
  cases ended with
  | false =>
    simp only [headers, hcut, Bool.false_eq_true, if_false]
    exact broken_incomplete
  | true =>
    have hline : line? true bytes = some (bytes, []) := by simp only [line?, hcut, if_true]
    split at hdecode
    · next hbound =>
      have hsolid : Text.Solid ((t ++ crlf).takeBytes k) := by
        have hpart := Text.takeBytes_append_dropBytes (t ++ crlf) k
        refine (h.solid.append crlf).of_initial ⟨_, hpart⟩ fun hnil => ?_
        rw [Text.IsBoundary, Text.clampOffset, hnil] at hbound
        exact hpos.ne hbound
      rw [headers_of_line hline hne hdecode, if_neg hsolid.trim_ne_nil]
      split
      · exact headers_nil
      · exact broken_failed _
    · obtain ⟨b, bytes, rfl⟩ := List.exists_cons_of_ne_nil hne
      simp only [headers, hcut, if_true, hdecode]
      exact broken_failed _

theorem body_of_short (h : bytes.length < n) (hfit : n ≤ maxLength) :
    Broken ended (body ended (some n) bytes) := by
  have hshort : (bytes.take n).length < n := by
    rw [List.length_take]
    omega
  simp only [body, if_neg (Nat.not_lt.2 hfit), hshort, if_true]
  cases ended with
  | true => exact broken_failed _
  | false => exact broken_incomplete

theorem headers_blank_take {k : Nat} (hk : k < 2) (hn : 0 < n) (hfit : n ≤ maxLength) :
    Broken ended (headers ended (fuel + 1) true (some n) ((Utf8.encode crlf).take k)) := by
  obtain rfl | rfl : k = 0 ∨ k = 1 := by omega
  · exact headers_nil
  · cases ended with
    | false => exact broken_incomplete
    | true =>
      rw [headers_of_line (t := ['\r']) rfl (List.cons_ne_nil _ _) rfl, if_pos (by decide),
        if_pos rfl]
      exact body_of_short hn hfit

/-! ## One frame -/

/-- What stands before a body: its header lines and the empty one. -/
def heading (lines : List Text) : Text := lines.flatMap (· ++ crlf) ++ crlf

/-- Header lines after which the reader knows the length `n`. -/
inductive Announces (n : Nat) : Option Nat → List Text → Prop where
  | nil : Announces n (some n) []
  | cons {first : Text} {others : List Text} {before after : Option Nat} (h : IsLine first)
      (hlen : headerLength (Text.trim first) before = .ok after)
      (hothers : Announces n after others) : Announces n before (first :: others)

theorem encode_heading_cons (t : Text) (lines : List Text) (bytes : Bytes) :
    Utf8.encode (heading (t :: lines)) ++ bytes =
      Utf8.encode (t ++ crlf) ++ (Utf8.encode (heading lines) ++ bytes) := by
  rw [← List.append_assoc, ← Utf8.encode_append, heading, List.flatMap_cons, List.append_assoc]
  rfl

theorem length_lines_le (lines : List Text) :
    lines.length ≤ (Utf8.encode (heading lines)).length := by
  induction lines with
  | nil => exact Nat.zero_le _
  | cons t lines ih =>
    have hfirst := List.length_pos_of_ne_nil (encode_append_crlf_ne_nil t)
    have hcons := encode_heading_cons t lines []
    rw [List.append_nil, List.append_nil] at hcons
    rw [hcons, List.length_append, List.length_cons]
    omega

theorem Announces.frame (h : Announces content.byteLength length lines)
    (hfit : content.byteLength ≤ maxLength) (hfuel : lines.length < fuel)
    (hsaw : saw = true ∨ lines ≠ []) :
    headers ended fuel saw length (Utf8.encode (heading lines) ++ (Utf8.encode content ++ rest)) =
      .frame content rest := by
  induction h generalizing saw fuel with
  | nil =>
    obtain ⟨fuel, rfl⟩ := Nat.exists_eq_succ_of_ne_zero (Nat.ne_of_gt hfuel)
    obtain rfl : saw = true := hsaw.resolve_right fun h => h rfl
    exact headers_blank.trans (body_encode hfit)
  | cons h hlen hlines ih =>
    obtain ⟨fuel, rfl⟩ := Nat.exists_eq_succ_of_ne_zero (Nat.ne_zero_of_lt hfuel)
    rw [encode_heading_cons, headers_line h hlen]
    exact ih (by simpa using hfuel) (.inl rfl)

/-- A frame that breaks off gives no message. -/
theorem Announces.broken (h : Announces content.byteLength length lines)
    (hne : content ≠ []) (hfit : content.byteLength ≤ maxLength) {k : Nat} (hfuel : k + 1 < fuel)
    (hk : k < (Utf8.encode (heading lines) ++ Utf8.encode content).length)
    (hsaw : saw = true ∨ lines ≠ [] ∧ 0 < k) :
    Broken ended (headers ended fuel saw length
      ((Utf8.encode (heading lines) ++ Utf8.encode content).take k)) := by
  induction h generalizing saw fuel k with
  | nil =>
    obtain ⟨fuel, rfl⟩ := Nat.exists_eq_succ_of_ne_zero (Nat.ne_zero_of_lt hfuel)
    obtain rfl : saw = true := hsaw.resolve_right fun h => h.1 rfl
    change Broken ended (headers ended (fuel + 1) true (some content.byteLength)
      ((Utf8.encode crlf ++ Utf8.encode content).take k))
    rcases Nat.lt_or_ge k 2 with hshort | hlong
    · rw [List.take_append_of_le_length (Nat.le_of_lt hshort)]
      exact headers_blank_take hshort (Text.byteLength_pos hne) hfit
    · obtain ⟨i, rfl⟩ := Nat.exists_eq_add_of_le hlong
      rw [show 2 + i = (Utf8.encode crlf).length + i from rfl, List.take_length_add_append,
        headers_blank]
      refine body_of_short ?_ hfit
      have hheading : (Utf8.encode (heading [])).length = 2 := rfl
      rw [List.length_append, hheading, Utf8.length_encode] at hk
      rw [List.length_take, Utf8.length_encode]
      omega
  | @cons t lines length length' h hlen hlines ih =>
    have hfirst := encode_append_crlf_ne_nil t
    rw [encode_heading_cons] at hk ⊢
    rcases Nat.lt_or_ge k (Utf8.encode (t ++ crlf)).length with hshort | hlong
    · rw [List.take_append_of_le_length (Nat.le_of_lt hshort)]
      rcases Nat.eq_zero_or_pos k with rfl | hpos
      · obtain ⟨fuel, rfl⟩ := Nat.exists_eq_succ_of_ne_zero (Nat.ne_zero_of_lt hfuel)
        obtain rfl : saw = true := hsaw.resolve_right fun h => Nat.lt_irrefl 0 h.2
        exact headers_nil
      · obtain ⟨fuel, rfl⟩ := Nat.exists_eq_add_of_le' (show 2 ≤ fuel by omega)
        exact headers_take h hpos hshort
    · obtain ⟨i, rfl⟩ := Nat.exists_eq_add_of_le hlong
      obtain ⟨fuel, rfl⟩ := Nat.exists_eq_succ_of_ne_zero (Nat.ne_zero_of_lt hfuel)
      have hpos := List.length_pos_of_ne_nil hfirst
      rw [List.length_append] at hk
      rw [List.take_length_add_append, headers_line h hlen]
      exact ih (by omega) (by omega) (.inl rfl)

/-! ## What a line says -/

theorem headerLength_other (h : ∀ name value, Text.cut? ':' t = some (name, value) →
    Text.lowerAscii (Text.trim name) ≠ "content-length".toList) (hsolid : t.Solid) :
    headerLength (Text.trim t) length = .ok length := by
  unfold headerLength
  cases hcut : Text.cut? ':' (Text.trim t) with
  | none => rfl
  | some p =>
    obtain ⟨after, hname⟩ := Text.cut?_of_initial hsolid.initial_trim hcut
    exact if_neg (h p.1 after hname)

theorem length?_toDigits (h : n < UInt64.size) : length? (Nat.toDigits 10 n) = some n := by
  have hall : (Nat.toDigits 10 n).all Char.isDigit = true := by
    rw [List.all_eq_true]
    exact fun c hc => Nat.isDigit_of_mem_toDigits (by decide) (by decide) hc
  unfold length?
  split
  · next r hr =>
    rw [hr, List.all_cons] at hall
    simp at hall
  · simp only [ne_eq, Nat.toDigits_ne_nil, not_false_eq_true, hall, and_self, if_true,
      Text.foldl_toDigits, h]

/-- The characters of the name, in either case, are neither white space nor separators. -/
theorem of_mem_name {name : Text} (h : Text.lowerAscii name = "content-length".toList) {c : Char}
    (hc : c ∈ name) : Text.isBlank c = false ∧ c ≠ ':' ∧ c ≠ '\n' := by
  have hletters : ∀ d ∈ "content-length".toList,
      (!Text.isBlank d && d != ':' && d != '\n') = true := List.all_eq_true.1 (by decide)
  have hmem : c.toLower ∈ "content-length".toList := h ▸ List.mem_map_of_mem hc
  unfold Char.toLower at hmem
  split at hmem
  · next hupper =>
    have hrange : 65 ≤ c.toNat ∧ c.toNat ≤ 90 := hupper
    refine ⟨?_, ?_, ?_⟩
    · simp only [Text.isBlank]
      grind
    · rintro rfl
      exact absurd hrange.1 (by decide)
    · rintro rfl
      exact absurd hrange.1 (by decide)
  · simpa [and_assoc] using hletters c hmem

/-- The line that announces a length under some spelling of its name. -/
def lengthLine (name : Text) (n : Nat) : Text := name ++ ':' :: ' ' :: Nat.toDigits 10 n

theorem of_mem_toDigits {c : Char} (hc : c ∈ Nat.toDigits 10 n) :
    Text.isBlank c = false ∧ c ≠ '\n' := by
  have hdigit := Nat.isDigit_of_mem_toDigits (by decide) (by decide) hc
  have hrange : 48 ≤ c.toNat ∧ c.toNat ≤ 57 := by
    simpa [Char.isDigit, UInt32.le_iff_toNat_le] using hdigit
  constructor
  · simp only [Text.isBlank]
    grind
  · rintro rfl
    exact absurd hrange.1 (by decide)

variable {name : Text}

theorem isLine_lengthLine (h : Text.lowerAscii name = "content-length".toList) (n : Nat) :
    IsLine (lengthLine name n) := by
  constructor
  · simp only [lengthLine, List.mem_append, List.mem_cons, not_or]
    exact ⟨fun hc => (of_mem_name h hc).2.2 rfl, by decide, by decide,
      fun hc => (of_mem_toDigits hc).2 rfl⟩
  · cases name with
    | nil => exact absurd h (by decide)
    | cons c name => exact ⟨c, rfl, (of_mem_name h List.mem_cons_self).1⟩

theorem headerLength_lengthLine (h : Text.lowerAscii name = "content-length".toList)
    (hn : n < UInt64.size) :
    headerLength (Text.trim (lengthLine name n)) length = .ok (some n) := by
  have hdigits : ∀ c ∈ Nat.toDigits 10 n, Text.isBlank c = false :=
    fun c hc => (of_mem_toDigits hc).1
  have htrim : Text.trim (lengthLine name n) = lengthLine name n := by
    rw [(isLine_lengthLine h n).solid.trim_eq]
    have := Text.trimEnd_append_visible (name ++ [':', ' ']) hdigits Nat.toDigits_ne_nil
    rwa [List.append_assoc] at this
  have hname : Text.trim name = name := Text.trim_of_visible fun c hc => (of_mem_name h hc).1
  have hvalue : Text.trim (' ' :: Nat.toDigits 10 n) = Nat.toDigits 10 n :=
    Text.trim_of_visible hdigits
  rw [htrim, headerLength, lengthLine,
    Text.cut?_append_of_notMem (fun hc => (of_mem_name h hc).2.1 rfl)]
  simp only [hname, h, if_true, hvalue, length?_toDigits hn]

end Frame

end LanguageClient
