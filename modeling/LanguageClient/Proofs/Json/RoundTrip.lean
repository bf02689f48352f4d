import LanguageClient.Json.Printer
import LanguageClient.Json.Reader
import LanguageClient.Proofs.Text.Trim
namespace LanguageClient

/-!
# Reading what was printed

The reader of values takes the printed text of a value off whatever follows it, provided its
numbers are integers of 64 bits and it does not nest too deep.
-/

namespace Json

/-- A value of integers of 64 bits that nests at most so deep, its keys in increasing order. -/
inductive Plain : Nat → Json → Prop where
  | null {depth : Nat} : Plain depth null
  | bool {depth : Nat} (b : Bool) : Plain depth (bool b)
  | int {depth : Nat} {n : Int} (hlow : -9223372036854775808 ≤ n)
      (hhigh : n ≤ 18446744073709551615) : Plain depth (int n)
  | str {depth : Nat} (s : String) : Plain depth (str s)
  | arr {depth : Nat} {items : List Json} (h : ∀ v ∈ items, Plain depth v) :
      Plain (depth + 1) (arr items)
  | obj {depth : Nat} {members : List (String × Json)} (h : ∀ m ∈ members, Plain depth m.2)
      (hsorted : members.Pairwise fun m m' => m.1 < m'.1) : Plain (depth + 1) (obj members)

namespace Reader

open Printer

/-! ## Strings -/

theorem hexDigit?_hexDigit : ∀ n < 16, hexDigit? (hexDigit n) = some n := by decide

theorem escape?_control {c : Char} (h : c.toNat < 0x20) (rest : Text) :
    escape? ('u' :: '0' :: '0' :: hexDigit (c.toNat / 16) :: hexDigit (c.toNat % 16) :: rest) =
      some (c, rest) := by
  have hunit : unit? ('0' :: '0' :: hexDigit (c.toNat / 16) :: hexDigit (c.toNat % 16) :: rest) =
      some (c.toNat, rest) := by
    have hzero : hexDigit? '0' = some 0 := by decide
    have hhigh := hexDigit?_hexDigit (c.toNat / 16) (by omega)
    have hlow := hexDigit?_hexDigit (c.toNat % 16) (by omega)
    have hsum : ((0 * 16 + 0) * 16 + c.toNat / 16) * 16 + c.toNat % 16 = c.toNat := by omega
    simp only [unit?, hzero, hhigh, hlow, Option.bind_eq_bind, Option.bind_some, hsum]
  have hlow : ¬ (0xD800 ≤ c.toNat ∧ c.toNat < 0xDC00) := by omega
  have hhigh : ¬ (0xDC00 ≤ c.toNat ∧ c.toNat < 0xE000) := by omega
  simp only [escape?, escapedUnits?, hunit, Option.bind_eq_bind, Option.bind_some, if_neg hlow,
    if_neg hhigh, Char.ofNat_toNat]

theorem string?_backslash {c : Char} {t rest : Text} (h : escape? t = some (c, rest))
    (fuel : Nat) :
    string? (fuel + 1) ('\\' :: t) = (string? fuel rest).map fun p => (c :: p.1, p.2) := by
  simp only [string?, h, Char.reduceEq, if_true, if_false, Option.bind_eq_bind, Option.bind_some]
  cases string? fuel rest <;> rfl

theorem string?_cons {c : Char} (hquote : c ≠ '"') (hback : c ≠ '\\') (hcontrol : ¬ c.val < 0x20)
    (fuel : Nat) (rest : Text) :
    string? (fuel + 1) (c :: rest) = (string? fuel rest).map fun p => (c :: p.1, p.2) := by
  simp only [string?, if_neg hquote, if_neg hback, if_neg hcontrol, Option.bind_eq_bind]
  cases string? fuel rest <;> rfl

theorem string?_escaped (fuel : Nat) (c : Char) (rest : Text) :
    string? (fuel + 1) (escaped c ++ rest) =
      (string? fuel rest).map fun p => (c :: p.1, p.2) := by
  unfold escaped
  split
  · next h => subst h; exact string?_backslash rfl fuel
  split
  · next h => subst h; exact string?_backslash rfl fuel
  split
  · next h => subst h; exact string?_backslash rfl fuel
  split
  · next h => subst h; exact string?_backslash rfl fuel
  split
  · next h => subst h; exact string?_backslash rfl fuel
  split
  · next h => subst h; exact string?_backslash rfl fuel
  split
  · next h => subst h; exact string?_backslash rfl fuel
  split
  · next h => exact string?_backslash (escape?_control h rest) fuel
  · next hquote hback _ _ _ _ _ hcontrol => exact string?_cons hquote hback hcontrol fuel rest

theorem string?_flatMap {fuel : Nat} {s : Text} (h : s.length < fuel) (rest : Text) :
    string? fuel (s.flatMap escaped ++ '"' :: rest) = some (s, rest) := by
  induction s generalizing fuel with
  | nil =>
    obtain ⟨fuel, rfl⟩ := Nat.exists_eq_succ_of_ne_zero (Nat.ne_of_gt h)
    rfl
  | cons c s ih =>
    obtain ⟨fuel, rfl⟩ := Nat.exists_eq_succ_of_ne_zero (Nat.ne_zero_of_lt h)
    rw [List.flatMap_cons, List.append_assoc, string?_escaped, ih (Nat.lt_of_succ_lt_succ h)]
    rfl

/-! ## Numbers -/

/-- No number goes on here. -/
def Ends (rest : Text) : Prop :=
  ∀ c ∈ rest.head?, isDigit c = false ∧ c ≠ '.' ∧ c ≠ 'e' ∧ c ≠ 'E'

theorem isDigit_of_mem_natural {n : Nat} {c : Char} (h : c ∈ natural n) : isDigit c = true :=
  Nat.isDigit_of_mem_toDigits (by decide) (by decide) h

theorem decimal_natural (n : Nat) : decimal (natural n) = n := Text.foldl_toDigits n

theorem digits?_append {ds rest : Text} (hds : ∀ c ∈ ds, isDigit c = true) (hne : ds ≠ [])
    (h : Ends rest) : digits? (ds ++ rest) = some (ds, rest) := by
  have hrest : rest.takeWhile isDigit = [] ∧ rest.dropWhile isDigit = rest := by
    cases rest with
    | nil => exact ⟨rfl, rfl⟩
    | cons c rest =>
      have hc : ¬ isDigit c = true := by simp [(h c rfl).1]
      exact ⟨List.takeWhile_cons_of_neg hc, List.dropWhile_cons_of_neg hc⟩
  have htake : (ds ++ rest).takeWhile isDigit = ds := by
    rw [List.takeWhile_append_of_pos hds, hrest.1, List.append_nil]
  have hdrop : (ds ++ rest).dropWhile isDigit = rest := by
    rw [List.dropWhile_append_of_pos hds, hrest.2]
  obtain ⟨d, ds, rfl⟩ := List.exists_cons_of_ne_nil hne
  simp only [digits?, htake, hdrop]

theorem whole?_natural (n : Nat) {rest : Text} (h : Ends rest) :
    whole? (natural n ++ rest) = some (natural n, rest) := by
  rw [whole?, digits?_append (fun _ => isDigit_of_mem_natural) Nat.toDigits_ne_nil h,
    Option.bind_eq_bind, Option.bind_some]
  dsimp only
  split
  · next _ d ds heq => exact absurd (Text.toDigits_ne_zero_cons heq) (List.cons_ne_nil d ds)
  · rfl

theorem fraction?_of_ends {rest : Text} (h : Ends rest) : fraction? rest = some ([], rest) := by
  unfold fraction?
  split
  · exact absurd rfl (h '.' rfl).2.1
  · rfl

theorem exponent?_of_ends {rest : Text} (h : Ends rest) : exponent? rest = some (none, rest) := by
  cases rest with
  | nil => rfl
  | cons c rest =>
    obtain ⟨-, -, he, hE⟩ := h c rfl
    unfold exponent?
    exact if_neg (not_or.2 ⟨he, hE⟩)

theorem number?_integer {n : Int} (hlow : -9223372036854775808 ≤ n)
    (hhigh : n ≤ 18446744073709551615) {rest : Text} (h : Ends rest) :
    number? (integer n ++ rest) = some (int n, rest) := by
  cases n with
  | ofNat n =>
    have hsize : n < UInt64.size := by
      have hn : (n : Int) ≤ 18446744073709551615 := hhigh
      have hsize : UInt64.size = 18446744073709551616 := by decide
      omega
    unfold number?
    split
    next heq =>
    split at heq
    · next r hminus =>
      have hdigit : '-' ∈ natural n := by
        obtain ⟨d, ds, hds⟩ := List.exists_cons_of_ne_nil (Nat.toDigits_ne_nil (n := n) (b := 10))
        rw [integer, natural, hds, List.cons_append, List.cons.injEq] at hminus
        rw [natural, hds, hminus.1]
        exact List.mem_cons_self
      exact absurd (isDigit_of_mem_natural hdigit) (by decide)
    · cases heq
      simp only [integer, whole?_natural n h, fraction?_of_ends h, exponent?_of_ends h,
        decimal_natural, Option.bind_eq_bind, Option.bind_some, Bool.false_eq_true, if_false,
        true_and, if_pos hsize]
      rfl
  | negSucc n =>
    have hsize : 0 < n + 1 ∧ n + 1 ≤ UInt64.size / 2 := by
      have : UInt64.size / 2 = 9223372036854775808 := by decide
      omega
    simp only [integer, List.cons_append, number?, whole?_natural (n + 1) h, fraction?_of_ends h,
      exponent?_of_ends h, decimal_natural, Option.bind_eq_bind, Option.bind_some, if_true,
      true_and, hsize, and_self]
    rfl

/-! ## Lists of values -/

theorem ends_cons {c : Char} (h : c = ',' ∨ c = ']' ∨ c = '\x7d') (rest : Text) :
    Ends (c :: rest) := by
  intro d hd
  obtain rfl : c = d := Option.some.inj hd
  rcases h with rfl | rfl | rfl <;> decide

theorem printItems_cons (v w : Json) (items : List Json) :
    printItems (v :: w :: items) = print v ++ ',' :: printItems (w :: items) := rfl

theorem printMembers_cons (m m' : String × Json) (members : List (String × Json)) :
    printMembers (m :: m' :: members) =
      quoted m.1.toList ++ ':' :: print m.2 ++ ',' :: printMembers (m' :: members) := rfl

theorem length_le_printItems (items : List Json) : items.length ≤ (printItems items).length := by
  induction items with
  | nil => exact Nat.zero_le _
  | cons v items ih =>
    cases items with
    | nil => simp [printItems]
    | cons w items =>
      simp only [printItems_cons, List.length_append, List.length_cons] at ih ⊢
      omega

theorem length_le_printMembers (members : List (String × Json)) :
    members.length ≤ (printMembers members).length := by
  induction members with
  | nil => exact Nat.zero_le _
  | cons m members ih =>
    cases members with
    | nil =>
      simp only [printMembers, List.length_append, List.length_cons, List.length_nil]
      omega
    | cons m' members =>
      simp only [printMembers_cons, List.length_append, List.length_cons] at ih ⊢
      omega

theorem items?_printItems {read : Nat → Text → Option (Json × Text)} {items : List Json}
    (hread : ∀ v ∈ items, ∀ place rest, Ends rest → read place (print v ++ rest) = some (v, rest))
    (hne : items ≠ []) {fuel : Nat} (hfuel : items.length ≤ fuel) (place : Nat) (rest : Text) :
    items? read fuel place (printItems items ++ rest) = some (items, rest) := by
  induction items generalizing fuel place with
  | nil => exact absurd rfl hne
  | cons v items ih =>
    obtain ⟨fuel, rfl⟩ := Nat.exists_eq_succ_of_ne_zero (Nat.ne_zero_of_lt hfuel)
    have hv := hread v List.mem_cons_self place
    cases items with
    | nil =>
      rw [printItems, List.append_assoc, List.singleton_append, items?,
        hv _ (ends_cons (.inr (.inl rfl)) rest)]
      rfl
    | cons w items =>
      have hitems := ih (fun u hu => hread u (List.mem_cons_of_mem v hu)) (List.cons_ne_nil w items)
        (Nat.le_of_succ_le_succ hfuel) (place + 1)
      have hcomma (r : Text) : skipSpace (',' :: r) = ',' :: r := rfl
      rw [printItems_cons, List.append_assoc, List.cons_append, items?,
        hv _ (ends_cons (.inl rfl) _)]
      simp only [Option.bind_eq_bind, Option.bind_some, hcomma, hitems]

theorem length_le_flatMap_escaped (s : Text) : s.length ≤ (s.flatMap escaped).length := by
  induction s with
  | nil => exact Nat.zero_le _
  | cons c s ih =>
    have hc : 0 < (escaped c).length := by
      unfold escaped
      grind
    rw [List.flatMap_cons, List.length_append, List.length_cons]
    omega

theorem string?_quoted (s : String) (rest : Text) :
    string? ((s.toList.flatMap escaped ++ '"' :: rest).length + 1)
      (s.toList.flatMap escaped ++ '"' :: rest) = some (s.toList, rest) := by
  have hlen := length_le_flatMap_escaped s.toList
  refine string?_flatMap ?_ rest
  rw [List.length_append]
  omega

/-- A member is read to its end, or skipped. -/
def Passes (read : String → Option (Text → Option (Json × Text))) (m : String × Json) : Prop :=
  ∀ rest, Ends rest →
    match read m.1 with
    | some read => read (print m.2 ++ rest) = some (m.2, rest)
    | none => skip? ((print m.2 ++ rest).length + 1) [] (print m.2 ++ rest) = some rest

variable {read : String → Option (Text → Option (Json × Text))}

theorem member?_print {m : String × Json} (h : Passes read m) {rest : Text} (hrest : Ends rest) :
    member? read (quoted m.1.toList ++ ':' :: print m.2 ++ rest) =
      some (if (read m.1).isSome then some m else none, rest) := by
  have hm := h rest hrest
  have hquote (r : Text) : skipSpace ('"' :: r) = '"' :: r := rfl
  have hcolon (r : Text) : skipSpace (':' :: r) = ':' :: r := rfl
  simp only [quoted, List.append_assoc, List.cons_append, List.nil_append, member?, hquote,
    string?_quoted, Option.bind_eq_bind, Option.bind_some, hcolon, String.ofList_toList]
  cases hread : read m.1 with
  | none =>
    simp only [hread] at hm
    simp only [hm, Option.bind_some]
    rfl
  | some f =>
    simp only [hread] at hm
    simp only [hm, Option.bind_some]
    rfl

theorem members?_printMembers {members : List (String × Json)}
    (hread : ∀ m ∈ members, Passes read m) (hne : members ≠ []) {fuel : Nat}
    (hfuel : members.length ≤ fuel) (rest : Text) :
    members? read fuel (printMembers members ++ rest) =
      some (members.filter fun m => (read m.1).isSome, rest) := by
  induction members generalizing fuel with
  | nil => exact absurd rfl hne
  | cons m members ih =>
    obtain ⟨fuel, rfl⟩ := Nat.exists_eq_succ_of_ne_zero (Nat.ne_zero_of_lt hfuel)
    have hm := hread m List.mem_cons_self
    have hkeep (ms : List (String × Json)) :
        (if (read m.1).isSome then some m else none).toList ++
            ms.filter (fun m => (read m.1).isSome) =
          (m :: ms).filter fun m => (read m.1).isSome := by
      rw [List.filter_cons]
      split <;> rfl
    cases members with
    | nil =>
      have hprint : printMembers [m] ++ rest =
          quoted m.1.toList ++ ':' :: print m.2 ++ '\x7d' :: rest := by
        simp only [printMembers, List.append_assoc, List.cons_append, List.nil_append]
      have hbrace (r : Text) : skipSpace ('\x7d' :: r) = '\x7d' :: r := rfl
      rw [hprint, members?, member?_print hm (ends_cons (.inr (.inr rfl)) rest)]
      simp only [Option.bind_eq_bind, Option.bind_some, hbrace]
      rw [← hkeep [], List.filter_nil, List.append_nil]
    | cons m' members =>
      have hrest := ih (fun m hm => hread m (List.mem_cons_of_mem _ hm)) (List.cons_ne_nil _ _)
        (Nat.le_of_succ_le_succ hfuel)
      have hcomma (r : Text) : skipSpace (',' :: r) = ',' :: r := rfl
      rw [printMembers_cons, List.append_assoc, List.cons_append, members?,
        member?_print hm (ends_cons (.inl rfl) _)]
      simp only [Option.bind_eq_bind, Option.bind_some, hcomma, hrest, hkeep]

/-! ## Values -/

theorem integer_head (n : Int) :
    ∃ c r, integer n = c :: r ∧ (c = '-' ∨ isDigit c = true) := by
  cases n with
  | ofNat n =>
    obtain ⟨d, ds, hds⟩ := List.exists_cons_of_ne_nil (Nat.toDigits_ne_nil (n := n) (b := 10))
    refine ⟨d, ds, hds, .inr (isDigit_of_mem_natural (n := n) ?_)⟩
    rw [natural, hds]
    exact List.mem_cons_self
  | negSucc n => exact ⟨'-', natural (n + 1), rfl, .inl rfl⟩

theorem ne_of_number {c : Char} (h : c = '-' ∨ isDigit c = true) {d : Char}
    (hd : (d == '-' || isDigit d) = false) : c ≠ d := by
  rintro rfl
  rcases h with rfl | h
  · exact absurd hd (by decide)
  · simp [h] at hd

theorem isSpace_of_number {c : Char} (h : c = '-' ∨ isDigit c = true) : isSpace c = false := by
  have hne {d : Char} := ne_of_number (d := d) h
  simp only [isSpace, Bool.or_eq_false_iff, beq_eq_false_iff_ne]
  exact ⟨⟨⟨hne rfl, hne rfl⟩, hne rfl⟩, hne rfl⟩

theorem skipSpace_cons {c : Char} (h : isSpace c = false) (r : Text) :
    skipSpace (c :: r) = c :: r :=
  List.dropWhile_cons_of_neg (by simp [h])

theorem value?_of_number {c : Char} (h : c = '-' ∨ isDigit c = true) (depth : Nat)
    (outline : Outline) (r : Text) : value? depth outline (c :: r) = number? (c :: r) := by
  have hne {d : Char} {t : Text} (hd : (d == '-' || isDigit d) = false) (heq : c :: r = d :: t) :
      False := ne_of_number h hd (List.cons.inj heq).1
  unfold value?
  rw [skipSpace_cons (isSpace_of_number h)]
  split
  · next heq => exact (hne rfl heq).elim
  · next heq => exact (hne rfl heq).elim
  · next heq => exact (hne rfl heq).elim
  · next heq => exact (hne rfl heq).elim
  · next heq => exact (hne rfl heq).elim
  · next heq => exact (hne rfl heq).elim
  · rfl

/-- No value starts with white space or with what closes a list. -/
theorem print_head {depth : Nat} {j : Json} (h : Plain depth j) :
    ∃ c r, print j = c :: r ∧ isSpace c = false ∧ c ≠ ']' := by
  cases h with
  | null => exact ⟨_, _, rfl, by decide, by decide⟩
  | bool b => cases b <;> exact ⟨_, _, rfl, by decide, by decide⟩
  | @int _ n hlow hhigh =>
    obtain ⟨c, r, hprint, hc⟩ := integer_head n
    exact ⟨c, r, hprint, isSpace_of_number hc, ne_of_number hc rfl⟩
  | str s => exact ⟨_, _, rfl, by decide, by decide⟩
  | arr h => exact ⟨_, _, rfl, by decide, by decide⟩
  | obj h hsorted => exact ⟨_, _, rfl, by decide, by decide⟩

theorem value?_str (depth : Nat) (outline : Outline) (s : String) (rest : Text) :
    value? depth outline (print (.str s) ++ rest) = some (.str s, rest) := by
  have hquote (r : Text) : skipSpace ('"' :: r) = '"' :: r := rfl
  unfold value?
  simp only [print, quoted, List.cons_append, List.append_assoc, List.nil_append, hquote,
    string?_quoted, Option.map_some, String.ofList_toList]

theorem value?_arr {depth : Nat} {outline : Outline} {items : List Json}
    (hread : ∀ v ∈ items, ∀ place rest, Ends rest →
      value? depth (outline.item place) (print v ++ rest) = some (v, rest))
    (hhead : ∀ v ∈ items, ∃ c r, print v = c :: r ∧ isSpace c = false ∧ c ≠ ']') (rest : Text) :
    value? (depth + 1) outline (print (.arr items) ++ rest) = some (.arr items, rest) := by
  have hbracket (r : Text) : skipSpace ('[' :: r) = '[' :: r := rfl
  have hlen := length_le_printItems items
  unfold value?
  simp only [print, List.cons_append, hbracket]
  cases items with
  | nil => rfl
  | cons v items =>
    obtain ⟨c, t, ht, hspace, hc⟩ : ∃ c t, printItems (v :: items) ++ rest = c :: t ∧
        isSpace c = false ∧ c ≠ ']' := by
      obtain ⟨c, r, hprint, hspec⟩ := hhead v List.mem_cons_self
      cases items with
      | nil => exact ⟨c, _, by rw [printItems, hprint]; rfl, hspec⟩
      | cons w items => exact ⟨c, _, by rw [printItems_cons, hprint]; rfl, hspec⟩
    have hfuel : (v :: items).length ≤ (printItems (v :: items) ++ rest).length + 1 := by
      rw [List.length_append]
      omega
    have hitems := items?_printItems hread (List.cons_ne_nil v items) hfuel 0 rest
    rw [ht] at hitems ⊢
    simp only [skipSpace_cons hspace]
    split
    · next heq => exact absurd (List.cons.inj heq).1 hc
    · rw [hitems]
      rfl

theorem value?_obj {depth : Nat} {outline : Outline} {members : List (String × Json)}
    (hread : ∀ m ∈ members, Passes (fun name => (outline.member? name).map (value? depth)) m)
    (rest : Text) :
    value? (depth + 1) outline (print (.obj members) ++ rest) =
      some (.obj (members.filter fun m => (outline.member? m.1).isSome), rest) := by
  have hbrace (r : Text) : skipSpace ('\x7b' :: r) = '\x7b' :: r := rfl
  have hlen := length_le_printMembers members
  unfold value?
  simp only [print, List.cons_append, hbrace]
  cases members with
  | nil => rfl
  | cons m members =>
    obtain ⟨t, ht⟩ : ∃ t, printMembers (m :: members) ++ rest = '"' :: t := by
      cases members with
      | nil => exact ⟨_, rfl⟩
      | cons m' members => exact ⟨_, rfl⟩
    have hfuel : (m :: members).length ≤ (printMembers (m :: members) ++ rest).length + 1 := by
      rw [List.length_append]
      omega
    have hmembers := members?_printMembers hread (List.cons_ne_nil m members) hfuel rest
    rw [ht] at hmembers ⊢
    have hquote : skipSpace ('"' :: t) = '"' :: t := rfl
    rw [hquote]
    split
    · next heq => exact absurd (List.cons.inj heq).1 (by decide)
    · rw [hmembers]
      simp only [Option.map_some, Option.isSome_map]

theorem value?_print {depth : Nat} {j : Json} (h : Plain depth j) {rest : Text}
    (hrest : Ends rest) : value? depth .whole (print j ++ rest) = some (j, rest) := by
  induction h generalizing rest with
  | null =>
    unfold value?
    rfl
  | bool b =>
    unfold value?
    cases b <;> rfl
  | @int depth n hlow hhigh =>
    obtain ⟨c, r, hprint, hc⟩ := integer_head n
    have hnumber := number?_integer hlow hhigh hrest
    rw [hprint, List.cons_append] at hnumber
    rw [print, hprint, List.cons_append, value?_of_number hc, hnumber]
  | str s => exact value?_str _ _ s rest
  | arr h ih =>
    exact value?_arr (fun v hv _ _ hrest => ih v hv hrest) (fun v hv => print_head (h v hv)) rest
  | obj h hsorted ih =>
    rw [value?_obj (fun m hm rest hrest => ih m hm hrest)]
    simp [Outline.member?]

end Reader

/-! ## Whole texts -/

theorem putMember_of_lt {key : String} {members : List (String × Json)}
    (h : ∀ m ∈ members, m.1 < key) (value : Json) :
    putMember key value members = members ++ [(key, value)] := by
  induction members with
  | nil => rfl
  | cons m members ih =>
    have hlt := h m List.mem_cons_self
    rw [putMember, if_neg (String.ne_of_lt hlt).symm, if_neg (String.lt_asymm hlt),
      ih fun m hm => h m (List.mem_cons_of_mem _ hm)]
    rfl

theorem foldl_putMember (before : List (String × Json)) {members : List (String × Json)}
    (h : (before ++ members).Pairwise fun m m' => m.1 < m'.1) :
    members.foldl (fun acc m => putMember m.1 m.2 acc) before = before ++ members := by
  induction members generalizing before with
  | nil => exact (List.append_nil before).symm
  | cons m members ih =>
    have hlast : ∀ b ∈ before, b.1 < m.1 :=
      fun b hb => (List.pairwise_append.1 h).2.2 b hb m List.mem_cons_self
    rw [List.append_cons] at h ⊢
    rw [List.foldl_cons, putMember_of_lt hlast]
    exact ih _ h

theorem canonicalItems_eq_map (items : List Json) : canonicalItems items = items.map canonical := by
  induction items with
  | nil => rfl
  | cons v items ih => rw [canonicalItems, ih, List.map_cons]

theorem canonicalMembers_eq_map (members : List (String × Json)) :
    canonicalMembers members = members.map fun m => (m.1, canonical m.2) := by
  induction members with
  | nil => rfl
  | cons m members ih => rw [canonicalMembers, ih, List.map_cons]

theorem Plain.canonical_eq {depth : Nat} {j : Json} (h : Plain depth j) : canonical j = j := by
  induction h with
  | null => rfl
  | bool b => rfl
  | int hlow hhigh => rfl
  | str s => rfl
  | arr h ih =>
    rw [canonical, canonicalItems_eq_map, List.map_congr_left ih, List.map_id']
  | @obj depth members h hsorted ih =>
    have hmembers : members.map (fun m => (m.1, canonical m.2)) = members :=
      (List.map_congr_left fun m hm => by rw [ih m hm]).trans (List.map_id' members)
    rw [canonical, canonicalMembers_eq_map, hmembers, object,
      foldl_putMember [] hsorted, List.nil_append]

theorem ends_nil : Reader.Ends [] := fun _ h => nomatch h

/-- The text of a value that is not nested too deep is read as this value. -/
theorem read?_print {j : Json} (h : Plain maxDepth j) : read? (print j) = some j := by
  have hvalue := Reader.value?_print h ends_nil
  rw [List.append_nil] at hvalue
  rw [read?, readOutline?, hvalue]
  exact congrArg some h.canonical_eq

end Json

end LanguageClient
