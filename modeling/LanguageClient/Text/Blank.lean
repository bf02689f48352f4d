import LanguageClient.Text.Basic
namespace LanguageClient

/-!
# White space

The characters with the Unicode property White_Space, and the text between its leading and
trailing ones.
-/

namespace Text

def isBlank (c : Char) : Bool :=
  let n := c.toNat
  (9 ≤ n && n ≤ 13) || n == 0x20 || n == 0x85 || n == 0xA0 || n == 0x1680 ||
    (0x2000 ≤ n && n ≤ 0x200A) || n == 0x2028 || n == 0x2029 || n == 0x202F || n == 0x205F ||
    n == 0x3000

def trimStart (t : Text) : Text := t.dropWhile isBlank

def trimEnd (t : Text) : Text := (t.reverse.dropWhile isBlank).reverse

def trim (t : Text) : Text := trimEnd (trimStart t)

/-- Cuts at every occurrence of a character: `n` occurrences give `n + 1` pieces. -/
def splitOnChar (sep : Char) : Text → List Text
  | [] => [[]]
  | c :: r =>
    if c = sep then [] :: splitOnChar sep r
    else
      match splitOnChar sep r with
      | [] => [[c]]
      | piece :: pieces => (c :: piece) :: pieces

/-- Puts a separator between consecutive pieces. -/
def joinWith (sep : Text) (pieces : List Text) : Text := (pieces.intersperse sep).flatten

/-- The pieces of text between runs of white space, none of them empty. -/
def words (t : Text) : List Text :=
  let step (c : Char) (acc : List Text × Bool) : List Text × Bool :=
    if isBlank c then (acc.1, false)
    else
      match acc with
      | (w :: ws, true) => ((c :: w) :: ws, true)
      | (ws, _) => ([c] :: ws, true)
  (t.foldr step ([], false)).1

/-- The text before and after the first occurrence of a character. -/
def cut? (sep : Char) : Text → Option (Text × Text)
  | [] => none
  | c :: r => if c = sep then some ([], r) else (cut? sep r).map fun p => (c :: p.1, p.2)

def lowerAscii (t : Text) : Text := t.map Char.toLower

theorem splitOnChar_ne_nil (sep : Char) (t : Text) : splitOnChar sep t ≠ [] := by
  induction t with
  | nil => simp [splitOnChar]
  | cons c t ih =>
    unfold splitOnChar
    split
    · simp
    · split <;> simp

theorem sublist_of_mem_splitOnChar {sep : Char} {t piece : Text} (h : piece ∈ splitOnChar sep t) :
    piece.Sublist t := by
  induction t generalizing piece with
  | nil => simp_all [splitOnChar]
  | cons c r ih =>
    unfold splitOnChar at h
    split at h
    · rcases List.mem_cons.1 h with rfl | h
      · exact List.nil_sublist _
      · exact (ih h).cons c
    · split at h
      · next hnil => exact absurd hnil (splitOnChar_ne_nil sep r)
      · next first rest hpieces =>
        rw [hpieces] at ih
        rcases List.mem_cons.1 h with rfl | h
        · exact (ih List.mem_cons_self).cons_cons c
        · exact (ih (List.mem_cons_of_mem first h)).cons c

theorem joinWith_cons (sep piece : Text) {pieces : List Text} (h : pieces ≠ []) :
    joinWith sep (piece :: pieces) = piece ++ (sep ++ joinWith sep pieces) := by
  cases pieces with
  | nil => exact absurd rfl h
  | cons p ps => simp [joinWith]

theorem joinWith_splitOnChar (sep : Char) (t : Text) : joinWith [sep] (splitOnChar sep t) = t := by
  induction t with
  | nil => rfl
  | cons c r ih =>
    by_cases h : c = sep
    · rw [splitOnChar, if_pos h, joinWith_cons _ _ (splitOnChar_ne_nil sep r), ih, h]
      rfl
    · rw [splitOnChar, if_neg h]
      revert ih
      cases splitOnChar sep r with
      | nil => intro ih; rw [← ih]; simp [joinWith]
      | cons piece pieces =>
        intro ih
        cases pieces with
        | nil => simpa [joinWith] using ih
        | cons p ps =>
          rw [joinWith_cons _ _ (by simp)] at ih ⊢
          rw [List.cons_append, ih]

theorem cut?_eq_some {sep : Char} {t before after : Text} (h : cut? sep t = some (before, after)) :
    t = before ++ sep :: after ∧ sep ∉ before := by
  induction t generalizing before with
  | nil => simp [cut?] at h
  | cons c r ih =>
    by_cases hc : c = sep
    · simp only [cut?, hc, if_true, Option.some.injEq, Prod.mk.injEq] at h
      obtain ⟨rfl, rfl⟩ := h
      simp [hc]
    · simp only [cut?, hc, if_false, Option.map_eq_some_iff] at h
      obtain ⟨p, hp, hq⟩ := h
      cases hq
      obtain ⟨h1, h2⟩ := ih hp
      exact ⟨by rw [List.cons_append, ← h1], by simp [h2, Ne.symm hc]⟩

end Text

end LanguageClient
