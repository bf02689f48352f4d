import LanguageClient.Proofs.Path.Lexical
import LanguageClient.Proofs.Uri.Encoding
namespace LanguageClient

/-!
# URIs of files

The URI of a file leads back to the path it was made of, spelled without what counts for nothing in
a path, so two files do not share one. A path has no URI when a name in it shows a character that
the grammar refuses: brackets, the caret and the bar are not percent-encoded.
-/

namespace Uri

open Path.Component (name up root)

/-! ## The path of a URI -/

/-- What a path shows. -/
theorem ofAbsolutePath_eq {p : Path} (hp : Path.isAbsolute p = true) {ts : List Text}
    (hsteps : Path.steps p = ts.map name) (hts : ∀ t ∈ ts, Path.IsName t) :
    ofAbsolutePath p = "file://".toList ++ spell ('/' :: Text.joinWith ['/'] ts) := by
  have hdrop : (Path.components p).drop 1 = ts.map name := by
    rw [Path.components_of_isAbsolute hp, hsteps]
    rfl
  have hnames : (ts.map name).flatMap (fun c => '/' :: encodeComponent c.text) =
      (ts.map spell).flatMap ('/' :: ·) := by
    rw [List.flatMap_map, List.flatMap_map]
    exact List.flatMap_congr fun t ht => congrArg _ (encodeComponent_eq (hts t ht).notMem)
  rw [ofAbsolutePath, hdrop, spell_slash_cons, spell_joinWith]
  cases ts with
  | nil => rfl
  | cons t ts =>
    rw [Text.cons_joinWith '/' (by simp), ← hnames]
    rfl

/-! ## Reading it -/

/-- Characters that a URI is made of; none of them ends its path or goes unread. -/
def Shown (t : Text) : Prop := ∀ c ∈ t, 0x20 < c.toNat ∧ c ≠ '\\' ∧ c ≠ '?' ∧ c ≠ '#'

instance (t : Text) : Decidable (Shown t) := List.decidableBAll _ t

theorem shown_spell (t : Text) : Shown (spell t) :=
  fun _ hc => shown_facts ((spells_spell t).shown hc)

theorem Shown.withoutBreaks_eq {t : Text} (h : Shown t) : withoutBreaks t = t := by
  refine List.filter_eq_self.2 fun c hc => ?_
  have hlt := (h c hc).1
  have hne {d : Char} (hd : d.toNat ≤ 0x20) : c ≠ d := by
    rintro rfl
    omega
  simp [isBreak, hne (d := '\t') (by decide), hne (d := '\n') (by decide),
    hne (d := '\r') (by decide)]

/-- A segment that stays as it is when dots are resolved. -/
structure Stays (segment : Text) : Prop where
  unbroken : withoutBreaks segment = segment
  ne_one : dots segment ≠ some 1
  ne_two : dots segment ≠ some 2

theorem stays_spell {t : Text} (hone : t ≠ ['.']) (htwo : t ≠ ['.', '.']) : Stays (spell t) where
  unbroken := (shown_spell t).withoutBreaks_eq
  ne_one h := hone (eq_replicate_of_dots h)
  ne_two h := htwo (eq_replicate_of_dots h)

namespace Trail

variable {trail : Trail}

/-- Only the first segment of a path can be a drive. -/
theorem follow_eq (hpath : 1 < trail.path.length) {segment : Text} (h : Stays segment)
    (slash : Bool) :
    trail.follow .file segment slash =
      { trail with
        path := if slash then '/' :: (segment.reverse ++ trail.path)
          else segment.reverse ++ trail.path } := by
  have hfirst : (trail.path.length == 1) = false := by simpa using Nat.ne_of_gt hpath
  unfold follow
  simp only [hfirst, Bool.and_false, Bool.false_eq_true, if_false, h.unbroken, Bool.false_and,
    Bool.or_false]
  split
  · exact absurd ‹_› h.ne_one
  · exact absurd ‹_› h.ne_two
  · rfl

theorem path_followAll {segments : List Text} (hne : segments ≠ [])
    (hpath : 1 < trail.path.length) (h : ∀ s ∈ segments, Stays s) :
    (followAll .file trail segments).path =
      (Text.joinWith ['/'] segments).reverse ++ trail.path := by
  induction segments generalizing trail with
  | nil => exact absurd rfl hne
  | cons s segments ih =>
    rw [List.forall_mem_cons] at h
    have hfollow := follow_eq hpath h.1
    cases segments with
    | nil =>
      rw [followAll, hfollow]
      simp [Text.joinWith]
    | cons r segments =>
      have hrest : r :: segments ≠ [] := List.cons_ne_nil r segments
      rw [followAll, hfollow, ih hrest (by simp; omega) h.2, Text.joinWith_cons ['/'] s hrest]
      · simp
      · simp

end Trail

/-- A path whose segments stay keeps them; slashes after the one it starts with go. -/
theorem path_resolve {t : Text} (ht : Shown t) (hsegments : ∀ s ∈ Text.splitOnChar '/' t, Stays s) :
    (resolve .file ['/'] ('/' :: t)).path = '/' :: t.dropWhile (· == '/') := by
  have hshown : Shown ('/' :: t) := List.forall_mem_cons.2 ⟨by decide, ht⟩
  have hwhole : ('/' :: t).takeWhile (fun c => c != '?' && c != '#') = '/' :: t := by
    refine List.takeWhile_eq_self_iff.2 fun c hc => ?_
    obtain ⟨-, -, hquery, hfragment⟩ := hshown c hc
    simp [hquery, hfragment]
  have hslashes : ('/' :: t).map (fun c => if isSlash .file c then '/' else c) = '/' :: t := by
    rw [List.map_congr_left (g := id), List.map_id]
    intro c hc
    obtain ⟨-, hbackslash, -⟩ := hshown c hc
    by_cases hslash : c = '/' <;> simp [isSlash, hbackslash, hslash]
  have hsplit : Text.splitOnChar '/' ('/' :: t) = [] :: Text.splitOnChar '/' t := if_pos rfl
  have hfirst : Trail.follow .file ⟨['/'], false⟩ [] true = ⟨['/', '/'], false⟩ := rfl
  have hfollow : (Trail.followAll .file ⟨['/'], false⟩ ([] :: Text.splitOnChar '/' t)).path =
      t.reverse ++ ['/', '/'] := by
    obtain ⟨s, rest, hrest⟩ := List.exists_cons_of_ne_nil (Text.splitOnChar_ne_nil '/' t)
    have hpath : (Trail.followAll .file ⟨['/', '/'], false⟩ (Text.splitOnChar '/' t)).path = _ :=
      Trail.path_followAll (Text.splitOnChar_ne_nil '/' t) (by decide) hsegments
    rw [Text.joinWith_splitOnChar, hrest] at hpath
    rw [hrest, Trail.followAll, hfirst, hpath]
    simp
  simp only [resolve, hwhole, hslashes, hsplit, beq_self_eq_true, if_true, hfollow]
  simp

theorem dropWhile_of_forall {p : Char → Bool} {t : Text} (h : ∀ c ∈ t, p c = false) :
    t.dropWhile p = t := by
  cases t with
  | nil => rfl
  | cons c t => rw [List.dropWhile_cons_of_neg (by simp [h c List.mem_cons_self])]

/-- No blanks stand around a URI. -/
theorem Shown.trimmed_eq {t : Text} (h : Shown t) :
    ((t.dropWhile fun c => decide (c.toNat ≤ 0x20)).reverse.dropWhile
      fun c => decide (c.toNat ≤ 0x20)).reverse = t := by
  have houter : ∀ c ∈ t, decide (c.toNat ≤ 0x20) = false := fun c hc =>
    decide_eq_false (Nat.not_le.2 (h c hc).1)
  rw [dropWhile_of_forall houter,
    dropWhile_of_forall fun c hc => houter c (List.mem_reverse.1 hc), List.reverse_reverse]

/-- Nothing stands where a host would, so the file is on this machine. -/
theorem parse?_file {t : Text} (ht : Shown t) :
    Location.parse? ("file://".toList ++ '/' :: t) =
      some ⟨.absent, (resolve .file ['/'] ('/' :: t)).path⟩ := by
  have hframe : Shown "file:///".toList := by decide
  have hshown : Shown ("file:///".toList ++ t) := List.forall_mem_append.2 ⟨hframe, ht⟩
  have hscheme : scheme? ("file:///".toList ++ t) = some ("file".toList, "///".toList ++ t) := rfl
  have hkind : SchemeKind.ofName "file".toList = .file := by decide
  have hrest : (("file:///".toList ++ t).dropWhile (· ≠ ':')).drop 1 = "///".toList ++ t := rfl
  have hslashes : 2 ≤ (("///".toList ++ t).takeWhile (isSlash .file)).length := Nat.le_add_left 2 _
  have hhost : fileLocation? (afterSlash (afterSlash ("///".toList ++ t))) =
      some ⟨.absent, (resolve .file ['/'] ('/' :: t)).path⟩ := rfl
  change Location.parse? ("file:///".toList ++ t) = _
  unfold Location.parse?
  simp only [hshown.trimmed_eq, hshown.withoutBreaks_eq, hscheme, hkind, hrest, hhost,
    Option.bind_eq_bind, Option.bind_some]
  exact if_pos hslashes

/-- What is shown for a path starts with a slash only if the path does. -/
theorem dropWhile_spell {t : Text} (h : t.head? ≠ some '/') :
    (spell t).dropWhile (· == '/') = spell t := by
  cases t with
  | nil => rfl
  | cons c t =>
    have hslash : '/' ∉ spell [c] := by
      rw [mem_spell_iff rfl rfl]
      simpa [eq_comm] using h
    have hne : spell [c] ≠ [] := fun heq => List.cons_ne_nil c [] (spell_injective heq)
    obtain ⟨d, r, hspell⟩ := List.exists_cons_of_ne_nil hne
    rw [hspell, List.mem_cons, not_or] at hslash
    rw [← List.singleton_append, spell_append, hspell, List.cons_append]
    exact List.dropWhile_cons_of_neg (by simpa using Ne.symm hslash.1)

/-- The bytes of a path decode to it, with a slash after what looks like a drive. -/
theorem decodePath_spell (t : Text) :
    decodePath (spell t) = t ∨ decodePath (spell t) = t ++ ['/'] := by
  have hslash : Utf8.encode t ++ [0x2F] = Utf8.encode (t ++ ['/']) := by
    rw [Utf8.encode_append]
    rfl
  unfold decodePath
  rw [decodeBytes_spell]
  dsimp only
  rw [hslash]
  split
  · split
    · exact .inr (Utf8.decodeLossy_encode _)
    · exact .inl (Utf8.decodeLossy_encode t)
  · exact .inl (Utf8.decodeLossy_encode t)

/-! ## There and back -/

section Names

variable {p : Path} {ts : List Text}

theorem head?_joinWith (hts : ∀ t ∈ ts, Path.IsName t) :
    (Text.joinWith ['/'] ts).head? ≠ some '/' := by
  intro h
  have habsolute : Path.isAbsolute (Text.joinWith ['/'] ts) = true := by
    rw [Path.isAbsolute, h, beq_self_eq_true]
  have hroot := Path.root_mem_components_iff.2 habsolute
  rw [Path.components_joinWith hts] at hroot
  simp at hroot

theorem splitOnChar_joinWith_stays (hts : ∀ t ∈ ts, Path.IsName t) :
    ∀ s ∈ Text.splitOnChar '/' (spell (Text.joinWith ['/'] ts)), Stays s := by
  intro s hs
  rw [splitOnChar_spell] at hs
  obtain ⟨t, ht, rfl⟩ := List.mem_map.1 hs
  by_cases hnil : ts = []
  · subst hnil
    obtain rfl : t = [] := by simpa [Text.joinWith, Text.splitOnChar] using ht
    exact stays_spell (by simp) (by simp)
  · rw [Text.splitOnChar_joinWith hnil fun u hu => (hts u hu).notMem] at ht
    exact stays_spell (hts t ht).ne_here (hts t ht).ne_up

/-- Reading what is shown for names leads down them. -/
theorem toPath?_spell (hts : ∀ t ∈ ts, Path.IsName t) : ∃ q,
    toPath? ("file://".toList ++ spell ('/' :: Text.joinWith ['/'] ts)) = some q ∧
      Path.components q = root :: ts.map name := by
  have hparse := parse?_file (shown_spell (Text.joinWith ['/'] ts))
  rw [path_resolve (shown_spell _) (splitOnChar_joinWith_stays hts),
    dropWhile_spell (head?_joinWith hts), ← spell_slash_cons] at hparse
  have hcomponents : Path.components ('/' :: Text.joinWith ['/'] ts) = root :: ts.map name := by
    have h := Path.components_ofComponents (.inr rfl) hts
    rwa [List.singleton_append, Path.ofComponents_root] at h
  refine ⟨decodePath (spell ('/' :: Text.joinWith ['/'] ts)), ?_, ?_⟩
  · rw [toPath?, hparse]
    rfl
  · rcases decodePath_spell ('/' :: Text.joinWith ['/'] ts) with h | h
    · rw [h, hcomponents]
    · rw [h, Path.components_append_slash rfl, hcomponents]

/-- A path has its URI, or a name in it has a character that the grammar refuses. -/
theorem ofPath_cases (hp : Path.isAbsolute p = true) (hsteps : Path.steps p = ts.map name)
    (hts : ∀ t ∈ ts, Path.IsName t) (directory : Path) :
    (ofPath directory p = .ok ("file://".toList ++ spell ('/' :: Text.joinWith ['/'] ts)) ∧
      ∀ c ∈ refused, c ∉ p) ∨
    ((∃ reason, ofPath directory p = .error (.invalidUri (String.ofList p ++ reason))) ∧
      ∃ c ∈ refused, c ∈ p) := by
  have hjoin : Path.join directory p = p := if_pos hp
  have hfault : firstFault? (ofAbsolutePath p) = none ↔ ∀ c ∈ refused, c ∉ p := by
    rw [ofAbsolutePath_eq hp hsteps hts, firstFault?_spell_eq_none_iff]
    refine forall₂_congr fun c hc => not_congr ?_
    obtain ⟨-, -, hpath, -⟩ := refused_facts hc
    have hslash : c ≠ '/' := by
      rintro rfl
      exact absurd hpath (by decide)
    have hdot : c ≠ '.' := by
      rintro rfl
      exact absurd hpath (by decide)
    rw [List.mem_cons, or_iff_right hslash, Text.mem_joinWith_iff hslash,
      Path.mem_iff_of_steps hsteps hslash hdot]
  rw [← ofAbsolutePath_eq hp hsteps hts]
  unfold ofPath
  simp only [hjoin]
  cases h : firstFault? (ofAbsolutePath p) with
  | none => exact .inl ⟨rfl, hfault.1 h⟩
  | some n =>
    have hmem : ∃ c ∈ refused, c ∈ p := by
      by_contra hnone
      push Not at hnone
      rw [hfault.2 hnone] at h
      cases h
    exact .inr ⟨⟨": ParseError \x7b index: " ++ (toString n ++ ", kind: UnexpectedChar \x7d"),
      by simp only [String.append_assoc]⟩, hmem⟩

end Names

/-- A URI leads back to the path it was made of. -/
theorem components_toPath? {directory p : Path} {uri : Text} (hp : Path.isAbsolute p = true)
    (hup : up ∉ Path.components p) (h : ofPath directory p = .ok uri) :
    ∃ q, toPath? uri = some q ∧ Path.components q = Path.components p := by
  obtain ⟨ts, hsteps, hts⟩ := Path.exists_names hup
  rcases ofPath_cases hp hsteps hts directory with ⟨hok, -⟩ | ⟨⟨reason, herror⟩, -⟩
  · obtain rfl := Except.ok.inj (hok.symm.trans h)
    rw [Path.components_of_isAbsolute hp, hsteps]
    exact toPath?_spell hts
  · rw [herror] at h
    cases h

/-- An absolute path without double dots has a URI unless it has a character that is neither
percent-encoded nor allowed; its URI leads back to it and is that of no other path. -/
theorem ofPath_roundtrip {directory p : Path} (hp : Path.isAbsolute p = true)
    (hup : up ∉ Path.components p) :
    ((∃ uri, ofPath directory p = .ok uri) ↔ ∀ c ∈ refused, c ∉ p) ∧
    ((∃ c ∈ refused, c ∈ p) →
      ∃ reason, ofPath directory p = .error (.invalidUri (String.ofList p ++ reason))) ∧
    ∀ uri, ofPath directory p = .ok uri →
      (∃ q, toPath? uri = some q ∧ Path.same q p = true) ∧
      ∀ directory' p', Path.isAbsolute p' = true → up ∉ Path.components p' →
        ofPath directory' p' = .ok uri → Path.same p' p = true := by
  obtain ⟨ts, hsteps, hts⟩ := Path.exists_names hup
  refine ⟨⟨?_, ?_⟩, ?_, fun uri h => ⟨?_, fun directory' p' hp' hup' h' => ?_⟩⟩
  · rintro ⟨uri, h⟩
    rcases ofPath_cases hp hsteps hts directory with ⟨-, hnone⟩ | ⟨⟨reason, herror⟩, -⟩
    · exact hnone
    · rw [herror] at h
      cases h
  · intro hnone
    rcases ofPath_cases hp hsteps hts directory with ⟨hok, -⟩ | ⟨-, c, hc, hmem⟩
    · exact ⟨_, hok⟩
    · exact absurd hmem (hnone c hc)
  · rintro ⟨c, hc, hmem⟩
    rcases ofPath_cases hp hsteps hts directory with ⟨-, hnone⟩ | ⟨herror, -⟩
    · exact absurd hmem (hnone c hc)
    · exact herror
  · obtain ⟨q, hq, hcomponents⟩ := components_toPath? hp hup h
    exact ⟨q, hq, beq_iff_eq.2 hcomponents⟩
  · obtain ⟨q, hq, hcomponents⟩ := components_toPath? hp hup h
    obtain ⟨q', hq', hcomponents'⟩ := components_toPath? hp' hup' h'
    obtain rfl := Option.some.inj (hq'.symm.trans hq)
    exact beq_iff_eq.2 (hcomponents'.symm.trans hcomponents)

theorem ofPath_roundtrip_blank :
    let p : Path := "/tmp/my project/a.rs".toList
    let uri : Text := "file:///tmp/my%20project/a.rs".toList
    (Path.isAbsolute p = true ∧ up ∉ Path.components p ∧ ofPath [] p = .ok uri) ∧
      toPath? uri = some p ∧
      ∀ directory' p', Path.isAbsolute p' = true → up ∉ Path.components p' →
        ofPath directory' p' = .ok uri → Path.same p' p = true := by
  intro p uri
  have hp : Path.isAbsolute p = true := by decide
  have hup : up ∉ Path.components p := by decide
  have h : ofPath [] p = .ok uri := by rfl
  exact ⟨⟨hp, hup, h⟩, by decide, ((ofPath_roundtrip hp hup).2.2 uri h).2⟩

example : ofPath [] "/proj/[id].tsx".toList = .error (.invalidUri
    "/proj/[id].tsx: ParseError \x7b index: 13, kind: UnexpectedChar \x7d") := by
  rfl

end Uri

end LanguageClient
