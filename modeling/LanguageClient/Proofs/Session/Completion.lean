import LanguageClient.Proofs.Session.Edits
import LanguageClient.Proofs.Snippet.RoundTrip
import LanguageClient.Session.Language
namespace LanguageClient

/-!
# Where snippets are handed over

A completion is applied as one batch of edits. The offset that its snippet is handed over with is
computed from the text before, and it is the one where the batch puts the text of the snippet.
-/

variable {E K : Type}

namespace TabStop

/-- The tab stop once the text of its snippet stands at an offset. -/
def moved (o : Nat) (stop : TabStop) : TabStop :=
  { stop with
    start := o + stop.start
    stop := o + stop.stop }

theorem StandsIn.moved {stop : TabStop} {x : Text} (h : stop.StandsIn x) (a b : Text) :
    (stop.moved a.byteLength).StandsIn (a ++ x ++ b) := by
  obtain ⟨u, v, rfl, hstart, hstop⟩ := h
  refine ⟨a ++ u, v ++ b, by simp [TabStop.moved], ?_, ?_⟩
  · rw [Text.byteLength_append, hstart]
    rfl
  · rw [Text.byteLength_append, Nat.add_assoc]
    exact congrArg (a.byteLength + ·) hstop

end TabStop

namespace Session

section Offsets

variable {t : Text} {entry : CompletionEntry} {caret start stop : Nat} {r : Replacement}
  {rs : List Replacement}

/-- The bytes that the main text of an entry replaces: the range of the main edit or, without one,
the token characters that end at the caret. -/
def Replaces (entry : CompletionEntry) (t : Text) (caret start stop : Nat) : Prop :=
  match entry.edit with
  | some e => e.range = t.range start stop
  | none => stop = t.clampOffset caret ∧
      start + (t.takeBytes caret).tokenSuffix.byteLength = stop

theorem replacedBy_eq (h : Replaces entry t caret start stop) :
    replacedBy entry t caret = t.range start stop := by
  unfold Replaces at h
  unfold replacedBy
  cases hedit : entry.edit with
  | some e =>
    rw [hedit] at h
    exact h
  | none =>
    rw [hedit] at h
    obtain ⟨rfl, hstart⟩ := h
    have hwhole : (t.takeBytes caret).takeBytes (t.takeBytes caret).byteLength =
        t.takeBytes caret := by
      have htake := Text.takeBytes_byteLength (t.takeBytes caret) []
      rwa [List.append_nil] at htake
    simp only [Text.tokenAround, Text.clampOffset, hwhole]
    unfold Text.clampOffset at hstart
    rw [← hstart, Nat.add_sub_cancel]

theorem foldl_growth (h : ∀ q ∈ rs, q.Fits t) (moved : Int) :
    (rs.map (Replacement.edit t)).foldl (fun moved e =>
      let span := t.offsets e.range
      moved + ((e.newText.byteLength : Int) - ((span.2 : Int) - span.1))) moved =
        moved + Replacement.growthAll rs := by
  induction rs generalizing moved with
  | nil => exact (Int.add_zero moved).symm
  | cons q rs ih =>
    obtain ⟨hq, hrs⟩ := List.forall_mem_cons.1 h
    rw [List.map_cons, List.foldl_cons, ih hrs, Text.offsets_edit hq, Replacement.growthAll_cons,
      ← Int.add_assoc]
    rfl

/-- Of edits with exact ranges those count that start before the offset, each by its growth. -/
theorem shift_map_edit (h : ∀ q ∈ rs, q.Fits t) (start : Nat) :
    shift t (rs.map (Replacement.edit t)) start =
      Replacement.growthAll (rs.filter fun q => q.start < start) := by
  have hfilter : (rs.map (Replacement.edit t)).filter (fun e => t.offset e.range.start < start) =
      (rs.filter fun q => q.start < start).map (Replacement.edit t) := by
    rw [List.filter_map]
    refine congrArg _ (List.filter_congr fun q hq => ?_)
    exact congrArg (fun n => decide (n < start)) (Text.offset_position_of_isBoundary (h q hq).start)
  unfold shift
  rw [hfilter, foldl_growth fun q hq => h q (List.mem_filter.1 hq).1, Int.zero_add]

/-- The offset computed in advance is where what becomes of the text before ends. -/
theorem add_shift_toNat (h : Batch t (r :: rs)) :
    ((r.start : Int) + shift t (rs.map (Replacement.edit t)) r.start).toNat =
      (t.replacedBefore r rs).byteLength := by
  rw [shift_map_edit (fun q hq => h.fits q (List.mem_cons_of_mem r hq)),
    ← Text.byteLength_replacedBefore h]
  exact Int.toNat_natCast _

end Offsets

/-! ## Handing over -/

section Handing

variable {s : SessionId} {id : TaskId} {t : Text} {entry : CompletionEntry} {caret start stop : Nat}
  {snippet : Snippet} {rs : List Replacement} {g : Page}

/-- Applies an entry up to the moment when its snippet has been handed over. -/
def insertSnippet (s : SessionId) (entry : CompletionEntry) (snippet : Snippet) (caret : Nat) :
    Prog E K Bool := do
  let text ← Program.read (·.text s)
  let range := replacedBy entry text caret
  let start := text.offset range.start
  let applied ← applyEdits s (entry.additionalEdits ++ [⟨range, mainText entry⟩]) none
  let at_ := ((start : Int) + shift text entry.additionalEdits start).toNat
  Program.modify fun c => c.show_ (.snippet (c.session s).uri at_ snippet)
  return applied

/-- What is left of applying an entry then. -/
def followUp (s : SessionId) (entry : CompletionEntry) (applied : Bool) : Prog E K Bool := do
  match entry.command with
  | none => pure ()
  | some command => execute s [command]
  return applied

theorem applyCompletion_eq (h : entry.snippet = some snippet) :
    (applyCompletion s entry caret : Prog E K Bool) =
      insertSnippet s entry snippet caret >>= followUp s entry := by
  unfold applyCompletion insertSnippet followUp
  cases entry.command <;> simp only [h, bind_assoc, pure_bind]

theorem page_showSnippet (s : SessionId) (o : Nat) (snippet : Snippet) (c : Client E) :
    (c.show_ (.snippet (c.session s).uri o snippet)).page s = (c.page s).hand o snippet := by
  have hhanded : (c.editor.shown ++ [Display.snippet (c.session s).uri o snippet]).filterMap
      (Display.handed? (c.session s).uri) = (c.page s).handed ++ [(o, snippet)] := by
    rw [List.filterMap_append]
    exact congrArg ((c.page s).handed ++ ·) (List.filterMap_cons_some (if_pos rfl))
  exact congrArg (fun handed => { c.page s with handed }) hhanded

open Program

theorem solo_insertSnippet (htext : g.text = some t) (hsnippet : entry.snippet = some snippet)
    (hmain : Replaces entry t caret start stop)
    (hothers : entry.additionalEdits = rs.map (Replacement.edit t))
    (hbatch : Batch t (⟨start, stop, snippet.text⟩ :: rs)) :
    (insertSnippet s entry snippet caret : Prog E K Bool).Solo (Client.pageView s) id g
      (fun r g' => r = true ∧
        g' = (g.write (t.replaceAll (⟨start, stop, snippet.text⟩ :: rs))).hand
          (t.replacedBefore ⟨start, stop, snippet.text⟩ rs).byteLength snippet) fun _ => True := by
  let main : Replacement := ⟨start, stop, snippet.text⟩
  have hstart : t.offset (t.range start stop).start = start :=
    Text.offset_position_of_isBoundary (hbatch.fits main List.mem_cons_self).start
  have hedits : entry.additionalEdits ++ [⟨t.range start stop, mainText entry⟩] =
      (rs ++ [main]).map (Replacement.edit t) := by
    simp [hothers, mainText, hsnippet, Replacement.edit, main]
  have hmade := foldl_lastFirst hbatch (List.perm_append_singleton main rs)
  refine Solo.bind (solo_read fun c hc => ?_)
  obtain rfl : c.page s = g := hc
  rw [Client.text_eq_of_page htext]
  dsimp only
  rw [replacedBy_eq hmain, hstart, hedits, hothers, add_shift_toNat hbatch, ← hmade]
  refine Solo.bind ((solo_applyEdits _ htext).mono ?_ fun _ h => h)
  rintro _ g' ⟨rfl, rfl⟩
  refine Solo.bind (solo_modify fun d hd => solo_done ⟨rfl, ?_⟩)
  exact (page_showSnippet s _ snippet d).trans (congrArg (Page.hand · _ snippet) hd)

/-- A snippet was handed over with the offset where its text stands in the document. It stands there
because of the main replacement, which was made at once with the others. -/
structure HandedOver (snippet : Snippet) (main : Replacement) (rs : List Replacement) (t : Text)
    (g g' : Page) (o : Nat) : Prop where
  handed : g'.handed = g.handed ++ [(o, snippet)]
  text : g'.text = some (t.replaceAll (main :: rs))
  slice : (t.replaceAll (main :: rs)).slice o (o + snippet.text.byteLength) = snippet.text
  inserted : t.replaceAll (main :: rs) =
    t.replacedBefore main rs ++ snippet.text ++ t.replacedAfter main rs
  offset : (t.replacedBefore main rs).byteLength = o
  bounds : ∀ stop ∈ snippet.stops, stop.stop ≤ snippet.text.byteLength →
    o + stop.stop ≤ (t.replaceAll (main :: rs)).byteLength
  stops : ∀ template, snippet = Snippet.parse template → ∀ stop ∈ snippet.stops,
    (stop.moved o).StandsIn (t.replaceAll (main :: rs))

theorem handedOver_of_batch (hbatch : Batch t (⟨start, stop, snippet.text⟩ :: rs)) :
    HandedOver snippet ⟨start, stop, snippet.text⟩ rs t g
      ((g.write (t.replaceAll (⟨start, stop, snippet.text⟩ :: rs))).hand
        (t.replacedBefore ⟨start, stop, snippet.text⟩ rs).byteLength snippet)
      (t.replacedBefore ⟨start, stop, snippet.text⟩ rs).byteLength := by
  have hinserted := Text.replaceAll_cons hbatch
  refine ⟨rfl, rfl, ?_, hinserted, rfl, fun stop _ hstop => ?_, ?_⟩
  · rw [hinserted, Text.slice_append]
  · rw [hinserted, Text.byteLength_append, Text.byteLength_append]
    dsimp only
    omega
  · rintro template rfl stop hstop
    rw [hinserted]
    exact (Snippet.standsIn_parse template stop hstop).moved _ _

/-- A snippet is handed over where it was inserted. Its text stands at the offset it is handed over
with, right where the main replacement put it, and its tab stops are in the document then. After
that only the command of the entry is run, if it has one. -/
theorem snippet_handedOver {n : Nat} {rt rt' : Runtime (Client E) (Job K)} {aborted r : Bool}
    (htext : (rt.world.page s).text = some t) (hsnippet : entry.snippet = some snippet)
    (hmain : Replaces entry t caret start stop)
    (hothers : entry.additionalEdits = rs.map (Replacement.edit t))
    (hbatch : Batch t (⟨start, stop, snippet.text⟩ :: rs))
    (hran : Runtime.Ran (Client.pageView s).Same n rt
      ⟨id, applyCompletion s entry caret, [], aborted⟩ rt' r) :
    ∃ o m rt₁,
      HandedOver snippet ⟨start, stop, snippet.text⟩ rs t (rt.world.page s) (rt₁.world.page s) o ∧
      Runtime.Ran (Client.pageView s).Same m rt₁ ⟨id, followUp s entry true, [], aborted⟩ rt' r ∧
      (entry.command = none → rt' = rt₁ ∧ r = true) := by
  rw [applyCompletion_eq hsnippet] at hran
  obtain ⟨m, rt₁, _, -, ⟨⟨rfl, hpage⟩, -⟩, hrest⟩ :=
    (solo_insertSnippet htext hsnippet hmain hothers hbatch).brings.goes Runtime.calm_nil hran
  have hhanded := handedOver_of_batch (g := rt.world.page s) hbatch
  rw [← hpage] at hhanded
  refine ⟨_, m, rt₁, hhanded, hrest, fun hcommand => ?_⟩
  rw [followUp, hcommand] at hrest
  exact hrest.of_done

/-- The caret stands in a word, after characters of two and one bytes. -/
def smallText : Text := ['é', ';', '\n', 'p', 'r', 'i']

def smallTemplate : Text := ['p', '(', '$', '\x7b', '1', ':', 'x', '\x7d', ')']

/-- Insertions at both ends and a deletion before the word. -/
def smallOthers : List Replacement := [⟨7, 7, ['!']⟩, ⟨0, 0, ['𝄞', '\n']⟩, ⟨2, 3, []⟩]

def smallEntry : CompletionEntry where
  label := ""
  detail := none
  kind := none
  sortText := none
  filterText := none
  edit := none
  insertText := []
  snippet := some (Snippet.parse smallTemplate)
  additionalEdits := smallOthers.map (Replacement.edit smallText)
  command := none
  item := .null

theorem snippet_handedOver_word :
    let rt := Client.smallRuntime smallText SyncKind.full
    let rt' := (rt.turn 20 ⟨1, applyCompletion 0 smallEntry 6, [], false⟩).1
    (rt'.world.page 0).handed = [(8, ⟨['p', '(', 'x', ')'], [⟨2, 3, 1, ['x']⟩]⟩)] ∧
      (rt'.world.page 0).text =
        some ['𝄞', '\n', 'é', '\n', 'p', '(', 'x', ')', 'i', '!'] := by
  intro rt rt'
  obtain ⟨n, hran⟩ : ∃ n, Runtime.Ran (Client.pageView 0).Same n rt
      ⟨1, applyCompletion 0 smallEntry 6, [], false⟩ rt' true :=
    Runtime.exists_ran (by decide +kernel)
  let snippet : Snippet := ⟨['p', '(', 'x', ')'], [⟨2, 3, 1, ['x']⟩]⟩
  have htext : (rt.world.page 0).text = some smallText := by decide +kernel
  have hsnippet : smallEntry.snippet = some snippet := by decide +kernel
  have hmain : Replaces smallEntry smallText 6 4 6 := ⟨by decide +kernel, by decide +kernel⟩
  have hbatch : Batch smallText (⟨4, 6, snippet.text⟩ :: smallOthers) := by decide +kernel
  obtain ⟨o, m, rt₁, hhanded, -, hend⟩ := snippet_handedOver htext hsnippet hmain rfl hbatch hran
  obtain ⟨hrt, -⟩ := hend rfl
  have hoffset : 8 = o := by
    rw [← hhanded.offset]
    decide +kernel
  have hbefore : (rt.world.page 0).handed = [] := by decide +kernel
  have hafter : smallText.replaceAll (⟨4, 6, snippet.text⟩ :: smallOthers) =
      ['𝄞', '\n', 'é', '\n', 'p', '(', 'x', ')', 'i', '!'] := by decide +kernel
  rw [hrt, hhanded.handed, hhanded.text, hbefore, hafter, ← hoffset]
  exact ⟨rfl, rfl⟩

end Handing

end Session

end LanguageClient
