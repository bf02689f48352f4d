import LanguageClient.Proofs.Server.Alone
import LanguageClient.Proofs.Session.Mirror
import LanguageClient.Proofs.Session.Versions
import LanguageClient.Proofs.Text.Replacement
namespace LanguageClient

/-!
# Batches of edits

The edits of one call are made one after another, each in the text that the others have left, with
the last one in the text first. Where their ranges are apart it is as if they were made at once.
Edits that start at one place keep their order, so insertions there come out in reverse.
-/

variable {E K : Type}

/-! ## The document of a session -/

/-- What is seen of the document of a session: its text, if there is a buffer, and the snippets that
were handed over for it with their offsets. -/
structure Page where
  uri : String
  text : Option Text
  handed : List (Nat × Snippet)

namespace Page

def write (g : Page) (t : Text) : Page := { g with text := some t }

def hand (g : Page) (offset : Nat) (snippet : Snippet) : Page :=
  { g with handed := g.handed ++ [(offset, snippet)] }

end Page

/-- The snippet that is shown for a document, with its offset. -/
def Display.handed? (uri : String) : Display → Option (Nat × Snippet)
  | .snippet u offset what => if u = uri then some (offset, what) else none
  | _ => none

namespace Client

def page (c : Client E) (s : SessionId) : Page where
  uri := (c.session s).uri
  text := (c.editor.buffers.get? (c.session s).buffer).map (·.text)
  handed := c.editor.shown.filterMap (Display.handed? (c.session s).uri)

/-- The page is what solo runs are seen by. -/
def pageView (s : SessionId) : View (Client E) Page := ⟨(·.page s), fun _ _ => rfl⟩

theorem overlooks_page (s : SessionId) : (pageView s : View (Client E) Page).Overlooks :=
  fun _ _ _ => rfl

variable {c : Client E} {s : SessionId}

theorem text_eq_of_page {t : Text} (h : (c.page s).text = some t) : c.text s = t := by
  obtain ⟨b, hb, rfl⟩ := Option.map_eq_some_iff.1 h
  rw [text, Editor.text, Store.get, hb]
  rfl

theorem page_updateBuffer {b : Buffer} (h : c.editor.buffers.get? (c.session s).buffer = some b)
    (f : Buffer → Buffer) :
    (c.updateEditor fun e => e.updateBuffer (c.session s).buffer f).page s =
      (c.page s).write (f b).text := by
  have hbuffer : (c.editor.buffers.update (c.session s).buffer f).get? (c.session s).buffer =
      some (f b) := by
    rw [Store.get?_update_same, h]
    rfl
  have htext := congrArg (Option.map (·.text)) hbuffer
  exact congrArg (fun text => { c.page s with text }) htext

theorem page_updateSession (r : SessionId) {f : Session → Session} (huri : ∀ x, (f x).uri = x.uri)
    (hbuffer : ∀ x, (f x).buffer = x.buffer) : (c.updateSession r f).page s = c.page s := by
  have hsession : ((c.updateSession r f).session s).uri = (c.session s).uri ∧
      ((c.updateSession r f).session s).buffer = (c.session s).buffer := by
    rcases c.session_updateSession r s f with h | ⟨rfl, h⟩
    · rw [h]
      exact ⟨rfl, rfl⟩
    · rw [h]
      exact ⟨huri _, hbuffer _⟩
  unfold page
  rw [hsession.1, hsession.2]
  rfl

theorem page_writeSession (r : SessionId) (lock : Lock) :
    ((sessionLock r).write lock c).page s = c.page s :=
  page_updateSession r (fun _ => rfl) fun _ => rfl

end Client

namespace Session

variable {s : SessionId} {c : Client E} {t : Text}

theorem page_makeEdit (access : Option Access) (e : TextEdit) (h : (c.page s).text = some t) :
    (makeEdit s access e c).page s = (c.page s).write (TextEdit.applied t e) := by
  obtain ⟨b, hb, rfl⟩ := Option.map_eq_some_iff.1 h
  obtain ⟨x, m, y, htext, hoffsets⟩ := Text.exists_offsets b.text e.range
  let replace (b : Buffer) : Buffer :=
    b.replace (Text.byteLength x) (Text.byteLength x + Text.byteLength m) e.newText
  have happlied : TextEdit.applied b.text e = (replace b).text := by
    rw [Buffer.text_replace htext, TextEdit.applied, hoffsets, htext, Text.splice_append]
  rw [happlied, ← Client.page_updateBuffer hb replace]
  unfold makeEdit
  simp only [Client.text_eq_of_page h, hoffsets]
  cases access with
  | none => rfl
  | some a => exact Client.page_updateSession s (fun _ => rfl) fun _ => rfl

theorem page_foldl_makeEdit (access : Option Access) (edits : List TextEdit)
    (h : (c.page s).text = some t) :
    (edits.foldl (fun c e => makeEdit s access e c) c).page s =
      (c.page s).write (edits.foldl TextEdit.applied t) := by
  induction edits generalizing c t with
  | nil => exact congrArg (fun text => { c.page s with text }) h
  | cons e edits ih =>
    have hmade := page_makeEdit access e h
    rw [List.foldl_cons, ih (congrArg Page.text hmade), hmade]
    rfl

theorem page_edited (edits : List TextEdit) (h : (c.page s).text = some t) :
    (edited s edits c).page s =
      (c.page s).write ((lastFirst t edits).foldl TextEdit.applied t) := by
  unfold edited
  rw [Client.text_eq_of_page h]
  exact page_foldl_makeEdit _ _ h

/-! ## Calls -/

section Calls

variable {id : TaskId} {g : Page} {rt : Runtime (Client E) (Job K)}

open Program

theorem solo_flush (a : Access) :
    (flush s a : Prog E K Unit).Solo (Client.pageView s) id g (fun _ g' => g' = g)
      fun _ => True := by
  refine Solo.bind (solo_act fun c hc => ?_)
  have hpage :
      (c.updateSession s fun _ => ((c.session s).takePending (c.text s)).1).page s = g := by
    rw [flushed_eq]
    refine (Client.page_updateSession s (fun x => ?_) fun x => ?_).trans hc
    all_goals
      unfold takePending
      split <;> rfl
  generalize (c.session s).takePending (c.text s) = taken at hpage ⊢
  obtain ⟨x, _ | ⟨change, changes⟩⟩ := taken
  · exact solo_done hpage
  · refine Access.solo_tell (Client.overlooks_page s) rfl (fun d e _ _ he => ?_) fun _ _ _ => hpage
    exact he.trans hpage

theorem solo_applyEdits (edits : List TextEdit) (h : g.text = some t) :
    (applyEdits s edits none : Prog E K Bool).Solo (Client.pageView s) id g
      (fun r g' => r = true ∧ g' = g.write ((lastFirst t edits).foldl TextEdit.applied t))
      fun _ => True := by
  refine Solo.locked (fun _ _ => Client.page_writeSession s _) ?_ trivial
  refine Solo.bind (solo_read fun _ _ => ?_)
  refine Solo.bind (solo_act fun c hc => ?_)
  obtain rfl : c.page s = g := hc
  have hedited : (Client.pageView s).see (edited s edits c) =
      (c.page s).write ((lastFirst t edits).foldl TextEdit.applied t) := page_edited edits h
  change Solo _ id _ ((Client.pageView s).see (edited s edits c)) _ _
  rw [hedited]
  cases syncAccess? s c with
  | none => exact solo_done ⟨rfl, rfl⟩
  | some a => exact Solo.bind ((solo_flush a).mono (fun _ _ h => solo_done ⟨rfl, h⟩) fun _ h => h)

/-- What becomes of the text of a document when edits are made in it. A call that is granted the
lock makes them with its fourth stride, before the server is told; and so the text is at the end of
every run in which nobody else changes the page meanwhile. -/
structure EditsTo (s : SessionId) (edits : List TextEdit) (rt : Runtime (Client E) (Job K))
    (u : Text) : Prop where
  soon {id : TaskId} {aborted : Bool} (h : Granted s id rt.world) :
    ((rt.turn 4 ⟨id, applyEdits s edits none, [], aborted⟩).1.world.page s).text = some u
  atEnd {id : TaskId} {aborted : Bool} {n : Nat} {rt' : Runtime (Client E) (Job K)} {r : Bool}
    (h : Runtime.Ran (Client.pageView s).Same n rt ⟨id, applyEdits s edits none, [], aborted⟩ rt'
      r) : r = true ∧ (rt'.world.page s).text = some u

theorem editsTo_foldl (edits : List TextEdit) (h : (rt.world.page s).text = some t) :
    EditsTo s edits rt ((lastFirst t edits).foldl TextEdit.applied t) where
  soon {id aborted} hgranted := by
    let w := ((Client.sessionLock s).acquire id rt.world).1
    have hw : w.page s = rt.world.page s := Client.page_writeSession s _
    have hworld : (rt.turn 4 ⟨id, applyEdits s edits none, [], aborted⟩).1.world =
        edited s edits w := by
      rw [applyEdits, Runtime.turn_succ, stride_granted hgranted]
      rfl
    rw [hworld, page_edited edits (hw ▸ h)]
    rfl
  atEnd hran := by
    obtain ⟨rfl, hpage⟩ := (solo_applyEdits edits h).ran hran
    exact ⟨rfl, congrArg Page.text hpage⟩

end Calls

/-! ## Apart and in one place -/

/-- The last one in the text is made first. -/
theorem lastFirst_map_edit {rs : List Replacement} (h : ∀ r ∈ rs, r.Fits t) :
    lastFirst t (rs.map (Replacement.edit t)) = (descend rs).map (Replacement.edit t) := by
  refine (List.map_mergeSort fun r hr q hq => ?_).symm
  rw [Text.offsets_edit (h r hr), Text.offsets_edit (h q hq)]

/-- Edits whose ranges are apart come to the same in whatever order they are asked for. -/
theorem foldl_lastFirst {rs qs : List Replacement} (h : Batch t rs) (hp : qs.Perm rs) :
    (lastFirst t (qs.map (Replacement.edit t))).foldl TextEdit.applied t = t.replaceAll rs := by
  have hqs : Batch t qs := h.perm hp.symm
  rw [lastFirst_map_edit hqs.fits, Text.foldl_applied_descend hqs, Text.replaceAll_perm hqs hp]

/-- Insertions at one place are made in their order, each ahead of the one before. -/
theorem foldl_lastFirst_insertions {o : Nat} (h : t.IsBoundary o) (news : List Text) :
    (lastFirst t (news.map fun new => ⟨t.range o o, new⟩)).foldl TextEdit.applied t =
      t.takeBytes o ++ news.reverse.flatten ++ t.dropBytes o := by
  let insertion (new : Text) : Replacement := ⟨o, o, new⟩
  have hedits : (news.map fun new => ⟨t.range o o, new⟩) =
      (news.map insertion).map (Replacement.edit t) := by
    rw [List.map_map]
    rfl
  have hfits : ∀ r ∈ news.map insertion, r.Fits t := by
    refine List.forall_mem_map.2 fun new _ => ⟨h, h, Nat.le_refl o⟩
  have hkept : descend (news.map insertion) = news.map insertion :=
    descend_of_same_start (List.forall_mem_map.2 fun _ _ => rfl)
  rw [hedits, lastFirst_map_edit hfits, hkept, List.map_map]
  obtain ⟨x, y, rfl, rfl⟩ := Text.isBoundary_iff.1 h
  rw [Text.takeBytes_byteLength, Text.dropBytes_byteLength]
  exact Text.foldl_applied_insertions x y y news

section Outcomes

variable {rt : Runtime (Client E) (Job K)}

/-- Edits whose ranges are apart are made as if at once, in whatever order they are asked for. -/
theorem editsTo_replaceAll {rs qs : List Replacement} (htext : (rt.world.page s).text = some t)
    (hbatch : Batch t rs) (hp : qs.Perm rs) :
    EditsTo s (qs.map (Replacement.edit t)) rt (t.replaceAll rs) := by
  rw [← foldl_lastFirst hbatch hp]
  exact editsTo_foldl _ htext

/-- A line break is taken out between two replacements, of which the first touches it. -/
def touching : List Replacement := [⟨1, 3, ['1', '\n', '2']⟩, ⟨3, 4, []⟩, ⟨8, 9, ['𝄞']⟩]

/-- Its characters have one, two, one, four and one bytes. -/
def touched : Text := ['a', 'é', '\n', '𝄞', 'b']

theorem editsTo_replaceAll_touching :
    let rt := smallOpened touched SyncKind.incremental
    let edits := touching.reverse.map (Replacement.edit touched)
    EditsTo 0 edits rt ['a', '1', '\n', '2', '𝄞', '𝄞'] ∧
      ((rt.turn 4 ⟨1, applyEdits 0 edits none, [], false⟩).1.world.page 0).text =
        some ['a', '1', '\n', '2', '𝄞', '𝄞'] := by
  intro rt edits
  have htext : (rt.world.page 0).text = some touched := by decide +kernel
  have hbatch : Batch touched touching := by decide +kernel
  have hresult : touched.replaceAll touching = ['a', '1', '\n', '2', '𝄞', '𝄞'] := by
    decide +kernel
  have hedits : EditsTo 0 edits rt (touched.replaceAll touching) :=
    editsTo_replaceAll htext hbatch (List.reverse_perm touching)
  rw [hresult] at hedits
  have hgranted : Granted 0 1 rt.world := by decide +kernel
  exact ⟨hedits, hedits.soon hgranted⟩

/-- Insertions at one place come out in reverse order, each ahead of those before it in the list. -/
theorem editsTo_insertions {o : Nat} (htext : (rt.world.page s).text = some t)
    (ho : t.IsBoundary o) (news : List Text) :
    EditsTo s (news.map fun new => ⟨t.range o o, new⟩) rt
      (t.takeBytes o ++ news.reverse.flatten ++ t.dropBytes o) := by
  rw [← foldl_lastFirst_insertions ho news]
  exact editsTo_foldl _ htext

theorem editsTo_insertions_two :
    let rt := smallOpened ['x', 'y'] SyncKind.incremental
    let edits := [['1'], ['2']].map fun new => ⟨Text.range ['x', 'y'] 1 1, new⟩
    EditsTo 0 edits rt ['x', '2', '1', 'y'] ∧
      ((rt.turn 4 ⟨1, applyEdits 0 edits none, [], false⟩).1.world.page 0).text =
        some ['x', '2', '1', 'y'] := by
  intro rt edits
  have htext : (rt.world.page 0).text = some ['x', 'y'] := by decide +kernel
  have hboundary : Text.IsBoundary ['x', 'y'] 1 := by decide +kernel
  have hedits : EditsTo 0 edits rt ['x', '2', '1', 'y'] :=
    editsTo_insertions htext hboundary [['1'], ['2']]
  have hgranted : Granted 0 1 rt.world := by decide +kernel
  exact ⟨hedits, hedits.soon hgranted⟩

end Outcomes

end Session

end LanguageClient
