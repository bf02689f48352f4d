import LanguageClient.Message.Basic
import LanguageClient.Message.Frame
import LanguageClient.Transport.Wiring
namespace LanguageClient

/-!
# Traffic

What offers, and all that nobody offers, leave of the bytes that pipes carry. A pipe that takes
nothing any more never takes anything again.
-/

/-- The bytes that a message is sent as. -/
def OutgoingMessage.frame (m : OutgoingMessage) : Bytes := Utf8.encode (Frame.encode m.body)

/-- A frame begins with its header. -/
theorem OutgoingMessage.frame_eq (m : OutgoingMessage) : ∃ rest, m.frame = 67 :: 111 :: rest :=
  ⟨_, rfl⟩

theorem OutgoingMessage.frame_ne_nil (m : OutgoingMessage) : m.frame ≠ [] := by
  obtain ⟨rest, h⟩ := m.frame_eq
  rw [h]
  exact List.cons_ne_nil _ _

namespace Store

variable {α : Type}

theorem update_of_isNone {s : Store α} {n : Nat} (h : s.get? n = none) (f : α → α) :
    s.update n f = s := by
  obtain ⟨entries⟩ := s
  simp only [get?, List.getElem?_eq_none_iff] at h
  simp only [update, mk.injEq]
  exact List.modify_eq_self h

variable [Inhabited α]

theorem get_update_ne (s : Store α) {n m : Nat} (f : α → α) (h : n ≠ m) :
    (s.update n f).get m = s.get m := by
  unfold get
  rw [get?_update_ne s f h]

theorem get_update_of_isSome {s : Store α} {n : Nat} (h : (s.get? n).isSome) (f : α → α) :
    (s.update n f).get n = f (s.get n) := by
  obtain ⟨a, ha⟩ := Option.isSome_iff_exists.1 h
  simp [get, ha]

theorem get_update (s : Store α) (n m : Nat) (f : α → α) :
    (s.update n f).get m = s.get m ∨ m = n ∧ (s.update n f).get m = f (s.get n) := by
  by_cases h : n = m
  · subst h
    cases hs : s.get? n with
    | none => exact .inl (by rw [update_of_isNone hs])
    | some a => exact .inr ⟨rfl, get_update_of_isSome (by simp [hs]) f⟩
  · exact .inl (get_update_ne s f h)

/-- What a change makes of an entry is read there, if a missing entry has it anyway. -/
theorem get_update_eq {β : Type} (s : Store α) (n : Nat) {f : α → α} (p : α → β) {b : β}
    (hf : ∀ a, p (f a) = b) (hdefault : p default = b) : p ((s.update n f).get n) = b := by
  cases hs : s.get? n with
  | none => simp [update_of_isNone hs, get, hs, hdefault]
  | some a => rw [get_update_of_isSome (by simp [hs]), hf]

theorem update_const (s : Store α) (n : Nat) (f : α → α) :
    (s.update n fun _ => f (s.get n)) = s.update n f := by
  obtain ⟨entries⟩ := s
  simp only [update, get, get?, mk.injEq]
  refine List.ext_getElem? fun i => ?_
  simp only [List.getElem?_modify]
  by_cases hi : n = i
  · subst hi
    cases entries[n]? <;> simp
  · simp [hi]

end Store

namespace Wiring

/-- Whether both ends of a pipe are open. -/
def takes (w : Wiring) (p : PipeId) : Bool :=
  !((w.pipes.get p).readerClosed || (w.pipes.get p).writerClosed)

theorem takes_visitPipe {β : Type} (w : Wiring) (p q : PipeId) (f : Pipe → Pipe × Option TaskId × β)
    (h : ∀ pipe, (f pipe).1.readerClosed = pipe.readerClosed ∧
      (f pipe).1.writerClosed = pipe.writerClosed) :
    (w.visitPipe p f).1.takes q = w.takes q := by
  have hpipes : (w.visitPipe p f).1.pipes =
      w.pipes.update p fun _ => (f (w.pipes.get p)).1 := rfl
  unfold takes
  rw [hpipes]
  rcases Store.get_update w.pipes p q fun _ => (f (w.pipes.get p)).1 with hq | ⟨rfl, hq⟩
  · rw [hq]
  · rw [hq, (h _).1, (h _).2]

theorem offer_spec {w v : Wiring} {p : PipeId} {bytes : Bytes} {t : TaskId} {r : Pipe.Write}
    (h : w.offer p bytes t = (v, r)) :
    v.links = w.links ∧ v.promises = w.promises ∧ (∀ q, v.takes q = w.takes q) ∧
      match r with
      | .broken => w.takes p = false ∧ v.traffic = w.traffic
      | .waits => w.takes p = true ∧ v.traffic = w.traffic
      | .took taken rest =>
        w.takes p = true ∧ taken ++ rest = bytes ∧ v.traffic = w.traffic ++ [(p, taken)] := by
  have htakes (q : PipeId) : (w.visitPipe p (·.offer bytes t)).1.takes q = w.takes q := by
    refine takes_visitPipe w p q _ ?_
    intro pipe
    unfold Pipe.offer
    dsimp only
    split
    · exact ⟨rfl, rfl⟩
    · split <;> exact ⟨rfl, rfl⟩
  have hread : (w.visitPipe p (·.offer bytes t)).2 = ((w.pipes.get p).offer bytes t).2.2 := rfl
  have hlinks : (w.visitPipe p (·.offer bytes t)).1.links = w.links := rfl
  have hpromises : (w.visitPipe p (·.offer bytes t)).1.promises = w.promises := rfl
  have htraffic : (w.visitPipe p (·.offer bytes t)).1.traffic = w.traffic := rfl
  have hshut : ((w.pipes.get p).readerClosed || (w.pipes.get p).writerClosed) = !w.takes p := by
    simp [takes]
  unfold offer at h
  rcases hv : w.visitPipe p (·.offer bytes t) with ⟨u, answer⟩
  rw [hv] at h htakes hread hlinks hpromises htraffic
  dsimp only at h htakes hread hlinks hpromises htraffic
  cases ho : (w.pipes.get p).offer bytes t with
  | mk pipe rest =>
  obtain ⟨woken, write⟩ := rest
  rw [ho] at hread
  dsimp only at hread
  subst hread
  unfold Pipe.offer at ho
  rw [hshut] at ho
  cases answer with
  | broken =>
      obtain ⟨rfl, rfl⟩ := Prod.mk.inj h
      refine ⟨hlinks, hpromises, htakes, ?_, htraffic⟩
      cases ht : w.takes p with
      | false => rfl
      | true =>
          simp only [ht, Bool.not_true, Bool.false_eq_true, if_false] at ho
          split at ho <;> simp at ho
  | waits =>
      obtain ⟨rfl, rfl⟩ := Prod.mk.inj h
      refine ⟨hlinks, hpromises, htakes, ?_, htraffic⟩
      cases ht : w.takes p with
      | true => rfl
      | false => simp [ht] at ho
  | took taken rest =>
      obtain ⟨rfl, rfl⟩ := Prod.mk.inj h
      refine ⟨hlinks, hpromises, htakes, ?_, ?_, by rw [htraffic]⟩
      · cases ht : w.takes p with
        | true => rfl
        | false => simp [ht] at ho
      · cases ht : w.takes p with
        | false => simp [ht] at ho
        | true =>
            simp only [ht, Bool.not_true, Bool.false_eq_true, if_false] at ho
            split at ho
            · simp at ho
            · simp only [Prod.mk.injEq, Pipe.Write.took.injEq] at ho
              obtain ⟨_, _, rfl, rfl⟩ := ho
              exact List.take_append_drop _ _

theorem carried_of_traffic {w v : Wiring} (h : v.traffic = w.traffic) (p : PipeId) :
    v.carried p = w.carried p := by
  unfold carried
  rw [h]

theorem carried_of_traffic_append {w v : Wiring} {q : PipeId} {bytes : Bytes}
    (h : v.traffic = w.traffic ++ [(q, bytes)]) (p : PipeId) :
    v.carried p = w.carried p ++ if q = p then bytes else [] := by
  rw [← carried_append w p q bytes]
  exact carried_of_traffic h p

/-- Nothing is written to the pipes that links write to, and none of them is opened again. -/
structure Unwritten (w v : Wiring) : Prop where
  links : v.links = w.links
  carried {l : LinkId} {p : PipeId} : (w.link l).output = some p → v.carried p = w.carried p
  takes {l : LinkId} {p : PipeId} : (w.link l).output = some p → v.takes p → w.takes p

namespace Unwritten

theorem link_eq {w v : Wiring} (h : Unwritten w v) (l : LinkId) : v.link l = w.link l := by
  unfold link
  rw [h.links]

theorem refl (w : Wiring) : Unwritten w w := ⟨rfl, fun _ => rfl, fun _ h => h⟩

theorem trans {u v w : Wiring} (h : Unwritten u v) (k : Unwritten v w) : Unwritten u w where
  links := k.links.trans h.links
  carried ho := (k.carried (by rwa [h.link_eq])).trans (h.carried ho)
  takes ho ht := h.takes ho (k.takes (by rwa [h.link_eq]) ht)

theorem of_eq {w v : Wiring} (hlinks : v.links = w.links) (hpipes : v.pipes = w.pipes)
    (htraffic : v.traffic = w.traffic) : Unwritten w v where
  links := hlinks
  carried _ := carried_of_traffic htraffic _
  takes _ ht := by
    unfold Wiring.takes at ht ⊢
    rwa [hpipes] at ht

end Unwritten

/-- A connected link writes to a pipe. -/
def OnLine (w : Wiring) (l : LinkId) (p : PipeId) : Prop :=
  (w.link l).connected = true ∧ (w.link l).output = some p

/-- A link that is on line stays so, and while its pipe takes bytes these are written to it. -/
def Wrote (l : LinkId) (p : PipeId) (bytes : Bytes) (w v : Wiring) : Prop :=
  w.OnLine l p → v.OnLine l p ∧ (v.takes p → w.takes p ∧ v.carried p = w.carried p ++ bytes)

theorem Unwritten.wrote {w v : Wiring} (h : Unwritten w v) (l : LinkId) (p : PipeId) :
    Wrote l p [] w v := by
  intro hl
  refine ⟨by rwa [OnLine, h.link_eq], fun ht => ⟨h.takes hl.2 ht, ?_⟩⟩
  rw [h.carried hl.2, List.append_nil]

theorem Wrote.trans {l : LinkId} {p : PipeId} {a b : Bytes} {u v w : Wiring}
    (h : Wrote l p a u v) (k : Wrote l p b v w) : Wrote l p (a ++ b) u w := by
  intro hl
  obtain ⟨hv, hcarried⟩ := h hl
  obtain ⟨hw, kcarried⟩ := k hv
  refine ⟨hw, fun ht => ?_⟩
  obtain ⟨ht', hb⟩ := kcarried ht
  obtain ⟨ht'', ha⟩ := hcarried ht'
  exact ⟨ht'', by rw [hb, ha, List.append_assoc]⟩

end Wiring

end LanguageClient
