import LanguageClient.Registration.Table
import Mathlib.Data.List.Nodup
namespace LanguageClient

/-!
# Registrations in force

A registration is live from the moment it is made until its id is registered again or removed. A
table answers for the live registrations, and for one thing more: where an id of watchers is
registered again for another method, its watchers linger in the table until the id is removed, and
they go on filtering the changes of files.
-/

namespace Registration

def subject (r : Registration) : DynamicMethod := .ofName r.method

def watches (r : Registration) : Bool := r.subject == .didChangeWatchedFiles

/-- The watchers in the options of a registration. -/
def watchers (r : Registration) : List FileWatcher :=
  (r.options.map FileWatcher.ofOptions).getD []

/-- The registration says that the change is to be forwarded. -/
def Accepts (r : Registration) (path : Path) (change : FileChange) : Prop :=
  r.watches = true ∧ ∃ w ∈ r.watchers, w.accepts path change = true

end Registration

namespace RegistrationTable

/-- A step in the life of a table. -/
inductive Step where
  | register (r : Registration)
  | unregister (u : Unregistration)
  | clear

def step (t : RegistrationTable) : Step → RegistrationTable
  | .register r => t.register r
  | .unregister u => t.unregister u
  | .clear => .empty

def run (steps : List Step) : RegistrationTable := steps.foldl step .empty

/-- Which registrations are live, and which linger for their watchers alone. -/
structure Standing where
  live : List Registration
  lingering : List Registration

namespace Standing

def none : Standing := ⟨[], []⟩

/-- The live registration of an id for a method, where there is one, is to go. -/
def drops (b : Standing) (method : DynamicMethod) (id : String) : Bool :=
  b.live.any fun r => r.id == id && r.subject == method

def step (b : Standing) : Step → Standing
  | .register r =>
    ⟨b.live.filter (·.id != r.id) ++ [r],
      if r.watches then b.lingering.filter (·.id != r.id)
      else b.lingering ++ b.live.filter fun s => s.id == r.id && s.watches⟩
  | .unregister u =>
    if b.live.any (·.id == u.id) then
      ⟨b.live.filter (·.id != u.id), b.lingering.filter (·.id != u.id)⟩
    else
      ⟨b.live.filter (·.subject != .ofName u.method),
        b.lingering.filter fun r => !b.drops (.ofName u.method) r.id⟩
  | .clear => none

def run (steps : List Step) : Standing := steps.foldl step none

end Standing

/-! ## Entries of a table -/

section Entries

variable {α : Type} {key : String} {value : α} {l : List (String × α)}

theorem map_fst_put :
    (put key value l).map Prod.fst =
      if key ∈ l.map Prod.fst then l.map Prod.fst else l.map Prod.fst ++ [key] := by
  induction l with
  | nil => rfl
  | cons x l ih =>
    obtain ⟨k, v⟩ := x
    by_cases h : k = key
    · simp [put, h]
    · have h' : ¬key = k := fun heq => h heq.symm
      rw [put, if_neg h, List.map_cons, ih]
      simp only [List.map_cons, List.mem_cons, h', false_or]
      split <;> rfl

theorem nodup_put (h : (l.map Prod.fst).Nodup) : ((put key value l).map Prod.fst).Nodup := by
  rw [map_fst_put]
  split
  · exact h
  · rename_i hnew
    rw [List.nodup_append]
    refine ⟨h, List.nodup_singleton key, ?_⟩
    intro a ha b hb heq
    exact hnew (List.mem_singleton.1 hb ▸ heq ▸ ha)

theorem nodup_filter_keys {p : String × α → Bool} (h : (l.map Prod.fst).Nodup) :
    ((l.filter p).map Prod.fst).Nodup :=
  List.Nodup.sublist (List.filter_sublist.map Prod.fst) h

/-- An entry that is put in keeps all those of other keys, and no other. -/
theorem mem_put_iff (h : (l.map Prod.fst).Nodup) {e : String × α} :
    e ∈ put key value l ↔ e = (key, value) ∨ e ∈ l ∧ e.1 ≠ key := by
  induction l with
  | nil => simp [put]
  | cons x l ih =>
    obtain ⟨k, v⟩ := x
    obtain ⟨hk, hl⟩ := List.nodup_cons.1 h
    by_cases heq : k = key
    · subst heq
      have hne : ∀ e ∈ l, e.1 ≠ k := fun e he hek => hk (List.mem_map.2 ⟨e, he, hek⟩)
      rw [put, if_pos rfl, List.mem_cons, List.mem_cons]
      constructor
      · rintro (rfl | he)
        · exact .inl rfl
        · exact .inr ⟨.inr he, hne e he⟩
      · rintro (rfl | ⟨rfl | he, hek⟩)
        · exact .inl rfl
        · exact absurd rfl hek
        · exact .inr he
    · rw [put, if_neg heq, List.mem_cons, ih hl, List.mem_cons]
      constructor
      · rintro (rfl | rfl | ⟨he, hek⟩)
        · exact .inr ⟨.inl rfl, heq⟩
        · exact .inl rfl
        · exact .inr ⟨.inr he, hek⟩
      · rintro (rfl | ⟨rfl | he, hek⟩)
        · exact .inr (.inl rfl)
        · exact .inl rfl
        · exact .inr (.inr ⟨he, hek⟩)

end Entries

/-! ## What a table holds -/

/-- The table holds the methods of the live registrations, and the watchers of the live and of the
lingering ones. -/
structure Reflects (t : RegistrationTable) (b : Standing) : Prop where
  nodup_methods : (t.methods.map Prod.fst).Nodup
  nodup_watchers : (t.watchers.map Prod.fst).Nodup
  methods : ∀ e, e ∈ t.methods ↔ ∃ r ∈ b.live, (r.id, r.subject) = e
  watchers : ∀ e, e ∈ t.watchers ↔
    ∃ r, (r ∈ b.live ∨ r ∈ b.lingering) ∧ r.watches = true ∧ (r.id, r.watchers) = e
  lingering : ∀ r ∈ b.lingering, r.watches = true

variable {t : RegistrationTable} {b : Standing}

namespace Reflects

theorem none : Reflects empty .none where
  nodup_methods := List.nodup_nil
  nodup_watchers := List.nodup_nil
  methods e := by simp [empty, Standing.none]
  watchers e := by simp [empty, Standing.none]
  lingering r hr := nomatch hr

/-- No two live registrations of one id are for different methods. -/
theorem subject_eq (h : t.Reflects b) {r s : Registration} (hr : r ∈ b.live) (hs : s ∈ b.live)
    (hid : r.id = s.id) : r.subject = s.subject := by
  have hr' : (r.id, r.subject) ∈ t.methods := (h.methods _).2 ⟨r, hr, rfl⟩
  have hs' : (s.id, s.subject) ∈ t.methods := (h.methods _).2 ⟨s, hs, rfl⟩
  exact congrArg Prod.snd (List.inj_on_of_nodup_map h.nodup_methods hr' hs' hid)

theorem register (h : t.Reflects b) (r : Registration) :
    (t.register r).Reflects (b.step (.register r)) := by
  have hmethods : (t.register r).methods = put r.id r.subject t.methods := rfl
  have hwatchers : (t.register r).watchers =
      if r.watches then put r.id r.watchers t.watchers else t.watchers := by
    simp only [RegistrationTable.register, Registration.watches, Registration.subject,
      Registration.watchers, beq_iff_eq]
  refine ⟨?_, ?_, ?_, ?_, ?_⟩
  · rw [hmethods]
    exact nodup_put h.nodup_methods
  · rw [hwatchers]
    split
    · exact nodup_put h.nodup_watchers
    · exact h.nodup_watchers
  · intro e
    rw [hmethods, mem_put_iff h.nodup_methods, h.methods]
    simp only [Standing.step, List.mem_append, List.mem_filter, List.mem_singleton, bne_iff_ne]
    constructor
    · rintro (rfl | ⟨⟨s, hs, rfl⟩, hne⟩)
      · exact ⟨r, .inr rfl, rfl⟩
      · exact ⟨s, .inl ⟨hs, hne⟩, rfl⟩
    · rintro ⟨s, ⟨hs, hne⟩ | rfl, rfl⟩
      · exact .inr ⟨⟨s, hs, rfl⟩, hne⟩
      · exact .inl rfl
  · intro e
    rw [hwatchers]
    by_cases hw : r.watches = true
    · rw [if_pos hw, mem_put_iff h.nodup_watchers, h.watchers]
      simp only [Standing.step, if_pos hw, List.mem_append, List.mem_filter, List.mem_singleton,
        bne_iff_ne]
      constructor
      · rintro (rfl | ⟨⟨s, hs, hsw, rfl⟩, hne⟩)
        · exact ⟨r, .inl (.inr rfl), hw, rfl⟩
        · exact ⟨s, hs.imp (fun hs => .inl ⟨hs, hne⟩) fun hs => ⟨hs, hne⟩, hsw, rfl⟩
      · rintro ⟨s, (⟨hs, hne⟩ | rfl) | ⟨hs, hne⟩, hsw, rfl⟩
        · exact .inr ⟨⟨s, .inl hs, hsw, rfl⟩, hne⟩
        · exact .inl rfl
        · exact .inr ⟨⟨s, .inr hs, hsw, rfl⟩, hne⟩
    · -- a live registration of watchers of this id becomes a lingering one
      rw [if_neg hw, h.watchers]
      simp only [Standing.step, if_neg hw, List.mem_append, List.mem_filter, List.mem_singleton,
        bne_iff_ne, Bool.and_eq_true, beq_iff_eq]
      constructor
      · rintro ⟨s, hs | hs, hsw, rfl⟩
        · by_cases hid : s.id = r.id
          · exact ⟨s, .inr (.inr ⟨hs, hid, hsw⟩), hsw, rfl⟩
          · exact ⟨s, .inl (.inl ⟨hs, hid⟩), hsw, rfl⟩
        · exact ⟨s, .inr (.inl hs), hsw, rfl⟩
      · rintro ⟨s, (⟨hs, -⟩ | rfl) | hs | ⟨hs, -⟩, hsw, rfl⟩
        · exact ⟨s, .inl hs, hsw, rfl⟩
        · exact absurd hsw hw
        · exact ⟨s, .inr hs, hsw, rfl⟩
        · exact ⟨s, .inl hs, hsw, rfl⟩
  · intro s hs
    simp only [Standing.step] at hs
    split at hs
    · exact h.lingering s (List.mem_filter.1 hs).1
    · rcases List.mem_append.1 hs with hs | hs
      · exact h.lingering s hs
      · exact (Bool.and_eq_true _ _ ▸ (List.mem_filter.1 hs).2).2

/-- Registrations are removed by their ids, the live and the lingering ones alike. -/
theorem remove (h : t.Reflects b) {gone : String → Bool} {live : List Registration}
    (hlive : ∀ r, r ∈ live ↔ r ∈ b.live ∧ gone r.id = false) :
    (t.remove gone).Reflects ⟨live, b.lingering.filter fun r => !gone r.id⟩ := by
  refine ⟨nodup_filter_keys h.nodup_methods, nodup_filter_keys h.nodup_watchers, ?_, ?_, ?_⟩
  · intro e
    simp only [RegistrationTable.remove, List.mem_filter, Bool.not_eq_true', h.methods, hlive]
    constructor
    · rintro ⟨⟨r, hr, rfl⟩, hgone⟩
      exact ⟨r, ⟨hr, hgone⟩, rfl⟩
    · rintro ⟨r, ⟨hr, hgone⟩, rfl⟩
      exact ⟨⟨r, hr, rfl⟩, hgone⟩
  · intro e
    simp only [RegistrationTable.remove, List.mem_filter, Bool.not_eq_true', h.watchers, hlive,
      ← or_and_right]
    constructor
    · rintro ⟨⟨r, hr, hw, rfl⟩, hgone⟩
      exact ⟨r, ⟨hr, hgone⟩, hw, rfl⟩
    · rintro ⟨r, ⟨hr, hgone⟩, hw, rfl⟩
      exact ⟨⟨r, hr, hw, rfl⟩, hgone⟩
  · intro r hr
    exact h.lingering r (List.mem_filter.1 hr).1

theorem any_id (h : t.Reflects b) (id : String) :
    (t.methods.any fun e => e.1 == id) = b.live.any (·.id == id) := by
  rw [Bool.eq_iff_iff, List.any_eq_true, List.any_eq_true]
  constructor
  · rintro ⟨e, he, hid⟩
    obtain ⟨r, hr, rfl⟩ := (h.methods e).1 he
    exact ⟨r, hr, hid⟩
  · rintro ⟨r, hr, hid⟩
    exact ⟨(r.id, r.subject), (h.methods _).2 ⟨r, hr, rfl⟩, hid⟩

/-- The ids that a method is registered under are those of its live registrations. -/
theorem elem_ids (h : t.Reflects b) (method : DynamicMethod) (id : String) :
    ((t.methods.filter fun e => e.2 == method).map (·.1)).elem id = b.drops method id := by
  rw [Bool.eq_iff_iff, List.elem_iff, List.mem_map]
  simp only [Standing.drops, List.any_eq_true, List.mem_filter, Bool.and_eq_true, beq_iff_eq,
    h.methods]
  constructor
  · rintro ⟨_, ⟨⟨r, hr, rfl⟩, hm⟩, rfl⟩
    exact ⟨r, hr, rfl, hm⟩
  · rintro ⟨r, hr, rfl, hm⟩
    exact ⟨(r.id, r.subject), ⟨⟨r, hr, rfl⟩, hm⟩, rfl⟩

theorem unregister (h : t.Reflects b) (u : Unregistration) :
    (t.unregister u).Reflects (b.step (.unregister u)) := by
  simp only [RegistrationTable.unregister, Standing.step, h.any_id]
  split
  · apply h.remove
    intro r
    rw [List.mem_filter, bne_iff_ne, beq_eq_false_iff_ne]
  · have hids := funext (h.elem_ids (.ofName u.method))
    rw [hids]
    apply h.remove
    intro r
    rw [List.mem_filter, bne_iff_ne, Standing.drops]
    refine and_congr_right fun hr => ?_
    constructor
    · intro hne
      rw [List.any_eq_false]
      intro s hs hsu
      obtain ⟨hid, hm⟩ := Bool.and_eq_true _ _ ▸ hsu
      exact hne ((h.subject_eq hr hs (eq_of_beq hid).symm).trans (eq_of_beq hm))
    · intro hkept hm
      refine List.any_eq_false.1 hkept r hr ?_
      rw [beq_self_eq_true, hm, beq_self_eq_true, Bool.and_self]

theorem step (h : t.Reflects b) (x : Step) : (t.step x).Reflects (b.step x) := by
  cases x with
  | register r => exact h.register r
  | unregister u => exact h.unregister u
  | clear => exact none

theorem run (steps : List Step) : (run steps).Reflects (Standing.run steps) := by
  have hfold : ∀ (steps : List Step) {t : RegistrationTable} {b : Standing}, t.Reflects b →
      (steps.foldl RegistrationTable.step t).Reflects (steps.foldl Standing.step b) := by
    intro steps
    induction steps with
    | nil => exact fun h => h
    | cons x steps ih => exact fun h => ih (h.step x)
  exact hfold steps none

theorem isRegistered_iff (h : t.Reflects b) (method : DynamicMethod) :
    t.isRegistered method = true ↔ ∃ r ∈ b.live, r.subject = method := by
  rw [RegistrationTable.isRegistered, List.any_eq_true]
  constructor
  · rintro ⟨e, he, hm⟩
    obtain ⟨r, hr, rfl⟩ := (h.methods e).1 he
    exact ⟨r, hr, eq_of_beq hm⟩
  · rintro ⟨r, hr, rfl⟩
    exact ⟨(r.id, r.subject), (h.methods _).2 ⟨r, hr, rfl⟩, beq_self_eq_true _⟩

theorem isEmpty_watchers_iff (h : t.Reflects b) :
    t.watchers.isEmpty = true ↔ (∀ r ∈ b.live, r.watches = false) ∧ b.lingering = [] := by
  rw [List.isEmpty_iff, List.eq_nil_iff_forall_not_mem, List.eq_nil_iff_forall_not_mem]
  constructor
  · intro hnone
    constructor
    · intro r hr
      rw [← Bool.not_eq_true]
      intro hw
      exact hnone _ ((h.watchers _).2 ⟨r, .inl hr, hw, rfl⟩)
    · intro r hr
      exact hnone _ ((h.watchers _).2 ⟨r, .inr hr, h.lingering r hr, rfl⟩)
  · rintro ⟨hlive, hlingering⟩ e he
    obtain ⟨r, hr | hr, hw, -⟩ := (h.watchers e).1 he
    · exact Bool.false_ne_true ((hlive r hr).symm.trans hw)
    · exact hlingering r hr

theorem shouldForward_iff (h : t.Reflects b) (path : Path) (change : FileChange) :
    t.shouldForward path change = true ↔
      ((∀ r ∈ b.live, r.watches = false) ∧ b.lingering = []) ∨
        (∃ r ∈ b.live, r.Accepts path change) ∨ ∃ r ∈ b.lingering, r.Accepts path change := by
  rw [shouldForward, Bool.or_eq_true, h.isEmpty_watchers_iff]
  refine or_congr_right ?_
  simp only [List.any_eq_true]
  constructor
  · rintro ⟨e, he, w, hw, hacc⟩
    obtain ⟨r, hr, hwatches, rfl⟩ := (h.watchers e).1 he
    exact hr.imp (fun hr => ⟨r, hr, hwatches, w, hw, hacc⟩) fun hr => ⟨r, hr, hwatches, w, hw, hacc⟩
  · rintro (⟨r, hr, hwatches, w, hw, hacc⟩ | ⟨r, hr, hwatches, w, hw, hacc⟩)
    · exact ⟨_, (h.watchers _).2 ⟨r, .inl hr, hwatches, rfl⟩, w, hw, hacc⟩
    · exact ⟨_, (h.watchers _).2 ⟨r, .inr hr, hwatches, rfl⟩, w, hw, hacc⟩

end Reflects

/-- A table knows the methods of the live registrations. It forwards a change exactly when no
watchers are live or linger, or some of the live or of the lingering ones accept it. -/
theorem run_answers (steps : List Step) :
    (∀ method, (run steps).isRegistered method = true ↔
      ∃ r ∈ (Standing.run steps).live, r.subject = method) ∧
    ∀ path change, (run steps).shouldForward path change = true ↔
      ((∀ r ∈ (Standing.run steps).live, r.watches = false) ∧
        (Standing.run steps).lingering = []) ∨
      (∃ r ∈ (Standing.run steps).live, r.Accepts path change) ∨
      ∃ r ∈ (Standing.run steps).lingering, r.Accepts path change :=
  ⟨(Reflects.run steps).isRegistered_iff, (Reflects.run steps).shouldForward_iff⟩

/-- The only live registration is for another method, and no change is forwarded. -/
example (path : Path) (change : FileChange) :
    (run [.register ⟨"w", "workspace/didChangeWatchedFiles", none⟩,
      .register ⟨"w", "textDocument/hover", none⟩]).shouldForward path change = false := by
  rfl

end RegistrationTable

end LanguageClient
