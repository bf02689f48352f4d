import LanguageClient.Proofs.Transport.Reading
import LanguageClient.Stub.Rehearsal
namespace LanguageClient

/-!
# Stages

A link in a hall from its first moment on: a task reads, the client calls for requests,
notifications and the end of the link, and jobs use it besides. Every run keeps the discipline. The
link of a rehearsal, with the table of answers, the record of what was heard and the calls whose
outcomes are kept, is among tasks that use it as they are meant to.
-/

open Function (update)

/-- What a link is called for. -/
inductive Link.Call where
  | request (method : String) (params : Json)
  | notify (method : String) (params : Json)
  | close

namespace Link.Call

def Out : Link.Call → Type
  | request _ _ => Except ClientError Json
  | notify _ _ => Except ClientError Unit
  | close => Unit

def program {W J : Type} [HasWiring W] (l : LinkId) : (name : Link.Call) → Program W J name.Out
  | request method params => Link.request l method params
  | notify method params => Link.notify l method params
  | close => Link.close l

end Link.Call

namespace Link.Setting

variable {W J : Type} [HasWiring W] (S : Setting W J)

/-- Calls and jobs begin at any time, and the world may change as long as the link is left alone. -/
def rules : Hall.Rules W J Call.Out := ⟨Call.program S.link, S.mayStart, S.Aside⟩

/-- The link is new: a task is about to read, and nothing has been written. -/
structure Fresh (c : Hall W J Call.Out) : Prop where
  link : ∃ reader, (HasWiring.wiring c.world).links.get? S.link =
    some { Link.new S.input S.output with reader }
  carried_eq : (HasWiring.wiring c.world).carried S.output = []
  reports_eq : S.reports c.world = []
  perform_eq : c.runtime.perform = S.perform
  calls_eq : c.calls = []
  tasks : ∃ id others, c.runtime.tasks =
      ⟨id, Link.readAll S.handler S.job S.link, [], false⟩ :: others ∧
    ∀ task ∈ others, S.Polite task.program ∧ task.scopes = []
  nodup : c.ids.Nodup
  lt : ∀ t ∈ c.ids, t < c.runtime.nextId

/-- What is known of a call that has come to its value. -/
def Comes (t : TaskId) : (name : Call) → Local W J → name.Out → Prop
  | .request _ _, ℓ, o => ∀ past, ℓ.knows past → S.Verdict t past o
  | .notify _ _, _, _ => True
  | .close, ℓ, _ => ∀ past, ℓ.knows past → ∃ m ∈ past, S.Closed m.after

variable {S} [LawfulWiring W] {hS : S.Lawful} {past : List (Moment W J)}
  {visited : List (Hall W J Call.Out)} {c d : Hall W J Call.Out}

theorem admits (hS : S.Lawful) [Nonempty W] : (S.discipline hS).Admits S.Comes S.rules where
  call name t := by
    have hidle : (Local.idle : Local W J).Rests := (S.discipline hS).rests_idle
    cases name with
    | request method params =>
        exact (fine_request method params rfl rfl).mono (fun _ => hidle.learns)
          fun _ _ h => ⟨hidle.learns h.1, h.2⟩
    | notify method params =>
        exact (fine_notify method params rfl).mono (fun _ => hidle.learns)
          fun _ _ h => ⟨hidle.learns h, trivial⟩
    | close =>
        exact (fine_close rfl).mono (fun _ => hidle.learns) fun _ _ h => ⟨hidle.learns h.1, h.2⟩
  job := id
  outside ha h := Holds.aside h ha

/-- One task reads, and the others are idle. -/
def beginning (W J : Type) (reader : TaskId) : TaskId → Local W J :=
  update (fun _ => Local.idle) reader { Local.idle with quiet := true }

omit [HasWiring W] [LawfulWiring W] in
theorem beginning_rests (reader t : TaskId) : (beginning W J reader t).Rests := by
  unfold beginning
  by_cases ht : t = reader
  · subst ht
    rw [Function.update_self]
    exact ⟨rfl, rfl⟩
  · rw [Function.update_of_ne ht]
    exact ⟨rfl, rfl⟩

omit [LawfulWiring W] in
theorem Fresh.holds (h : S.Fresh c) (reader : TaskId) :
    S.Holds [] (beginning W J reader) c.world := by
  obtain ⟨task, hlink⟩ := h.link
  have hstate : S.state c.world = { Link.new S.input S.output with reader := task } := by
    unfold state Wiring.link Store.get
    rw [hlink]
    rfl
  have hhand (t : TaskId) : (beginning W J reader t).hand = .away := (beginning_rests reader t).1
  have hstake (t : TaskId) : (beginning W J reader t).stake = none := (beginning_rests reader t).2
  have hquiet {t : TaskId} (ht : (beginning W J reader t).quiet = true) : t = reader := by
    by_contra hne
    simp [beginning, hne, Local.idle] at ht
  refine ⟨by rw [hlink]; rfl, congrArg Link.input hstate, ?_, ?_, ?_, nofun, nofun, .nil, fun t later => ?_⟩
  · rw [hstate]
    refine ⟨.inr rfl, ⟨fun ⟨t, ht⟩ => absurd (hhand t) ht, nofun⟩, fun ht => absurd (hhand _) ht,
      fun _ => ?_⟩
    refine ⟨[], [], h.carried_eq, .inr (.inl ⟨rfl, fun t m rest ht => ?_⟩)⟩
    exact nomatch (hhand t).symm.trans ht
  · rw [hstate]
    exact {
      ids := .nil
      promises := .nil
      lt_length := nofun
      unkept := nofun
      staked := nofun
      stake := fun {t e} ht => nomatch (hstake t).symm.trans ht
      apart := fun {t _ _ _} ht => nomatch (hstake t).symm.trans ht
      lt_nextId := fun {t e} ht => nomatch (hstake t).symm.trans ht
      entered := fun {t e} ht => nomatch (hstake t).symm.trans ht }
  · exact ⟨fun ht hu => (hquiet ht).trans (hquiet hu).symm, fun _ => h.reports_eq,
      fun hne => absurd h.reports_eq hne⟩
  · unfold beginning
    by_cases ht : t = reader
    · subst ht
      simp [Local.idle]
    · simp [ht, Local.idle]

theorem Fresh.sound (h : S.Fresh c) [Nonempty W] (n : Nat) :
    ∃ g, (S.discipline hS).Sound S.Comes n [] c g := by
  obtain ⟨reader, others, htasks, hothers⟩ := h.tasks
  have hreader : beginning W J reader reader = { Local.idle with quiet := true } :=
    Function.update_self ..
  have hne {t : TaskId} (ht : t ≠ reader) : beginning W J reader t = Local.idle :=
    Function.update_of_ne ht ..
  have hpolite {p : Program W J Unit} (hp : S.Polite p) (t : TaskId) :
      (S.discipline hS).Fine t Local.Rests (fun ℓ _ => Local.Rests ℓ) Local.idle p := by
    have hidle : (Local.idle : Local W J).Rests := ⟨rfl, rfl⟩
    exact (hp.keeps Local.idle hidle).mono (fun _ => hidle.learns) fun _ _ => hidle.learns
  have hids : c.ids = reader :: others.map Task.id := by
    simp [Hall.ids, htasks, h.calls_eq]
  refine ⟨beginning W J reader, h.holds reader, ?_, ?_, h.nodup, h.lt, fun t ht => ?_, ?_⟩
  · intro task htask
    rw [htasks] at htask
    rcases List.mem_cons.1 htask with rfl | hother
    · dsimp only
      rw [hreader]
      exact fine_readAll ⟨rfl, rfl⟩ rfl n
    · obtain ⟨hp, hscopes⟩ := hothers task hother
      have htr : task.id ≠ reader := by
        rintro rfl
        have hnodup := h.nodup
        rw [hids] at hnodup
        exact (List.nodup_cons.1 hnodup).1 (List.mem_map_of_mem hother)
      rw [hne htr, hscopes]
      exact hpolite hp task.id n
  · rw [h.calls_eq]
    exact List.forall_mem_nil _
  · refine hne ?_
    rintro rfl
    exact ht (by simp [hids])
  · rw [h.perform_eq]
    exact fun job hjob t => hpolite (hS.perform hjob) t

/-- After a run from a new link, every hall is sound. -/
theorem Fresh.run (h : S.Fresh c) (hS : S.Lawful) (r : Hall.Run S.rules c visited past d) (n : Nat) :
    ∃ g, (S.discipline hS).Sound S.Comes n past d g := by
  have : Nonempty W := ⟨c.world⟩
  exact Discipline.sound_run (admits hS) h.sound r n

end Link.Setting

/-! ## Rehearsals -/

namespace Rehearsal

open Link.Setting (Polite)

instance : LawfulWiring Rehearsal := ⟨fun _ _ => rfl, fun _ => rfl⟩

/-- The disconnects on the record. -/
def disconnects (r : Rehearsal) : List ClientError :=
  r.heard.filterMap fun h => match h with
    | .disconnect e => some e
    | _ => none

def note (e : ClientError) (r : Rehearsal) : Rehearsal :=
  { r with heard := r.heard ++ [.disconnect e] }

/-- The jobs around a link, but for the task that reads. -/
def around (link : LinkId) : Job → Prop
  | .readAll _ => False
  | .answer l _ _ _ => l = link
  | .call l _ _ _ => l = link
  | .drain _ => True

def stage (link : LinkId) (input output : PipeId) : Link.Setting Rehearsal Job where
  link
  input
  output
  handler
  job := .answer link
  perform
  mayStart := around link
  reports := disconnects
  note

variable {link : LinkId} {input output : PipeId} {α β : Type}

/-- What the link does not notice is done without a wait. -/
theorem polite_act {f : Rehearsal → Rehearsal × β} {k : β → Script α}
    (hwiring : ∀ r, (f r).1.wiring = r.wiring) (hheard : ∀ r, (f r).1.disconnects = r.disconnects)
    (hk : ∀ b, (stage link input output).Polite (k b)) :
    (stage link input output).Polite ((Program.act f).bind k) := by
  refine Polite.await (fun _ r => ?_) (fun _ r => Link.Setting.Unseen.refl r) hk
  have hw : HasWiring.wiring (f r).1 = HasWiring.wiring r := hwiring r
  exact {
    link_eq := by rw [hw]
    carried_eq := by rw [hw]
    takes := fun h => by rwa [hw] at h
    length_le := Nat.le_of_eq (by rw [hw])
    outcome_pending := fun _ => by rw [hw]
    outcome_kept := fun h => by rwa [hw]
    reports_eq := hheard r }

theorem polite_hear {h : Heard} {k : Unit → Script α} (hh : ∀ e, h ≠ .disconnect e)
    (hk : ∀ b, (stage link input output).Polite (k b)) :
    (stage link input output).Polite ((hear h).bind k) := by
  refine polite_act (fun _ => rfl) (fun r => ?_) hk
  unfold disconnects
  rw [List.filterMap_append]
  cases h with
  | disconnect e => exact absurd rfl (hh e)
  | _ => exact List.append_nil _

theorem polite_answer (id : RequestId) (method : String) (params : Json) :
    (stage link input output).Polite (Link.answer handler link id method params) := by
  have hhear : Link.answer handler link id method params =
      (hear (.request method params)).bind fun _ =>
        (Program.read (·.answerTo method)).bind fun outcome =>
          (Link.send link (.response id outcome)).bind fun _ => .done () := rfl
  rw [hhear]
  refine polite_hear (fun e => nofun) fun _ => ?_
  refine polite_act (fun _ => rfl) (fun _ => rfl) fun outcome => ?_
  exact Polite.send (S := stage link input output) fun _ => .done ()

theorem polite_call (method : String) (params : Json) (tag : String) :
    (stage link input output).Polite (perform (.call link method params tag)) := by
  refine Polite.request (S := stage link input output) fun outcome => ?_
  exact polite_act (k := .done)
    (f := fun r => ({ r with finished := r.finished.filter (fun f => f.1 != tag) ++ [(tag, outcome)] }, ()))
    (fun _ => rfl) (fun _ => rfl) fun _ => .done ()

/-- The far end takes everything off a pipe. -/
theorem perform_drain (p : PipeId) : perform (.drain p) = (Program.iterate () fun _ =>
    (Program.receive p).bind fun bytes => match bytes with
      | some _ => .done (.inl ())
      | none => .done (.inr ())).bind .done := rfl

theorem polite_drain (p : PipeId) : (stage link input output).Polite (perform (.drain p)) := by
  rw [perform_drain]
  refine Polite.iterate (fun _ => ?_) .done
  refine Polite.await (fun t r => ?_) (fun _ r => Link.Setting.Unseen.refl r) fun bytes => ?_
  · have htakes := r.wiring.takes_receive p output t
    exact (Link.Setting.unseen_setWiring (by rfl) (by rfl) (by rfl) (by rfl) htakes).toAside
  · cases bytes <;> exact .done _

theorem lawful (h : input ≠ output) : (stage link input output).Lawful where
  reports_setWiring _ _ := rfl
  input_ne := h
  onNotification method params :=
    polite_hear (h := .notification method params) (k := .done) (fun e => nofun) fun _ => .done ()
  onDisconnect e := .inr ⟨.done, rfl, .done ()⟩
  wiring_note _ _ := rfl
  reports_note e r := List.filterMap_append
  perform {job} hjob := by
    cases job with
    | readAll l => exact hjob.elim
    | answer l id method params =>
        obtain rfl : l = link := hjob
        exact polite_answer id method params
    | call l method params tag =>
        obtain rfl : l = link := hjob
        exact polite_call method params tag
    | drain p => exact polite_drain p
  answer id method params := rfl

/-- The far end has written bytes. -/
def fed (p : PipeId) (bytes : Bytes) (r : Rehearsal) : Rehearsal :=
  { r with wiring := { r.wiring with
      pipes := r.wiring.pipes.update p fun pipe => { pipe with content := pipe.content ++ bytes } } }

theorem aside_fed (h : input ≠ output) (bytes : Bytes) (r : Rehearsal) :
    (stage link input output).Aside r (fed input bytes r) := by
  have hget : (r.wiring.pipes.update input fun pipe =>
      { pipe with content := pipe.content ++ bytes }).get output = r.wiring.pipes.get output :=
    Store.get_update_ne _ _ h
  refine (Link.Setting.unseen_setWiring (v := (fed input bytes r).wiring) rfl rfl rfl rfl ?_).toAside
  change Wiring.takes _ output = _
  unfold Wiring.takes
  rw [show (fed input bytes r).wiring.pipes.get output = _ from hget]
  rfl

/-- A link that has just begun, with an output of any kind. -/
def opening (output : Pipe) : Hall Rehearsal Job Link.Call.Out where
  runtime :=
    { world :=
        { wiring :=
            { Wiring.empty with
              pipes := ⟨[Pipe.open_, output]⟩
              links := ⟨[{ Link.new 0 1 with reader := some 1 }]⟩ }
          answers := []
          heard := []
          finished := [] }
      tasks := [⟨1, Link.readAll handler (.answer 0) 0, [], false⟩]
      nextId := 2
      perform }
  calls := []

theorem fresh_opening (output : Pipe) : (stage 0 0 1).Fresh (opening output) where
  link := ⟨some 1, rfl⟩
  carried_eq := rfl
  reports_eq := rfl
  perform_eq := rfl
  calls_eq := rfl
  tasks := ⟨1, [], rfl, nofun⟩
  nodup := List.nodup_singleton 1
  lt t ht := by
    obtain rfl : t = 1 := List.mem_singleton.1 ht
    exact Nat.lt_succ_self 1

end Rehearsal

end LanguageClient
