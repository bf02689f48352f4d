import LanguageClient.Proofs.Server.Demand
import LanguageClient.Proofs.Server.Propriety
import LanguageClient.Proofs.Task.Sparing
namespace LanguageClient

/-!
# Estates

A client from its beginning, when it has no servers yet, with all that is asked of it. The world may
do to it whatever it likes from outside as long as it keeps away from servers and routes.
-/

open Program

variable {E K : Type} {α : Type}

/-- Servers and routes are what is seen. -/
def Client.estateView : View (Client E) (Store Server × Routes) :=
  ⟨fun c => (c.servers, c.routes), fun _ _ => rfl⟩

theorem Client.mild_of_same {c c' : Client E} (h : Client.estateView.Same c c') : c.Mild c' :=
  .of_eq (congrArg Prod.fst h) (congrArg Prod.snd h)

/-- The program leaves servers and routes alone. -/
abbrev Prog.Discreet (p : Prog E K α) : Prop := p.Spares Client.estateView

theorem Prog.Discreet.proper {p : Prog E K α} (h : p.Discreet) {C : Custom (Client E) (Job K)}
    (hsame : ∀ {c c' : Client E}, Client.estateView.Same c c' → C.Quiet c c') : p.Proper C :=
  Spares.follows h hsame

structure Providers.Discreet (net : Providers (Client E) (Job K)) : Prop where
  acquire (definition : ServerDefinition) (root : Path) :
    Prog.Discreet (net.acquire definition root)
  start (provider : ProviderId) : Prog.Discreet (net.start provider)
  stop (provider : ProviderId) : Prog.Discreet (net.stop provider)
  release (definition : ServerDefinition) (root : Path) :
    Prog.Discreet (net.release definition root)

theorem Providers.Discreet.proper {net : Providers (Client E) (Job K)} (h : net.Discreet)
    {C : Custom (Client E) (Job K)}
    (hsame : ∀ {c c' : Client E}, Client.estateView.Same c c' → C.Quiet c c') : net.Proper C where
  acquire definition root := (h.acquire definition root).proper hsame
  start provider := (h.start provider).proper hsame
  stop provider := (h.stop provider).proper hsame
  release definition root := (h.release definition root).proper hsame

/-! ## Wishes -/

section

variable {C : Custom (Client E) (Job K)} (hC : C.Civil)

namespace Errand

theorem proper_discard {p : Prog E K α} (h : p.Proper C) : Prog.Proper C (discard p) := by
  rw [discard_eq_bind]
  exact h.bind fun _ => follows_done _

theorem proper_reach {s : ServerId} {millis : Nat} {p : Access → Prog E K Unit}
    (h : ∀ a, (p a).Proper C) : Prog.Proper C (reach s millis p) := by
  refine (follows_read _).bind fun access => ?_
  cases access with
  | none => exact follows_done _
  | some a => exact (follows_sleep millis).bind fun _ => h a

include hC

theorem proper_run (e : Errand) : Prog.Proper C (e.run : Prog E K Unit) := by
  have hfileChanged := Routing.proper_fileChanged hC
  have hpathChanged := Routing.proper_pathChanged hC
  replace hC := hC.lenient
  cases e with
  | edit d change => exact Session.follows_edit hC d change
  | changed s change => exact Session.follows_tellChanged hC s change
  | saved s => exact Session.follows_tellSaved hC s
  | willSave s reason => exact Session.follows_tellWillSave hC s reason
  | applyEdits s edits version =>
      exact proper_discard (Session.follows_applyEdits hC s edits version)
  | applyEdit e => exact proper_discard (WorkspaceEdit.follows_apply hC e)
  | completion s offset => exact proper_discard (Session.follows_completion hC s offset)
  | resolveCompletion s entry => exact proper_discard (Session.follows_resolveCompletion hC s entry)
  | applyCompletion s entry caret =>
    exact proper_discard (Session.follows_applyCompletion hC s entry caret)
  | execute s commands => exact Session.follows_execute hC s commands
  | hover s offset => exact proper_discard (Session.follows_hover hC s offset)
  | signature s offset => exact proper_discard (Session.follows_signature hC s offset)
  | references s offset => exact proper_discard (Session.follows_documentReferences hC s offset)
  | definition s offset => exact proper_discard (Session.follows_definition hC s offset)
  | caretMoved s offset => exact Session.follows_caretMoved hC s offset
  | symbols s => exact proper_discard (Session.follows_ask hC s _ _ _)
  | canRename s offset => exact proper_discard (Session.follows_canRename hC s offset)
  | rename s offset name => exact proper_discard (Session.follows_rename hC s offset name)
  | format s options => exact proper_discard (Session.follows_format hC s options)
  | formatRange s start stop options =>
    exact proper_discard (Session.follows_formatRange hC s start stop options)
  | typed s offset text => exact Session.follows_characterTyped hC s offset text
  | codeActions s start stop => exact proper_discard (Session.follows_codeActions hC s start stop)
  | applyAction s action => exact proper_discard (Session.follows_applyAction hC s action)
  | lenses s | links s => exact proper_discard (Session.follows_listResolved hC s _ _ _)
  | fileChanged uri change => exact hfileChanged uri change
  | pathChanged path change => exact hpathChanged path change
  | search root query kinds => exact proper_discard (Routing.follows_symbols hC root query kinds)
  | tell s millis f params => exact proper_reach fun a => a.follows_tell hC f params
  | ask s millis kind f params =>
    exact proper_reach fun a => proper_discard (a.follows_ask hC kind f params)

end Errand

end

/-- What a client may be asked for. -/
inductive Wish where
  | opened (d : OpenDocument)
  | closed (uri : String)
  | force (d : OpenDocument) (definition : ServerDefinition)
  | releaseAll
  | setDefinitions (definitions : List ServerDefinition)
  | shutDown
  | start (s : ServerId)
  | stop (s : ServerId)
  | restart (s : ServerId)
  | connect (s : ServerId) (d : OpenDocument)
  | disconnect (s : ServerId) (uri : String)
  | reportCrash (s : ServerId) (e : ClientError)
  | errand (e : Errand)

namespace Wish

variable {net : Providers (Client E) (Job K)}

def run (net : Providers (Client E) (Job K)) : Wish → Prog E K Unit
  | opened d => Routing.opened net d
  | closed uri => Routing.closed net uri
  | force d definition => Routing.force net d definition
  | releaseAll => Routing.releaseAll net
  | setDefinitions definitions => Routing.setDefinitions net definitions
  | shutDown => Routing.shutDown net
  | start s => Server.start net s
  | stop s => Server.stop net s
  | restart s => Server.restart net s
  | connect s d => Server.connect net s d
  | disconnect s uri => Server.disconnect net s uri
  | reportCrash s e => Server.reportCrash net s e
  | errand e => e.run

theorem proper_run {C : Custom (Client E) (Job K)} (hC : C.Civil) (hnet : net.Proper C)
    (wish : Wish) : Prog.Proper C (wish.run net) := by
  cases wish with
  | opened d => exact Routing.proper_opened hC hnet d
  | closed uri => exact Routing.proper_disconnect hC hnet uri
  | force d definition => exact Routing.proper_force hC hnet d definition
  | releaseAll => exact Routing.proper_releaseAll hC hnet
  | setDefinitions definitions => exact Routing.proper_setDefinitions hC hnet definitions
  | shutDown => exact Routing.proper_shutDown hC hnet
  | start s => exact Server.proper_start hC hnet s
  | stop s => exact Server.proper_stop hC hnet s
  | restart s => exact Server.proper_restart hC hnet s
  | connect s d => exact Server.proper_connect hC hnet s d
  | disconnect s uri => exact Server.proper_disconnect hC hnet s uri
  | reportCrash s e => exact Server.proper_reportCrash hC hnet s e
  | errand e => exact e.proper_run hC

end Wish

/-! ## The hall of a client -/

abbrev Estate (E K : Type) := Hall (Client E) (Job K) fun _ : Wish => Unit

namespace Estate

variable {net : Providers (Client E) (Job K)} {outside : K → Prog E K Unit} {c d : Estate E K}
  {past : List (Moment (Client E) (Job K))}

/-- What may happen in an estate. -/
def rules (net : Providers (Client E) (Job K)) :
    Hall.Rules (Client E) (Job K) fun _ : Wish => Unit where
  call := Wish.run net
  mayStart job := ∃ k, job = .outside k
  outside := Client.estateView.Same

/-- An estate at the beginning: no servers, and nobody is at work. -/
structure New (net : Providers (Client E) (Job K)) (outside : K → Prog E K Unit)
    (c : Estate E K) : Prop where
  servers : c.world.servers.entries = []
  listed : c.world.routes.servers = []
  tasks : c.runtime.tasks = []
  calls : c.calls = []
  perform_eq : c.runtime.perform = Job.perform net outside

/-- What a custom of clients keeps is kept in every walk. -/
theorem New.keeps (hc : New net outside c) (hnet : net.Discreet)
    (houtside : ∀ k, (outside k).Discreet) (w : Hall.Walk (rules net) c past d)
    {C : Custom (Client E) (Job K)} (hC : C.Civil)
    (hsame : ∀ {c c' : Client E}, Client.estateView.Same c c' → C.Quiet c c')
    {I : List (Moment (Client E) (Job K)) → Client E → Prop} (hI : C.Keeps I)
    (h : I [] c.world) : I past d.world := by
  have hnet : net.Proper C := hnet.proper hsame
  have hrules : (rules net).Follow C := ⟨fun wish => wish.proper_run hC hnet, hsame⟩
  have hfollows : Hall.Follows C c := by
    refine ⟨⟨fun job => ?_, ?_⟩, ?_⟩
    · rw [hc.perform_eq]
      exact job.proper_perform hC hnet fun k => (houtside k).proper hsame
    · rw [hc.tasks]
      exact List.forall_mem_nil _
    · rw [hc.calls]
      exact List.forall_mem_nil _
  exact w.keeps hI hrules hfollows h

/-! ## A client with three definitions -/

/-- The definition of the files of one extension. -/
def dialect (extension : Char) : ServerDefinition :=
  .new [extension] (.executable ['s', 'h'] [])

def document (extension : Char) : OpenDocument :=
  ⟨"file:///x." ++ extension.toString, ['/', 'x', '.', extension], ['/'], 0⟩

def settlement (net : Providers (Client Unit) (Job Unit)) : Estate Unit Unit where
  runtime :=
    { world :=
        { Client.new () with
          routes :=
            { Routes.empty with definitions := Routes.flatten (['f', 'g', 'h'].map dialect) } }
      tasks := []
      nextId := 1
      perform := Job.perform net fun _ => .done () }
  calls := []

abbrev settlementRules (net : Providers (Client Unit) (Job Unit)) :
    Hall.Rules (Client Unit) (Job Unit) fun _ : Wish => Unit := rules net

theorem new_settlement (net : Providers (Client Unit) (Job Unit)) :
    New net (fun _ => .done ()) (settlement net) := ⟨rfl, rfl, rfl, rfl, rfl⟩

end Estate

end LanguageClient
