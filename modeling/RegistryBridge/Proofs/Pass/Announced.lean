import Mathlib.Data.List.Forall2
import Mathlib.Data.List.Induction
import RegistryBridge.Proofs.Pass.Loses
import RegistryBridge.Proofs.Pass.Script
/-!
# What a pass tells

Events are all that can be seen of a pass. A change is told when it has been completed: right after
the answer that says so, once, and nothing else is told of. A failure is told at the very end, once,
and a pass that does not fail tells of none.

## Main definitions

* `Exchange.completes`: the change that an exchange completes.
* `Announced`: transcripts in which every change that is completed is told of, and nothing else.
* `Failure.report`: the event about a failure, spelled out.
* `Reports`: what a pass has told, once it has ended.
* `Step.Announces`: a step that tells of the changes that it completes.

## Main results

* `Announced.warnings_eq_nil`, `Announced.notices`, `Announced.prompt`
* `Step.Announces.of_silent`, `Step.Announces.bind`: how such steps are put together.
* `Pass.reports`: a pass whose step announces what it completes tells of its failure, too.
-/

namespace RegistryBridge

/-! ## Events and the changes that they tell of -/

namespace Exchange

/-- The event that has been published. -/
def event? (e : Exchange Bridge) : Option Event :=
  match e.query with
  | .publish event => some event
  | _ => none

/-- **The change that an exchange completes.** A finalizer has been put on a namespace; an
organization has been created or deleted, by the status that says so; a build has been marked as imported. -/
def completes : Exchange Bridge → Option Transition
  | ⟨.cluster (.holdFinalizer ..), (.ok _ : Except OperationError Unit)⟩ => some .namespaceManaged
  | ⟨.cluster (.noteBuild ..), (.ok _ : Except OperationError Unit)⟩ => some .imageImported
  | ⟨.registry (.createOrganization _),
      (.ok response : Except RegistryError (Registry.Response Unit))⟩ =>
    if response.status = 201 then some .organizationCreated else none
  | ⟨.registry (.deleteOrganization _),
      (.ok response : Except RegistryError (Registry.Response Unit))⟩ =>
    if response.status = 204 then some .organizationDeleted else none
  | _ => none

@[simp] theorem completes_published (event : Event) : (published event).completes = none := rfl

@[simp] theorem event?_published (event : Event) : (published event).event? = some event := rfl

end Exchange

namespace Transcript

/-- The events about failures. -/
def warnings (t : Transcript Bridge) : List Event :=
  (t.filterMap Exchange.event?).filter (·.warning)

/-- The events about changes. -/
def notices (t : Transcript Bridge) : List Event :=
  (t.filterMap Exchange.event?).filter (!·.warning)

/-- The changes that have been completed. -/
def completed (t : Transcript Bridge) : List Transition :=
  t.filterMap Exchange.completes

variable (t : Transcript Bridge) (e : Exchange Bridge)

theorem warnings_snoc : warnings (t ++ [e]) = warnings t ++ e.event?.toList.filter (·.warning) := by
  cases told : e.event? <;> simp [warnings, told]

theorem notices_snoc : notices (t ++ [e]) = notices t ++ e.event?.toList.filter (!·.warning) := by
  cases told : e.event? <;> simp [notices, told]

theorem completed_snoc : completed (t ++ [e]) = completed t ++ e.completes.toList := by
  cases completes : e.completes <;> simp [completed, completes]

end Transcript

open Transcript (warnings notices completed)

/-! ## Transcripts in which what is completed is told -/

/-- **A transcript in which every change that is completed is told of**, right then, as one of an
object, and in which nothing else is told. An import is told of only where it was accepted before. -/
inductive Announced (object : ObjectReference) : Transcript Bridge → Prop
  | nil : Announced object []
  | silent {t : Transcript Bridge} {e : Exchange Bridge} (before : Announced object t)
    (mute : e.event? = none) (completes : e.completes = none) : Announced object (t ++ [e])
  | told {t : Transcript Bridge} {e : Exchange Bridge} {transition : Transition}
    (before : Announced object t) (completes : e.completes = some transition)
    (accepted : transition = .imageImported →
      ∃ request, .cluster (.createImport request) (.ok ()) ∈ t) (note : String) :
    Announced object (t ++ [e] ++ [.published (transition.event object note)])

namespace Announced

variable {object : ObjectReference} {t : Transcript Bridge}

/-- What completes a change is no event. -/
theorem mute_of_completes {e : Exchange Bridge} {transition : Transition}
    (completes : e.completes = some transition) : e.event? = none := by
  obtain ⟨question, reply⟩ := e
  cases question with
  | publish => cases completes
  | cluster | connect | registry => rfl

theorem of_silent {t : Transcript Bridge}
    (silent : ∀ e ∈ t, e.event? = none ∧ e.completes = none) : Announced object t := by
  induction t using List.reverseRecOn with
  | nil => exact .nil
  | append_singleton t e ih =>
    obtain ⟨before, last⟩ := List.forall_mem_append.mp silent
    obtain ⟨mute, completes⟩ := List.forall_mem_singleton.mp last
    exact (ih before).silent mute completes

/-- Nothing is told of a failure. -/
theorem warnings_eq_nil (h : Announced object t) : warnings t = [] := by
  induction h with
  | nil => rfl
  | silent _ mute _ ih => rw [Transcript.warnings_snoc, ih, mute]; rfl
  | told _ completes _ _ ih =>
    rw [Transcript.warnings_snoc, Transcript.warnings_snoc, ih, mute_of_completes completes]
    rfl

/-- **What is told of are the changes that have been completed**, in their order. -/
theorem notices (h : Announced object t) :
    List.Forall₂ (fun event transition => ∃ note, event = transition.event object note)
      (notices t) (completed t) := by
  induction h with
  | nil => exact .nil
  | silent _ mute completes ih =>
    rw [Transcript.notices_snoc, Transcript.completed_snoc, mute, completes]
    exact List.rel_append ih .nil
  | told _ completes _ note ih =>
    simp only [Transcript.notices_snoc, Transcript.completed_snoc, completes,
      mute_of_completes completes, Exchange.event?_published, Exchange.completes_published,
      Option.toList_none, Option.toList_some, List.filter_nil, List.append_nil]
    exact List.rel_append ih (.cons ⟨note, rfl⟩ .nil)

/-- **A change is told of when it has been completed**: by the answer just before. -/
theorem prompt (h : Announced object t) {front back : Transcript Bridge} {event : Event}
    (split : t = front ++ .published event :: back) :
    ∃ before e transition note, front = before ++ [e] ∧ e.completes = some transition ∧
      event = transition.event object note ∧ (transition = .imageImported →
        ∃ request, .cluster (.createImport request) (.ok ()) ∈ before) := by
  -- An event is the last exchange of a transcript, or one of an earlier transcript.
  induction h generalizing back with
  | nil => exact absurd split (by simp)
  | silent _ mute _ ih =>
    rcases snoc_eq_append_cons_iff.mp split with ⟨-, -, rfl⟩ | ⟨between, -, earlier⟩
    · cases mute
    · exact ih earlier
  | @told before e transition _ completes accepted note ih =>
    rcases snoc_eq_append_cons_iff.mp split with ⟨-, rfl, same⟩ | ⟨between, -, earlier⟩
    · obtain rfl : transition.event object note = event := by
        simpa using congrArg Exchange.event? same
      exact ⟨before, e, transition, note, rfl, completes, rfl, accepted⟩
    · rcases snoc_eq_append_cons_iff.mp earlier with ⟨-, -, rfl⟩ | ⟨between, -, earlier⟩
      · cases completes
      · exact ih earlier

end Announced

/-! ## What a pass has told once it has ended -/

namespace Failure

/-- **The note about a failure**, spelled out: the message, and all details in their order. -/
def wording (f : Failure) : String :=
  match f.details with
  | [] => f.message
  | details =>
    f.message ++ " - " ++ Text.join ", " (details.map fun (key, value) => key ++ ": " ++ value)

/-- **The event about a failure**, spelled out. -/
def report (object : ObjectReference) (f : Failure) : Event where
  object := object
  warning := true
  reason :=
    match f.kind with
    | .configuration => "ConfigurationError"
    | .processing => "ProcessingError"
    | .registry | .cluster | .internal => "Warning"
  action := "Reconcile"
  note := some f.wording

theorem join_ne_empty {sep first : String} (rest : List String) (written : first ≠ "") :
    Text.join sep (first :: rest) ≠ "" := by
  cases rest with
  | nil => exact written
  | cons second rest => simp [Text.join, written]

theorem note_eq_wording (f : Failure) : f.note = f.wording := by
  unfold note wording
  match f.details with
  | [] => rfl
  | (key, value) :: rest =>
    have written : key ++ ": " ++ value ≠ "" := by simp
    exact if_neg (join_ne_empty _ written)

theorem ofFailure_eq_report {object : ObjectReference} {f : Failure} (regards : f.object = object) :
    Event.ofFailure f = f.report object := by
  subst regards
  simp only [Event.ofFailure, report, note_eq_wording, Failure.reason, Event.reconcileAction]
  cases f.kind <;> rfl

end Failure

/-- **What a pass has told**, once it has ended. -/
structure Reports (object : ObjectReference) (result : Except Failure Action)
    (t : Transcript Bridge) : Prop where
  /-- A pass that fails has told of the failure, once, and of no other; one that succeeds of none. -/
  warned : warnings t = match result with
    | .ok _ => []
    | .error failure => [failure.report object]
  /-- A pass that fails is tried again after five seconds. -/
  again : ∀ failure, result = .error failure → failure.action = .requeue 5000
  /-- It has told of the changes that it has completed, in their order, and of no others. -/
  noticed : List.Forall₂ (fun event transition => ∃ note, event = transition.event object note)
    (notices t) (completed t)
  /-- It has told of each when it was completed: by the answer just before, and of an import only
  when that had been accepted, too. -/
  prompt : ∀ front event back, t = front ++ .published event :: back → event.warning = false →
    ∃ before e transition note, front = before ++ [e] ∧ e.completes = some transition ∧
      event = transition.event object note ∧ (transition = .imageImported →
        ∃ request, .cluster (.createImport request) (.ok ()) ∈ before)

namespace Reports

variable {object : ObjectReference} {t : Transcript Bridge}

theorem of_ok (h : Announced object t) (action : Action) : Reports object (.ok action) t where
  warned := h.warnings_eq_nil
  again := by rintro _ ⟨⟩
  noticed := h.notices
  prompt _ _ _ split _ := h.prompt split

theorem of_error (h : Announced object t) {failure : Failure} (ordinary : failure.Ordinary object) :
    Reports object (.error failure) (t ++ [.published (Event.ofFailure failure)]) where
  warned := by
    rw [Transcript.warnings_snoc, h.warnings_eq_nil, Failure.ofFailure_eq_report ordinary.regards]
    rfl
  again := by
    rintro _ ⟨⟩
    exact ordinary.again
  noticed := by
    rw [Transcript.notices_snoc, Transcript.completed_snoc]
    exact List.rel_append h.notices .nil
  prompt front event back split notice := by
    -- The last event is about the failure, so one about a change comes before it.
    rcases snoc_eq_append_cons_iff.mp split with ⟨-, -, same⟩ | ⟨between, -, earlier⟩
    · obtain rfl : Event.ofFailure failure = event := by simpa using congrArg Exchange.event? same
      cases notice
    · exact h.prompt earlier

end Reports

/-! ## Steps that tell of what they complete -/

/-- **A question that no change hangs on**, and that tells of none. -/
def Question.isSilent : Question → Bool
  | cluster (.holdFinalizer ..) | cluster (.noteBuild ..) | registry (.createOrganization _) |
    registry (.deleteOrganization _) | publish _ => false
  | _ => true

theorem Exchange.of_isSilent {e : Exchange Bridge} (silent : e.query.isSilent = true) :
    e.event? = none ∧ e.completes = none := by
  obtain ⟨question, reply⟩ := e
  cases question with
  | publish => cases silent
  | connect => exact ⟨rfl, rfl⟩
  | cluster call => cases call <;> first | exact ⟨rfl, rfl⟩ | cases silent
  | registry call => cases call <;> first | exact ⟨rfl, rfl⟩ | cases silent

variable {α β : Type} {object : ObjectReference} {step : Step α}

/-- **A step that tells of the changes that it completes**, whatever it is answered. -/
def Step.Announces (object : ObjectReference) (step : Step α) : Prop :=
  ∀ t, Announced object t →
    step.Always (.script Bridge) (fun _ _ => True) (fun _ after => Announced object after)
      (fun _ after => Announced object after) t

namespace Step.Announces

theorem of_silent (silent : step.Only fun question => question.isSilent = true) :
    step.Announces object := by
  intro t announced
  -- What has been told so far is the invariant: a silent exchange keeps it.
  have keeps : ∀ question t reply after, question.isSilent = true →
      (Conduct.script Bridge).allows question t reply after → Announced object t →
        Announced object after := by
    rintro question t reply _ silent rfl before
    obtain ⟨mute, completes⟩ := Exchange.of_isSilent (e := ⟨question, reply⟩) silent
    exact before.silent mute completes
  exact (silent.always keeps announced).mono (fun _ _ _ => trivial) (fun _ _ => id) fun _ _ => id

theorem pure (value : α) : (Pure.pure value : Step α).Announces object :=
  fun _ => id

theorem fail (failure : Failure) : (Step.fail failure : Step α).Announces object :=
  fun _ => id

theorem bind {next : α → Step β} (first : step.Announces object)
    (rest : ∀ value, (next value).Announces object) : (step >>= next).Announces object :=
  fun t announced => (always_bind step next).mpr ((first t announced).mono (fun _ _ => id)
    (fun value after => rest value after) fun _ _ => id)

theorem ite {p : Prop} [Decidable p] {other : Step α} (yes : step.Announces object)
    (no : other.Announces object) : (if p then step else other).Announces object := by
  split
  · exact yes
  · exact no

end Step.Announces

/-- A step is lost only with failures of its kind. -/
theorem Step.Always.losing {σ : Type} {c : Conduct Bridge σ} {asked : Question → σ → Prop}
    {ends : α → σ → Prop} {lost : Failure → σ → Prop} {state : σ} {may : Failure → Prop}
    (h : step.Always c asked ends lost state) (loses : step.Loses may) :
    step.Always c asked ends (fun failure after => lost failure after ∧ may failure) state := by
  have both := Program.Always.yielding h loses
  refine Program.Always.mono both (fun _ _ => id) fun result after => ?_
  cases result with
  | ok value => exact fun h => h.1
  | error failure => exact fun h => ⟨h.1, h.2 failure rfl⟩

/-- **A pass tells of the changes that it has completed, and of its failure**, when its step
announces what it completes. -/
theorem Pass.reports {step : Step Action} (announces : step.Announces object)
    (loses : step.Loses (Failure.Ordinary object)) :
    (reporting step).Always (.script Bridge) (fun _ _ => True) (Reports object) [] := by
  have step := (announces [] .nil).losing loses
  refine Pass.always_reporting_script (step.mono (fun _ _ => id) ?_ ?_)
  · exact fun action t announced => .of_ok announced action
  · exact fun failure t h => ⟨trivial, .of_error h.1 h.2⟩

end RegistryBridge
