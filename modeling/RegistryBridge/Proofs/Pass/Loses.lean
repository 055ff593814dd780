import RegistryBridge.Proofs.Pass.Only
/-!
# How a step may be lost

Some things are true of every failure that a pass may end with, whatever the pass is told: which
object the failure regards, and when it is tried again. A step is lost only so when its parts are.

## Main definitions

* `Step.Loses`: every failure of a step is of some kind, whatever the step is told.
* `Failure.Ordinary`: a failure that regards an object, and after which it is tried again.

## Main results

* `Step.Loses.bind`, `Step.Loses.all`, and one rule for each way in which a step is made.
* `Pass.reporting_only`: what a pass asks that reports its failure.
-/

namespace RegistryBridge

variable {α β : Type} {may : Failure → Prop}

namespace Step

/-- **Every failure of a step is of some kind**, whatever the step is told. -/
def Loses (may : Failure → Prop) (step : Step α) : Prop :=
  Program.Yields (fun result => ∀ failure, result = .error failure → may failure) step.run

namespace Loses

theorem of {result : Except Failure α} (h : ∀ failure, result = .error failure → may failure) :
    (Step.of result).Loses may :=
  h

theorem pure (value : α) : (Pure.pure value : Step α).Loses may := by
  rintro _ ⟨⟩

theorem fail {failure : Failure} (h : may failure) : (Step.fail failure : Step α).Loses may := by
  rintro _ ⟨⟩
  exact h

/-- A call is lost with the failure that its error leads to. -/
theorem mapError {ε γ : Type} {failure : ε → Failure} (h : ∀ e, may (failure e))
    (reply : Except ε γ) :
    ∀ lost, Except.mapError failure reply = .error lost → may lost := by
  cases reply with
  | ok value => rintro _ ⟨⟩
  | error e =>
    rintro _ ⟨⟩
    exact h e

theorem cluster {call : ClusterCall} {failure : OperationError → Failure}
    (h : ∀ e, may (failure e)) : (Step.cluster call failure).Loses may :=
  mapError h

theorem registry {call : RegistryCall} {failure : RegistryError → Failure}
    (h : ∀ e, may (failure e)) : (Step.registry call failure).Loses may :=
  mapError h

theorem tell (transition : Transition) (object : ObjectReference) (note : String) :
    (Step.tell transition object note).Loses may := by
  rintro _ _ ⟨⟩

theorem bind {step : Step α} {next : α → Step β} (first : step.Loses may)
    (rest : ∀ value, (next value).Loses may) : (step >>= next).Loses may := by
  refine Program.Yields.bind first fun result h => ?_
  cases result with
  | ok value => exact rest value
  | error failure =>
    rintro _ ⟨⟩
    exact h failure rfl

theorem ite {p : Prop} [Decidable p] {step other : Step α} (yes : step.Loses may)
    (no : other.Loses may) : (if p then step else other).Loses may := by
  split
  · exact yes
  · exact no

/-- Steps that are all taken are lost with the failure of one of them. -/
theorem all {l : List (Step Unit)} (each : ∀ step ∈ l, step.Loses may) : (Step.all l).Loses may := by
  induction l with
  | nil => rintro _ ⟨⟩
  | cons step rest ih =>
    refine Program.Yields.bind (each step (by simp)) fun result h => ?_
    refine Program.Yields.bind (ih fun other mem => each other (by simp [mem])) fun later h' => ?_
    cases result with
    | ok value => exact h'
    | error failure => exact h

end Loses

end Step

/-- **A failure that regards an object**, and after which the pass is tried again. -/
structure Failure.Ordinary (object : ObjectReference) (failure : Failure) : Prop where
  regards : failure.object = object
  again : failure.action = .requeue retryDelay

namespace Pass

variable {kind : Question → Prop} {object : ObjectReference} {spec : IntegrationSpec}

/-- **What a pass asks that reports its failure**: what its step asks, and the event about a failure
that the step may be lost with. -/
theorem reporting_only {step : Step Action} (asks : step.Only kind) (loses : step.Loses may)
    (reports : ∀ failure, may failure → kind (.publish (Event.ofFailure failure))) :
    (reporting step).Only kind := by
  refine Program.Only.bind_of_yields asks loses fun result h => ?_
  cases result with
  | ok action => trivial
  | error failure => exact ⟨reports failure (h failure rfl), fun _ => trivial⟩

theorem integration_loses : (integration object).Loses (Failure.Ordinary object) := by
  refine .bind (.cluster fun _ => ⟨rfl, rfl⟩) fun found => .of fun failure lost => ?_
  match found with
  | [] | _ :: _ :: _ =>
    cases lost
    exact ⟨rfl, rfl⟩
  | [only] => cases lost

theorem connect_loses : (connect object spec).Loses (Failure.Ordinary object) := by
  unfold connect
  cases spec.credentials with
  | none => exact .fail ⟨rfl, rfl⟩
  | some entry =>
    refine .bind (.cluster fun _ => ⟨rfl, rfl⟩) fun found => ?_
    cases found with
    | none => exact .fail ⟨rfl, rfl⟩
    | some secret =>
      dsimp only
      cases Credentials.token secret entry with
      | error e => exact .fail ⟨rfl, rfl⟩
      | ok token => exact Step.Loses.mapError fun _ => ⟨rfl, rfl⟩

end Pass

end RegistryBridge
