import RegistryBridge.Pass.Connect
import RegistryBridge.Proofs.Pass.Step
/-!
# What a step asks at all

Some things are true of a pass whatever it is told, by an honest world or by any other one: which
questions it has at all. A step asks only questions of some kind when its parts do.

## Main definitions

* `Step.Only`: every question of a step is of some kind, whatever the step is told.
* `Pass.Opening`: the questions of the first steps of a pass.

## Main results

* `Step.Only.bind`, `Step.Only.all`, and one rule for each way in which a step is made.
* `Step.Only.always`: what questions of that kind keep, the step keeps.
-/

namespace RegistryBridge

variable {α β σ : Type} {kind : Question → Prop}

namespace Step

/-- **Every question of a step is of some kind**, whatever the step is told. -/
def Only (kind : Question → Prop) (step : Step α) : Prop :=
  Program.Only kind step.run

namespace Only

theorem mono {kind' : Question → Prop} {step : Step α} (h : step.Only kind)
    (wider : ∀ question, kind question → kind' question) : step.Only kind' :=
  Program.Only.mono h wider

theorem of (result : Except Failure α) : (Step.of result).Only kind :=
  trivial

theorem pure (value : α) : (Pure.pure value : Step α).Only kind :=
  trivial

theorem fail (failure : Failure) : (Step.fail failure : Step α).Only kind :=
  trivial

theorem cluster {call : ClusterCall} {failure : OperationError → Failure}
    (h : kind (.cluster call)) : (Step.cluster call failure).Only kind :=
  ⟨h, fun _ => trivial⟩

theorem registry {call : RegistryCall} {failure : RegistryError → Failure}
    (h : kind (.registry call)) : (Step.registry call failure).Only kind :=
  ⟨h, fun _ => trivial⟩

theorem tell {transition : Transition} {object : ObjectReference} {note : String}
    (h : kind (.publish (transition.event object note))) :
    (Step.tell transition object note).Only kind :=
  ⟨h, fun _ => trivial⟩

theorem bind {step : Step α} {next : α → Step β} (first : step.Only kind)
    (rest : ∀ value, (next value).Only kind) : (step >>= next).Only kind := by
  refine Program.Only.bind first fun result => ?_
  cases result with
  | ok value => exact rest value
  | error failure => trivial

theorem ite {p : Prop} [Decidable p] {step other : Step α} (yes : step.Only kind)
    (no : other.Only kind) : (if p then step else other).Only kind := by
  split
  · exact yes
  · exact no

/-- Steps that are all taken ask what each of them asks. -/
theorem all {l : List (Step Unit)} (each : ∀ step ∈ l, step.Only kind) :
    (Step.all l).Only kind := by
  induction l with
  | nil => trivial
  | cons step rest ih =>
    refine Program.Only.bind (each step (by simp)) fun _ => ?_
    exact Program.Only.bind (ih fun other mem => each other (by simp [mem])) fun _ => trivial

/-- **What questions of a kind keep, a step that has no others keeps**, however it ends. -/
theorem always {c : Conduct Bridge σ} {kept : σ → Prop} {step : Step α} {state : σ}
    (h : step.Only kind)
    (keeps : ∀ question state reply after, kind question →
      c.allows question state reply after → kept state → kept after)
    (start : kept state) :
    step.Always c (fun question _ => kind question) (fun _ after => kept after)
      (fun _ after => kept after) state := by
  refine Program.Always.mono (Program.Only.always h keeps start) (fun _ _ => id) ?_
  intro result after kept
  cases result with
  | ok value => exact kept
  | error failure => exact kept

end Only

end Step

/-- The integration that counts is the only one. -/
theorem Integration.eq_of_required {object : ObjectReference} {all : List Integration}
    {i : Integration} (h : required object all = .ok i) : all = [i] := by
  match all with
  | [] => cases h
  | [only] => exact congrArg (fun i => [i]) (Except.ok.inj h)
  | _ :: _ :: _ => cases h

namespace Pass

variable {object : ObjectReference} {spec : IntegrationSpec}

/-- **The questions of the first steps of a pass**: which integrations there are, what the secret
with the credentials holds, and the connection itself. -/
inductive Opening : Question → Prop
  | integrations : Opening (.cluster .listIntegrations)
  | credentials (ns name : String) : Opening (.cluster (.getSecret ns name))
  | connect (hostname token : String) (insecure : Bool) :
    Opening (.connect hostname token insecure)

theorem integration_only : (integration object).Only Opening :=
  .bind (.cluster .integrations) fun _ => .of _

theorem connect_only : (connect object spec).Only Opening := by
  unfold connect
  cases spec.credentials with
  | none => exact .fail _
  | some entry =>
    refine .bind (.cluster (.credentials ..)) fun found => ?_
    cases found with
    | none => exact .fail _
    | some secret =>
      dsimp only
      cases Credentials.token secret entry with
      | error e => exact .fail _
      | ok token => exact ⟨.connect .., fun _ => trivial⟩

end Pass

end RegistryBridge
