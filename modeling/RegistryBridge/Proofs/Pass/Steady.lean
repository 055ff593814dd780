import RegistryBridge.Proofs.Pass.Only
import RegistryBridge.Proofs.Program.Apart
/-!
# Steps that go by a part of the world

A step goes by a part of the world when each of its questions does: asked in worlds that agree in
this part, it is answered alike, leaves worlds that agree in it, and moves the world no further than
it may. One question may be answered differently and still be taken in the same way.

## Main definitions

* `Step.Steady`: such a step, with the values that it may end with.

## Main results

* `Step.Steady.bind`, and one rule for each way in which a step is made.
* `Step.Steady.registry_bind`: an answer that is taken in the same way.
-/

namespace RegistryBridge.Step

variable {α β σ : Type}

/-- **A step that goes by what agreeing states agree in.** -/
def Steady (answer : (question : Question) → σ → question.Answer × σ) (alike moves : σ → σ → Prop)
    (ends : α → Prop) (step : Step α) : Prop :=
  Program.Steady (I := Bridge) answer alike moves
    (fun result => ∀ value, result = .ok value → ends value) step.run

namespace Steady

variable {answer : (question : Question) → σ → question.Answer × σ} {alike moves : σ → σ → Prop}
  {ends : α → Prop}

theorem pure {value : α} (h : ends value) :
    (Pure.pure value : Step α).Steady answer alike moves ends := by
  rintro _ ⟨⟩
  exact h

theorem of {result : Except Failure α} (h : ∀ value, result = .ok value → ends value) :
    (Step.of result).Steady answer alike moves ends :=
  h

theorem fail (failure : Failure) : (Step.fail failure : Step α).Steady answer alike moves ends :=
  nofun

theorem bind {ends' : β → Prop} {step : Step α} {next : α → Step β}
    (first : step.Steady answer alike moves ends)
    (rest : ∀ value, ends value → (next value).Steady answer alike moves ends') :
    (step >>= next).Steady answer alike moves ends' := by
  refine Program.Steady.bind first fun result h => ?_
  cases result with
  | ok value => exact rest value (h value rfl)
  | error failure => exact nofun

theorem ite {p : Prop} [Decidable p] {step other : Step α}
    (yes : p → step.Steady answer alike moves ends)
    (no : ¬ p → other.Steady answer alike moves ends) :
    (if p then step else other).Steady answer alike moves ends := by
  split
  · exact yes ‹_›
  · exact no ‹_›

/-- A step is steady when each of its questions is. -/
theorem of_only {kind : Question → Prop} {step : Step α} (h : step.Only kind)
    (each : ∀ question, kind question → ∀ state other, alike state other →
      moves state (answer question state).2 ∧
        alike (answer question state).2 (answer question other).2 ∧
          (answer question state).1 = (answer question other).1) :
    step.Steady answer alike moves fun _ => True :=
  Program.Steady.mono (Program.Steady.of_only h each) fun _ _ _ _ => trivial

/-- A call that ends well gives what it was answered. -/
theorem of_mapError {ε γ : Type} {failure : ε → Failure} {reply : Except ε γ} {ends : γ → Prop}
    (told : ∀ value, reply = .ok value → ends value) :
    ∀ value, Except.mapError failure reply = .ok value → ends value := by
  intro value found
  cases reply with
  | error e => cases found
  | ok given =>
    obtain rfl := Except.ok.inj found
    exact told given rfl

/-- **A call of the cluster** that is answered alike, with what is known of its answer. -/
theorem cluster {call : ClusterCall} {failure : OperationError → Failure}
    {ends : call.Value → Prop}
    (each : ∀ state other, alike state other →
      moves state (answer (.cluster call) state).2 ∧
        alike (answer (.cluster call) state).2 (answer (.cluster call) other).2 ∧
          (answer (.cluster call) state).1 = (answer (.cluster call) other).1)
    (told : ∀ state other, alike state other → ∀ value,
      (answer (.cluster call) state).1 = .ok value → ends value) :
    (Step.cluster call failure).Steady answer alike moves ends :=
  Program.Steady.call each fun state other same => of_mapError (told state other same)

/-- **A call of the registry** that is answered alike, with what is known of its answer. -/
theorem registry {call : RegistryCall} {failure : RegistryError → Failure}
    {ends : Registry.Response call.Value → Prop}
    (each : ∀ state other, alike state other →
      moves state (answer (.registry call) state).2 ∧
        alike (answer (.registry call) state).2 (answer (.registry call) other).2 ∧
          (answer (.registry call) state).1 = (answer (.registry call) other).1)
    (told : ∀ state other, alike state other → ∀ response,
      (answer (.registry call) state).1 = .ok response → ends response) :
    (Step.registry call failure).Steady answer alike moves ends :=
  Program.Steady.call each fun state other same => of_mapError (told state other same)

/-- **A call of the registry whose answer is taken in the same way**, even if it is not the same
answer. -/
theorem registry_bind {call : RegistryCall} {failure : RegistryError → Failure}
    {next : Registry.Response call.Value → Step α}
    (each : ∀ state other, alike state other →
      moves state (answer (.registry call) state).2 ∧
        alike (answer (.registry call) state).2 (answer (.registry call) other).2 ∧
          ((answer (.registry call) state).1 = (answer (.registry call) other).1 ∨
            ∃ response response', (answer (.registry call) state).1 = .ok response ∧
              (answer (.registry call) other).1 = .ok response' ∧ next response = next response'))
    (rest : ∀ response, (next response).Steady answer alike moves ends) :
    (Step.registry call failure >>= next).Steady answer alike moves ends := by
  intro state other same
  obtain ⟨moved, still, answered⟩ := each state other same
  refine ⟨moved, still, ?_, ?_⟩
  · rcases answered with equal | ⟨response, response', found, found', taken⟩
    · rw [equal]
    · rw [found, found']
      exact congrArg ExceptT.run taken
  · cases (answer (.registry call) state).1 with
    | error e => exact nofun
    | ok response => exact rest response

end Steady

end RegistryBridge.Step
