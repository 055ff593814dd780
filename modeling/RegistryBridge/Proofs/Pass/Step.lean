import Mathlib.Logic.Relation
import RegistryBridge.Pass.Basic
import RegistryBridge.Proofs.Program.Conduct
/-!
# Steps of a pass, whatever they are answered

A step ends with a value or loses the pass. Both ends are followed through the step's parts: what is
bound is taken up where the first part ends with a value, and a lost pass stays lost.

## Main definitions

* `Step.Always`: what a step asks and how it ends, whatever the system answers.

## Main results

* `Step.always_bind`, and one rule for each way in which a step is made.
* `Step.Always.all`: steps that are all taken; what each of them achieves survives the later ones.
* `Pass.always_reporting`: a reported pass ends as its step does.
-/

namespace RegistryBridge

variable {α β σ : Type}

namespace Step

/-- **Whatever the system answers**, a step asks only where it may, ends with a value only as `ends`
says, and loses the pass only as `lost` says. -/
def Always (c : Conduct Bridge σ) (asked : Question → σ → Prop) (ends : α → σ → Prop)
    (lost : Failure → σ → Prop) (step : Step α) (state : σ) : Prop :=
  Program.Always c asked
    (fun result after => match result with
      | .ok value => ends value after
      | .error failure => lost failure after)
    step.run state

variable {c : Conduct Bridge σ} {asked : Question → σ → Prop} {ends : α → σ → Prop}
  {lost : Failure → σ → Prop} {state : σ}

theorem Always.mono {asked' : Question → σ → Prop} {ends' : α → σ → Prop}
    {lost' : Failure → σ → Prop} {step : Step α} (h : step.Always c asked ends lost state)
    (hasked : ∀ question state, asked question state → asked' question state)
    (hends : ∀ value state, ends value state → ends' value state)
    (hlost : ∀ failure state, lost failure state → lost' failure state) :
    step.Always c asked' ends' lost' state := by
  refine Program.Always.mono h hasked fun result after => ?_
  cases result with
  | ok value => exact hends value after
  | error failure => exact hlost failure after

/-- The two ends of a step, told apart by its result. -/
theorem Always.result {step : Step α} (h : step.Always c asked ends lost state) :
    Program.Always c asked
      (fun result after => (∀ value, result = .ok value → ends value after) ∧
        ∀ failure, result = .error failure → lost failure after)
      step.run state := by
  refine Program.Always.mono h (fun _ _ => id) ?_
  intro result after ended
  constructor
  · rintro value rfl
    exact ended
  · rintro failure rfl
    exact ended

/-- **A step behind another one** is taken up where the first ends with a value. -/
theorem always_bind {ends : β → σ → Prop} (step : Step α) (next : α → Step β) :
    (step >>= next).Always c asked ends lost state ↔
      step.Always c asked (fun value after => (next value).Always c asked ends lost after) lost
        state := by
  refine (Program.always_bind step.run _ state).trans ⟨?_, ?_⟩
  all_goals
    intro run
    refine Program.Always.mono run (fun _ _ => id) fun result after => ?_
    cases result with
    | ok value => exact id
    | error failure => exact id

@[simp] theorem always_pure (value : α) :
    (pure value : Step α).Always c asked ends lost state ↔ ends value state := Iff.rfl

@[simp] theorem always_of (result : Except Failure α) :
    (of result).Always c asked ends lost state ↔
      match result with
      | .ok value => ends value state
      | .error failure => lost failure state := by
  cases result <;> rfl

@[simp] theorem always_fail (failure : Failure) :
    (fail failure : Step α).Always c asked ends lost state ↔ lost failure state := Iff.rfl

theorem Always.ite {p : Prop} [Decidable p] {step other : Step α}
    (yes : p → step.Always c asked ends lost state)
    (no : ¬ p → other.Always c asked ends lost state) :
    (if p then step else other).Always c asked ends lost state := by
  split
  · exact yes ‹_›
  · exact no ‹_›

/-- A call of the cluster gives a value or an error. -/
theorem always_cluster (call : ClusterCall) (failure : OperationError → Failure)
    {ends : call.Value → σ → Prop} :
    (cluster call failure).Always c asked ends lost state ↔
      asked (.cluster call) state ∧
        ∀ (reply : Except OperationError call.Value) (after : σ),
          c.allows (.cluster call) state reply after →
            match reply with
            | .ok value => ends value after
            | .error e => lost (failure e) after := by
  refine and_congr Iff.rfl (forall_congr' fun reply => forall_congr' fun after => ?_)
  cases reply <;> rfl

/-- A call of the registry gives an answer, of whatever status, or an error. -/
theorem always_registry (call : RegistryCall) (failure : RegistryError → Failure)
    {ends : Registry.Response call.Value → σ → Prop} :
    (registry call failure).Always c asked ends lost state ↔
      asked (.registry call) state ∧
        ∀ (reply : Except RegistryError (Registry.Response call.Value)) (after : σ),
          c.allows (.registry call) state reply after →
            match reply with
            | .ok response => ends response after
            | .error e => lost (failure e) after := by
  refine and_congr Iff.rfl (forall_congr' fun reply => forall_congr' fun after => ?_)
  cases reply <;> rfl

theorem always_tell (transition : Transition) (object : ObjectReference) (note : String)
    {ends : Unit → σ → Prop} :
    (tell transition object note).Always c asked ends lost state ↔
      asked (.publish (transition.event object note)) state ∧
        ∀ (reply : Unit) (after : σ),
          c.allows (.publish (transition.event object note)) state reply after → ends () after :=
  Iff.rfl

/-! ## Steps that are all taken -/

section All

variable {ι : Type} {step : ι → Step Unit} {before : σ → Prop} {moves : ι → σ → σ → Prop}
  {achieved : ι → σ → Prop} {may : Failure → Prop}

/-- The states that some steps may lead to, each moving on from where the one before it ended. -/
def Moves (moves : ι → σ → σ → Prop) (l : List ι) : σ → σ → Prop :=
  Relation.ReflTransGen fun state after => ∃ i ∈ l, moves i state after

theorem Moves.keep {kept : σ → Prop} {l : List ι} {after : σ} (h : Moves moves l state after)
    (keeps : ∀ i ∈ l, ∀ state after, moves i state after → kept state → kept after)
    (start : kept state) : kept after := by
  induction h with
  | refl => exact start
  | tail _ last ih =>
    obtain ⟨i, hi, moved⟩ := last
    exact keeps i hi _ _ moved ih

theorem Moves.widen {l l' : List ι} {after : σ} (h : Moves moves l state after) (sub : l ⊆ l') :
    Moves moves l' state after :=
  Relation.ReflTransGen.mono (fun _ _ ⟨i, hi, moved⟩ => ⟨i, sub hi, moved⟩) _ _ h

/-- **Steps that are all taken**: when none of them fails, what each one achieves stands at the end,
since no later one takes it back. A failure of one leaves the others to be taken. -/
theorem Always.all {l : List ι} (before : σ → Prop) (moves : ι → σ → σ → Prop)
    (achieved : ι → σ → Prop) (may : Failure → Prop)
    (each : ∀ i ∈ l, ∀ state, before state →
      (step i).Always c asked (fun _ after => moves i state after ∧ achieved i after)
        (fun failure after => moves i state after ∧ may failure) state)
    (keeps : ∀ i ∈ l, ∀ state after, moves i state after → before state → before after)
    (stands : l.Pairwise fun i j => ∀ state after, moves j state after →
      achieved i state → achieved i after)
    (start : before state) :
    (Step.all (l.map step)).Always c asked
      (fun _ after => Moves moves l state after ∧ ∀ i ∈ l, achieved i after)
      (fun failure after => Moves moves l state after ∧ may failure) state := by
  induction l generalizing state with
  | nil => exact ⟨.refl, by simp⟩
  | cons i rest ih =>
    obtain ⟨later, stands⟩ := List.pairwise_cons.mp stands
    have first := each i (by simp) state start
    have tail : ∀ {middle}, moves i state middle →
        (Step.all (rest.map step)).Always c asked
          (fun _ after => Moves moves (i :: rest) state after ∧
            (∀ j ∈ rest, achieved j after) ∧ (achieved i middle → achieved i after))
          (fun failure after => Moves moves (i :: rest) state after ∧ may failure) middle := by
      intro middle moved
      have onward : ∀ {after}, Moves moves rest middle after →
          Moves moves (i :: rest) state after := fun h =>
        .head ⟨i, by simp, moved⟩ (h.widen (by simp))
      refine (ih (fun j hj => each j (by simp [hj])) (fun j hj => keeps j (by simp [hj])) stands
        (keeps i (by simp) _ _ moved start)).mono (fun _ _ => id) ?_ ?_
      · rintro _ after ⟨h, done⟩
        exact ⟨onward h, done, h.keep later⟩
      · rintro failure after ⟨h, hmay⟩
        exact ⟨onward h, hmay⟩
    -- The first step's failure counts only after the rest has been taken.
    refine (Program.always_bind (step i).run _ state).mpr (Program.Always.mono first
      (fun _ _ => id) fun result middle => ?_)
    cases result with
    | ok value =>
      rintro ⟨moved, done⟩
      refine (Program.always_bind _ _ middle).mpr (Program.Always.mono (tail moved)
        (fun _ _ => id) fun result after => ?_)
      cases result with
      | ok value =>
        rintro ⟨h, others, stays⟩
        exact ⟨h, by simpa using ⟨stays done, others⟩⟩
      | error failure => exact id
    | error failure =>
      rintro ⟨moved, hmay⟩
      refine (Program.always_bind _ _ middle).mpr (Program.Always.mono (tail moved)
        (fun _ _ => id) fun result after => ?_)
      cases result with
      | ok value =>
        rintro ⟨h, -, -⟩
        exact ⟨h, hmay⟩
      | error failure' =>
        rintro ⟨h, -⟩
        exact ⟨h, hmay⟩

end All

end Step

/-- **A pass that reports its failure** ends as its step does, the failure once reported. -/
theorem Pass.always_reporting {c : Conduct Bridge σ} {asked : Question → σ → Prop}
    {ends : Except Failure Action → σ → Prop} {state : σ} {step : Step Action}
    (h : step.Always c asked (fun action after => ends (.ok action) after)
      (fun failure after => asked (.publish (Event.ofFailure failure)) after ∧
        ∀ reply last, c.allows (.publish (Event.ofFailure failure)) after reply last →
          ends (.error failure) last) state) :
    (Pass.reporting step).Always c asked ends state := by
  refine (Program.always_bind step.run _ state).mpr (Program.Always.mono h (fun _ _ => id) ?_)
  intro result after
  cases result with
  | ok action => exact id
  | error failure => exact id

end RegistryBridge
