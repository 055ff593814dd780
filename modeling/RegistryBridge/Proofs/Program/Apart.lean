import RegistryBridge.Proofs.Program.Turns
/-!
# Programs that do not notice one another

Two programs that share a system may still go by different parts of it. If each goes by its own part
only, and what the others ask leaves that part alone, then none of them notices that the others are
there: it ends as it would alone, and so does its part of the system.

Which states agree in a program's part is a relation of states. It need not be reflexive: it may also
say what is true of every state that the program can meet.

## Main definitions

* `Program.Steady`: a program that goes by what agreeing states agree in.

## Main results

* `Program.Steady.of_only`: a program is steady when each of its questions is.
* `Program.Weaves.run_alone`: programs that take turns each end as they would alone.
-/

namespace RegistryBridge.Program

variable {I : Interface} {ι α β σ : Type}

section Steady

variable (answer : (query : I.Query) → σ → I.Reply query × σ) (alike moves : σ → σ → Prop)

/-- **A program that goes by what agreeing states agree in.** Asked in two such states, every question
leaves two such states, the program goes on in the same way, and the state has moved only as far as
`moves` says. The values that it may end with are those of `ends`. -/
def Steady (ends : α → Prop) : Program I α → Prop
  | done value => ends value
  | ask query next =>
    ∀ state other, alike state other →
      moves state (answer query state).2 ∧
        alike (answer query state).2 (answer query other).2 ∧
          next (answer query state).1 = next (answer query other).1 ∧
            (next (answer query state).1).Steady ends

variable {answer alike moves} {ends : α → Prop}

theorem Steady.mono {ends' : α → Prop} {p : Program I α} (h : p.Steady answer alike moves ends)
    (hends : ∀ value, ends value → ends' value) : p.Steady answer alike moves ends' := by
  induction p with
  | done value => exact hends value h
  | ask query next ih =>
    intro state other same
    obtain ⟨moved, still, goes, rest⟩ := h state other same
    exact ⟨moved, still, goes, ih _ rest⟩

theorem Steady.bind {ends' : β → Prop} {p : Program I α} {f : α → Program I β}
    (first : p.Steady answer alike moves ends)
    (rest : ∀ value, ends value → (f value).Steady answer alike moves ends') :
    (p.bind f).Steady answer alike moves ends' := by
  induction p with
  | done value => exact rest value first
  | ask query next ih =>
    intro state other same
    obtain ⟨moved, still, goes, later⟩ := first state other same
    refine ⟨moved, still, ?_, ih _ later⟩
    exact congrArg (fun p : Program I α => p.bind f) goes

/-- One question, of whose answer something is made. -/
theorem Steady.call {query : I.Query} {f : I.Reply query → α}
    (each : ∀ state other, alike state other →
      moves state (answer query state).2 ∧
        alike (answer query state).2 (answer query other).2 ∧
          (answer query state).1 = (answer query other).1)
    (told : ∀ state other, alike state other → ends (f (answer query state).1)) :
    (ask query fun reply => done (f reply)).Steady answer alike moves ends := by
  intro state other same
  obtain ⟨moved, still, answered⟩ := each state other same
  exact ⟨moved, still, congrArg (fun reply => done (f reply)) answered, told state other same⟩

/-- **A program is steady when each of its questions is**: asked in agreeing states it is answered
alike, and leaves agreeing states. -/
theorem Steady.of_only {kind : I.Query → Prop} {p : Program I α} (h : p.Only kind)
    (each : ∀ query, kind query → ∀ state other, alike state other →
      moves state (answer query state).2 ∧
        alike (answer query state).2 (answer query other).2 ∧
          (answer query state).1 = (answer query other).1) :
    p.Steady answer alike moves fun _ => True := by
  induction p with
  | done value => trivial
  | ask query next ih =>
    intro state other same
    obtain ⟨moved, still, answered⟩ := each query h.1 state other same
    exact ⟨moved, still, congrArg next answered, ih _ (h.2 _)⟩

end Steady

variable [DecidableEq ι] {answer : (query : I.Query) → σ → I.Reply query × σ}
  {alike moves : ι → σ → σ → Prop} {programs : ι → Program I α} {woven : Program I (ι → α)}

/-- **Programs that take turns each end as they would alone**, from a state that agrees with theirs,
and leave a state that agrees with the one that they would leave: if what one of them asks leaves
alone what the others go by. The state moves as far as they move it. -/
theorem Weaves.run_alone (h : Weaves programs woven)
    (steady : ∀ i, (programs i).Steady answer (alike i) (moves i) fun _ => True)
    (apart : ∀ i j, i ≠ j → ∀ state after other, moves i state after →
      alike j state other → alike j after other)
    (state : σ) (alone : ι → σ) (start : ∀ i, alike i state (alone i)) :
    (∀ i, (woven.run answer state).1 i = ((programs i).run answer (alone i)).1 ∧
      alike i (woven.run answer state).2 ((programs i).run answer (alone i)).2) ∧
      Relation.ReflTransGen (fun state after => ∃ i, moves i state after) state
        (woven.run answer state).2 := by
  induction h generalizing state alone with
  | done values => exact ⟨fun i => ⟨rfl, start i⟩, .refl⟩
  | @ask programs k query next rest turn goes ih =>
    have mine := steady k
    rw [turn] at mine
    obtain ⟨moved, still, same, onward⟩ := mine state (alone k) (start k)
    -- The one whose turn it is goes on alone as well; the others stay where they are.
    have run := ih (answer query state).1 (fun j => ?steady) (answer query state).2
      (Function.update alone k (answer query (alone k)).2) (fun j => ?agree)
    case steady =>
      by_cases own : j = k
      · subst own
        simpa using onward
      · simpa [own] using steady j
    case agree =>
      by_cases own : j = k
      · subst own
        simpa using still
      · simpa [own] using apart k j (Ne.symm own) _ _ _ moved (start j)
    refine ⟨fun i => ?_, .head ⟨k, moved⟩ run.2⟩
    have ended := run.1 i
    by_cases own : i = k
    · subst own
      rw [Function.update_self, Function.update_self, same] at ended
      rw [turn]
      exact ended
    · rw [Function.update_of_ne own, Function.update_of_ne own] at ended
      exact ended

end RegistryBridge.Program
