import RegistryBridge.World.Rehearsal
/-!
# Steps in an honest rehearsal

Where nothing is arranged a rehearsal answers as its world does, and only writes down what has been
asked. A step is then worked through question by question.

## Main definitions

* `Rehearsal.take`: a step taken in a rehearsal.

## Main results

* `Rehearsal.take_cluster`, `Rehearsal.take_tell`, `Rehearsal.take_bind_of_ok`
* `Rehearsal.run_reporting_of_ok`: a pass that does not fail reports nothing.
* `Rehearsal.take_integration`: the one integration of the world is the one that counts.
-/

namespace RegistryBridge.Rehearsal

variable {r after : Rehearsal} {α β : Type}

/-- A step taken in a rehearsal. -/
def take (x : Step α) (r : Rehearsal) : Except Failure α × Rehearsal :=
  r.run x.run

/-- The rehearsal once a question has been asked and the cluster stores something else. -/
def asking (r : Rehearsal) (question : Question) (cluster : ClusterStore) : Rehearsal :=
  { r with world := { r.world with cluster }, asked := r.asked ++ [question] }

/-- A step that has succeeded is followed by the next one. -/
theorem take_bind_of_ok {x : Step α} {f : α → Step β} {value : α}
    (h : r.take x = (.ok value, after)) : r.take (x >>= f) = after.take (f value) := by
  have front : x.run.run answer r = (.ok value, after) := h
  refine (Program.run_bind answer x.run (ExceptT.bindCont f) r).trans ?_
  rw [front]
  rfl

/-- **A call of the cluster** is answered honestly. -/
theorem take_cluster (honest : r.arranged = []) (call : ClusterCall)
    (failure : OperationError → Failure) :
    r.take (Step.cluster call failure) =
      (.ok (r.world.cluster.answer call).1,
        r.asking (.cluster call) (r.world.cluster.answer call).2) := by
  obtain ⟨world, arranged, asked, seen⟩ := r
  subst honest
  rfl

theorem take_tell (honest : r.arranged = []) (transition : Transition) (object : ObjectReference)
    (note : String) :
    r.take (Step.tell transition object note) =
      (.ok (), r.asking (.publish (transition.event object note)) r.world.cluster) := by
  obtain ⟨world, arranged, asked, seen⟩ := r
  subst honest
  rfl

/-- A pass that does not fail reports nothing. -/
theorem run_reporting_of_ok {x : Step Action} {action : Action}
    (h : r.take x = (.ok action, after)) : r.run (Pass.reporting x) = (.ok action, after) := by
  have front : x.run.run answer r = (.ok action, after) := h
  refine (Program.run_bind answer x.run _ r).trans ?_
  rw [front]
  rfl

/-- The one integration of the world is the one that counts. -/
theorem take_integration {i : Integration} (honest : r.arranged = [])
    (single : r.world.cluster.integrations = [i]) (object : ObjectReference) :
    r.take (Pass.integration object) =
      (.ok i, r.asking (.cluster .listIntegrations) r.world.cluster) := by
  rw [Pass.integration, take_bind_of_ok (take_cluster honest _ _)]
  show take (Step.of (Integration.required object r.world.cluster.integrations)) _ = _
  rw [single]
  rfl

end RegistryBridge.Rehearsal
