import RegistryBridge.Pass.Call
/-!
# Steps of a pass

A step asks questions and ends with a value or with the failure of the pass. A pass reports its
failure in an event before it ends.

## Main definitions

* `Step` with `Step.cluster`, `Step.registry`, `Step.tell`
* `Step.all`: steps that are all taken, whichever of them fail.
* `Pass`, `Pass.reporting`
-/

namespace RegistryBridge

/-- A step of a pass: it ends with a value or with the failure of the pass. -/
abbrev Step (α : Type) := ExceptT Failure (Program Bridge) α

/-- A whole pass over an object. -/
abbrev Pass := Program Bridge (Except Failure Action)

namespace Step

variable {α : Type}

/-- Asks the cluster. -/
def cluster (call : ClusterCall) (failure : OperationError → Failure) : Step call.Value :=
  ExceptT.mk (.ask (.cluster call) fun (reply : Except OperationError call.Value) =>
    .done (reply.mapError failure))

/-- Asks the registry. -/
def registry (call : RegistryCall) (failure : RegistryError → Failure) :
    Step (Registry.Response call.Value) :=
  ExceptT.mk (.ask (.registry call)
    fun (reply : Except RegistryError (Registry.Response call.Value)) =>
      .done (reply.mapError failure))

/-- Publishes an event. -/
def publish (event : Event) : Step Unit :=
  ExceptT.mk (.ask (.publish event) fun (_ : Unit) => .done (.ok ()))

/-- Tells about a change. -/
def tell (transition : Transition) (object : ObjectReference) (note : String) : Step Unit :=
  publish (transition.event object note)

/-- A value, or the failure of the pass. -/
def of (result : Except Failure α) : Step α :=
  ExceptT.mk (.done result)

/-- The pass fails. -/
def fail (failure : Failure) : Step α :=
  of (.error failure)

/-- **Steps that are all taken in order**, whichever of them fail. The first failure counts. -/
def all : List (Step Unit) → Step Unit
  | [] => of (.ok ())
  | step :: rest =>
    ExceptT.mk (Program.bind step.run fun result =>
      Program.bind (all rest).run fun later =>
        .done (match result with
          | .ok () => later
          | .error failure => .error failure))

end Step

namespace Pass

/-- **A pass that reports its failure** in an event before it ends. -/
def reporting (step : Step Action) : Pass :=
  Program.bind step.run fun result =>
    match result with
    | .ok action => .done (.ok action)
    | .error failure =>
      .ask (.publish (Event.ofFailure failure)) fun (_ : Unit) => .done (.error failure)

end Pass

end RegistryBridge
