import RegistryBridge.Cluster.Integration
import RegistryBridge.Error
/-!
# The one integration that counts

## Main definitions

* `Integration.active`: the only one of a list.
* `Integration.required`: the same, as a step of a pass over an object.
-/

namespace RegistryBridge.Integration

/-- What is said when there is not exactly one integration. -/
def countMessage : String :=
  "No QuayIntegrations defined or more than 1 integration present"

/-- **The only integration of a list.** -/
def active : List Integration → Except OperationError Integration
  | [only] => .ok only
  | all =>
    .error (.configuration (countMessage ++ " (found " ++ toString all.length ++ ")"))

/-- **The only integration of a list**, for a pass over an object. -/
def required (object : ObjectReference) (all : List Integration) : Except Failure Integration :=
  match active all with
  | .ok only => .ok only
  | .error e =>
    .error (((Failure.ofError object countMessage e).detail "Expected" "1").detail "Actual"
      (toString all.length))

end RegistryBridge.Integration
