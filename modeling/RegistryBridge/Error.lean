import RegistryBridge.Cluster.Reference
import RegistryBridge.Registry.Error
/-!
# What can go wrong in a pass

An operation fails with an `OperationError`. A pass over an object fails with a `Failure`: it says
which object, what was being done, with which details, and when to try again.

## Main definitions

* `OperationError`, `ErrorKind`, `ApiStatus`
* `Failure` with `Failure.note` and `Failure.action`
* `Action`: what is to happen after a pass.
-/

namespace RegistryBridge

/-- The kinds of failures. -/
inductive ErrorKind where
  | configuration
  | processing
  | registry
  | cluster
  | internal
  deriving DecidableEq, Repr, Inhabited

namespace ErrorKind

/-- All kinds. -/
def all : List ErrorKind := [.configuration, .processing, .registry, .cluster, .internal]

/-- The name of a kind. -/
def name : ErrorKind → String
  | .configuration => "Configuration"
  | .processing => "Processing"
  | .registry => "Registry"
  | .cluster => "Cluster"
  | .internal => "Internal"

/-- The reason that an event gives for a kind. -/
def reason : ErrorKind → String
  | .configuration => "ConfigurationError"
  | .processing => "ProcessingError"
  | .registry | .cluster | .internal => "Warning"

end ErrorKind

/-- What the cluster's interface answers instead of an object. -/
structure ApiStatus where
  status : String
  message : String
  reason : String
  code : Nat
  deriving DecidableEq, Repr, Inhabited

/-- The reason of an answer for an object that is not there. -/
def ApiStatus.notFoundReason : String := "NotFound"

/-- The wording of an answer. -/
def ApiStatus.text (a : ApiStatus) : String :=
  "ApiError: " ++ a.message ++ ": " ++ a.reason ++ " (ErrorResponse \x7b status: " ++
    Text.quoted a.status ++ ", message: " ++ Text.quoted a.message ++ ", reason: " ++
    Text.quoted a.reason ++ ", code: " ++ toString a.code ++ " \x7d)"

/-- Why an operation failed. -/
inductive OperationError where
  /-- The cluster answered with an error. -/
  | api (answer : ApiStatus)
  /-- The cluster answered with something else than the object asked for. -/
  | undecodable
  /-- No request can be made for an object without a name. -/
  | nameless
  | configuration (message : String)
  | processing (message : String)
  | serialization (message : String)
  | internal (message : String)
  deriving DecidableEq, Repr, Inhabited

namespace OperationError

/-- The kind of failure that an error leads to. -/
def kind : OperationError → ErrorKind
  | .api _ | .undecodable | .nameless => .cluster
  | .configuration _ => .configuration
  | .processing _ => .processing
  | .serialization _ | .internal _ => .internal

/-- The wording of an error. -/
def message : OperationError → String
  | .api answer => "kubernetes error: " ++ answer.text
  | .undecodable => "undecodable"
  | .nameless =>
    "kubernetes error: Failed to build request: failed to validate request: " ++
      "A non-empty name is required"
  | .configuration message => "configuration error: " ++ message
  | .processing message => "processing error: " ++ message
  | .serialization message => "serialization error: " ++ message
  | .internal message => "internal error: " ++ message

/-- Whether the cluster answered that there is no such object. -/
def notFound : OperationError → Bool
  | .api answer => answer.code == 404
  | _ => false

end OperationError

/-- What is to happen after a pass. -/
inductive Action where
  /-- Nothing, until the object changes. -/
  | awaitChange
  /-- Another pass after so many milliseconds. -/
  | requeue (millis : Nat)
  deriving DecidableEq, Repr, Inhabited

/-- What made a pass fail. -/
inductive Cause where
  | operation (error : OperationError)
  | registry (error : RegistryError)
  deriving DecidableEq, Repr

/-- The wording of a cause. -/
def Cause.message : Cause → String
  | .operation error => error.message
  | .registry error => error.message

/-- How long a failed pass waits before the next, in milliseconds. -/
def retryDelay : Nat := 5000

/-- The failure of a pass over an object. -/
structure Failure where
  kind : ErrorKind
  object : ObjectReference
  message : String
  details : List (String × String) := []
  cause : Option Cause := none
  retryAfter : Nat := retryDelay
  final : Bool := false
  deriving DecidableEq, Repr

namespace Failure

/-- The failure that an operation's error leads to. -/
def ofError (object : ObjectReference) (message : String) (error : OperationError) : Failure :=
  { kind := error.kind, object, message, cause := some (.operation error) }

/-- One detail more. -/
def detail (f : Failure) (key value : String) : Failure :=
  { f with details := f.details ++ [(key, value)] }

/-- The failure with a cause. -/
def causedBy (f : Failure) (cause : Cause) : Failure :=
  { f with cause := some cause }

/-- The reason that the event about a failure gives. -/
def reason (f : Failure) : String :=
  f.kind.reason

/-- The first detail of that key. -/
def detail? (f : Failure) (key : String) : Option String :=
  List.lookup key f.details

/-- **The note of the event about a failure**: the message, and the details if there are any. -/
def note (f : Failure) : String :=
  let pairs := Text.join ", " (f.details.map fun (key, value) => key ++ ": " ++ value)
  if pairs = "" then f.message else f.message ++ " - " ++ pairs

/-- **When to try again.** -/
def action (f : Failure) : Action :=
  if f.final then .awaitChange else .requeue f.retryAfter

end Failure

end RegistryBridge
