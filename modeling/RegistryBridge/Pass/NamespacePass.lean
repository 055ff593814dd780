import RegistryBridge.Lifecycle
import RegistryBridge.Pass.Connect
import RegistryBridge.Pass.Provision
import RegistryBridge.Registry.Address
/-!
# A pass over a namespace

A namespace that the policy takes first gets the bridge's finalizer, and from the next pass on
whatever it needs in the registry. A namespace that is being deleted loses its organization and only
then the finalizer.

## Main definitions

* `NamespacePass.pass`
-/

namespace RegistryBridge.NamespacePass

/-- The failure of an edit of the namespace's finalizers. -/
def finalizerFailure (object : ObjectReference) (message name : String) (e : OperationError) :
    Failure :=
  (Failure.ofError object message e).detail "Namespace" name

/-- Puts the finalizer on a namespace. -/
def takeIn (object : ObjectReference) (spec : IntegrationSpec) (name : String) : Step Action := do
  let _ ← Step.cluster (.holdFinalizer name Marks.finalizer)
    (finalizerFailure object "Failed to add finalizer" name)
  Step.tell .namespaceManaged object
    ("Namespace bridged to organization " ++ spec.organization name)
  return .awaitChange

/-- Provisions a namespace. -/
def provision (object : ObjectReference) (spec : IntegrationSpec) (name : String) :
    Step Action := do
  Pass.connect object spec
  match Registry.host spec.hostname with
  | .error e =>
    Step.fail ((Failure.ofError object "Failed to parse Quay hostname" e).detail "Hostname"
      spec.hostname)
  | .ok host =>
    Provisioning.steps { object, ns := name, host, spec }
    return .requeue (Settings.resyncSeconds * 1000)

/-- Makes sure that an organization is gone. -/
def dropOrganization (object : ObjectReference) (organization : String) : Step Unit := do
  let failure (message : String) : Failure :=
    let f : Failure := { kind := .registry, object, message }
    f.detail "Quay Organization" organization
  let retrieving := failure "Error occurred retrieving Organization"
  let deleting := failure "Error occurred deleting Organization"
  let found ← Step.registry (.getOrganization organization) fun e =>
    retrieving.causedBy (.registry e)
  if found.status = 404 then return
  else if found.status = 200 then
    let gone ← Step.registry (.deleteOrganization organization) fun e =>
      deleting.causedBy (.registry e)
    if gone.status ≠ 204 then Step.fail (Provisioning.withStatus deleting gone.status)
    Step.tell .organizationDeleted object ("Deleted organization " ++ organization)
  else Step.fail (Provisioning.withStatus retrieving found.status)

/-- Lets a namespace go: first its organization, then the finalizer. -/
def release (object : ObjectReference) (spec : IntegrationSpec) (name : String) :
    Step Action := do
  Pass.connect object spec
  dropOrganization object (spec.organization name)
  let _ ← Step.cluster (.releaseFinalizer name Marks.finalizer)
    (finalizerFailure object "Failed to remove finalizer" name)
  return .awaitChange

/-- What is done in a phase. -/
def inPhase (object : ObjectReference) (spec : IntegrationSpec) (name : String) :
    NamespacePhase → Step Action
  | .unmanaged | .initializing | .gone => return .awaitChange
  | .pending => takeIn object spec name
  | .terminating => release object spec name
  | .managed => provision object spec name

/-- **A pass over a namespace**, its failure not yet reported. -/
def step (n : Namespace) : Step Action := do
  let name := n.metadata.displayName
  let object := Resource.reference n
  let integration ← Pass.integration object
  inPhase object integration.spec name (.of n (integration.spec.allows name))

/-- **A pass over a namespace.** -/
def pass (n : Namespace) : Pass :=
  Pass.reporting (step n)

end RegistryBridge.NamespacePass
