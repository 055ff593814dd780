import RegistryBridge.Cluster.Build
import RegistryBridge.Cluster.Integration
import RegistryBridge.Cluster.Secret
import RegistryBridge.Error
import RegistryBridge.Program
import RegistryBridge.Registry.Payload
import RegistryBridge.SecretLinks
/-!
# What a pass asks for

A pass over an object reads and writes objects of the cluster, calls the registry, and publishes
events. Each of these is a question with an answer of its own type.

## Main definitions

* `ClusterCall`, `RegistryCall`, `Event`, and the types of their answers
* `Bridge`: the interface of all of them.
* `ClusterCall.isWrite`, `RegistryCall.isWrite`
-/

namespace RegistryBridge

/-- What is asked of the cluster. -/
inductive ClusterCall where
  | listIntegrations
  | getSecret (ns name : String)
  | applySecret (secret : Secret)
  | getServiceAccount (ns name : String)
  | linkServiceAccount (ns name : String) (links : SecretLinks)
  | listImageStreams (ns : String)
  | holdFinalizer (name finalizer : String)
  | releaseFinalizer (name finalizer : String)
  | getImageStream (ns name : String)
  | createImport (request : ImageStreamImport)
  | noteBuild (ns name key value : String)
  | reportStatus (name : String) (status : IntegrationStatus)
  deriving DecidableEq

namespace ClusterCall

/-- What the cluster gives when a call succeeds. -/
def Value : ClusterCall → Type
  | listIntegrations => List Integration
  | getSecret .. => Option Secret
  | getServiceAccount .. => Option ServiceAccount
  | listImageStreams _ => List ImageStream
  | getImageStream .. => Option ImageStream
  | applySecret _ | linkServiceAccount .. | holdFinalizer .. | releaseFinalizer .. |
    createImport _ | noteBuild .. | reportStatus .. => Unit

/-- Whether a call changes the cluster. -/
def isWrite : ClusterCall → Bool
  | applySecret _ | linkServiceAccount .. | holdFinalizer .. | releaseFinalizer .. |
    createImport _ | noteBuild .. | reportStatus .. => true
  | _ => false

end ClusterCall

/-- What is asked of the registry. A robot is called by its short name, or, where it is granted a
role, by its full one. -/
inductive RegistryCall where
  | getOrganization (organization : String)
  | createOrganization (organization : String)
  | deleteOrganization (organization : String)
  | getRobot (organization short : String)
  | createRobot (organization short : String)
  | getPrototypes (organization : String)
  | createPrototype (organization robot : String) (role : Registry.Role)
  | getRepository (organization name : String)
  | createRepository (organization name : String)
  deriving DecidableEq, Repr

namespace RegistryCall

/-- The content of the registry's answer; a call whose content does not matter has none. -/
def Value : RegistryCall → Type
  | getOrganization _ => Registry.Organization
  | getRobot .. | createRobot .. => Registry.Robot
  | getPrototypes _ => Registry.Prototypes
  | createPrototype .. => Registry.Prototype
  | getRepository .. => Registry.Repository
  | createOrganization _ | deleteOrganization _ | createRepository .. => Unit

/-- Whether a call changes the registry. -/
def isWrite : RegistryCall → Bool
  | createOrganization _ | deleteOrganization _ | createRobot .. | createPrototype .. |
    createRepository .. => true
  | _ => false

/-- The organization that a call is about. -/
def organization : RegistryCall → String
  | getOrganization o | createOrganization o | deleteOrganization o | getRobot o _ |
    createRobot o _ | getPrototypes o | createPrototype o _ _ | getRepository o _ |
    createRepository o _ => o

end RegistryCall

/-- What is told about an object. -/
structure Event where
  object : ObjectReference
  warning : Bool
  reason : String
  action : String
  note : Option String
  deriving DecidableEq, Repr

namespace Event

/-- The word for the kind of an event. -/
def kind (e : Event) : String :=
  if e.warning then "Warning" else "Normal"

/-- The action that failures are reported under. -/
def reconcileAction : String := "Reconcile"

/-- The event about a failure. -/
def ofFailure (f : Failure) : Event :=
  ⟨f.object, true, f.reason, reconcileAction, some f.note⟩

end Event

/-- The changes that the bridge tells about. -/
inductive Transition where
  | namespaceManaged
  | organizationCreated
  | organizationDeleted
  | imageImported
  deriving DecidableEq, Repr, Inhabited

namespace Transition

/-- All changes. -/
def all : List Transition :=
  [.namespaceManaged, .organizationCreated, .organizationDeleted, .imageImported]

/-- The reason that an event gives for a change. -/
def reason : Transition → String
  | .namespaceManaged => "NamespaceManaged"
  | .organizationCreated => "OrganizationCreated"
  | .organizationDeleted => "OrganizationDeleted"
  | .imageImported => "ImageImported"

/-- What was being done. -/
def action : Transition → String
  | .namespaceManaged => Event.reconcileAction
  | .organizationCreated => "Provision"
  | .organizationDeleted => "Delete"
  | .imageImported => "Import"

/-- The event about a change. -/
def event (t : Transition) (object : ObjectReference) (note : String) : Event :=
  ⟨object, false, t.reason, t.action, some note⟩

end Transition

/-- The questions of a pass. Calls of the registry go to the one that was connected last. -/
inductive Question where
  | cluster (call : ClusterCall)
  | connect (hostname token : String) (insecure : Bool)
  | registry (call : RegistryCall)
  | publish (event : Event)
  deriving DecidableEq

/-- The answers of a pass's questions. -/
def Question.Answer : Question → Type
  | cluster call => Except OperationError call.Value
  | connect .. => Except RegistryError Unit
  | registry call => Except RegistryError (Registry.Response call.Value)
  | publish _ => Unit

/-- **Everything that a pass can ask.** -/
def Bridge : Interface := ⟨Question, Question.Answer⟩

end RegistryBridge
