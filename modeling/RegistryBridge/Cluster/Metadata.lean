import RegistryBridge.Cluster.Reference
import RegistryBridge.Table
import RegistryBridge.Time.Instant
/-!
# Metadata of an object of the cluster

Every object carries its name, its namespace, free annotations, and the list of *finalizers*: the
controllers that must release the object before the cluster forgets it.

## Main definitions

* `Metadata`, read and written by the Kubernetes v1 schema.
* `Metadata.displayName`: the name, or what stands for it.
* `Metadata.note?`, `Metadata.finalizedBy`, `Metadata.deleting`
* `Finalizers.hold`, `Finalizers.release`: the two edits of a list of finalizers.
-/

namespace RegistryBridge

open Json (Field Record Reader)

/-- Who set which fields of an object. -/
structure ManagedFields where
  apiVersion : Option String := none
  fieldsType : Option String := none
  fields : Option Json := none
  manager : Option String := none
  operation : Option String := none
  subresource : Option String := none
  time : Option Instant := none
  deriving DecidableEq, Repr, Inhabited

/-- An object that another one belongs to. -/
structure OwnerReference where
  apiVersion : String
  blockOwnerDeletion : Option Bool := none
  controller : Option Bool := none
  kind : String
  name : String
  uid : String
  deriving DecidableEq, Repr, Inhabited

/-- The metadata of an object. -/
structure Metadata where
  annotations : Option (Table String) := none
  creationTimestamp : Option Instant := none
  deletionGracePeriodSeconds : Option Int := none
  deletionTimestamp : Option Instant := none
  finalizers : Option (List String) := none
  generateName : Option String := none
  generation : Option Int := none
  labels : Option (Table String) := none
  managedFields : Option (List ManagedFields) := none
  name : Option String := none
  ns : Option String := none
  ownerReferences : Option (List OwnerReference) := none
  resourceVersion : Option String := none
  selfLink : Option String := none
  uid : Option String := none
  deriving DecidableEq, Repr, Inhabited

namespace Instant

/-- Reads an instant from its text. -/
def ofJson : Reader Instant
  | .text s =>
    match Instant.parse s with
    | .ok t => .ok t
    | .error e => .error (.malformed e.message)
  | other => .error (.wrongType other.found .time)

end Instant

namespace ManagedFields

/-- Reads an entry of the managed fields. -/
def ofJson : Reader ManagedFields :=
  ((Record.of ManagedFields.mk)
    |>.field (.optional "apiVersion" Reader.text)
    |>.field (.optional "fieldsType" Reader.text)
    |>.field (.optional "fieldsV1" Reader.anything)
    |>.field (.optional "manager" Reader.text)
    |>.field (.optional "operation" Reader.text)
    |>.field (.optional "subresource" Reader.text)
    |>.field (.optional "time" Instant.ofJson)).readResource "ManagedFieldsEntry"

/-- Writes an entry of the managed fields. -/
def toJson (m : ManagedFields) : Json :=
  Json.record [
    optionalEntry "apiVersion" .text m.apiVersion,
    optionalEntry "fieldsType" .text m.fieldsType,
    optionalEntry "fieldsV1" id m.fields,
    optionalEntry "manager" .text m.manager,
    optionalEntry "operation" .text m.operation,
    optionalEntry "subresource" .text m.subresource,
    optionalEntry "time" (fun t => .text t.secondsText) m.time]

end ManagedFields

namespace OwnerReference

/-- Reads an owner. -/
def ofJson : Reader OwnerReference :=
  ((Record.of OwnerReference.mk)
    |>.field (.nullAs "apiVersion" Reader.text "")
    |>.field (.optional "blockOwnerDeletion" Reader.bool)
    |>.field (.optional "controller" Reader.bool)
    |>.field (.nullAs "kind" Reader.text "")
    |>.field (.nullAs "name" Reader.text "")
    |>.field (.nullAs "uid" Reader.text "")).readResource "OwnerReference"

/-- Writes an owner. -/
def toJson (o : OwnerReference) : Json :=
  Json.record [
    some ("apiVersion", .text o.apiVersion),
    optionalEntry "blockOwnerDeletion" .bool o.blockOwnerDeletion,
    optionalEntry "controller" .bool o.controller,
    some ("kind", .text o.kind),
    some ("name", .text o.name),
    some ("uid", .text o.uid)]

end OwnerReference

/-- Reads an object of texts. -/
def readTexts : Reader (Table String) :=
  fun document => (Reader.table Reader.text document).map Table.ofList

/-- Writes an object of texts. -/
def writeTexts (table : Table String) : Json :=
  .object (table.map fun entry => (entry.1, .text entry.2))

/-- A 64-bit integer. -/
def readInt64 : Reader Int :=
  Reader.integer "i64" (-9223372036854775808) 9223372036854775807

namespace Metadata

/-- How metadata is read. -/
def record : Record Metadata :=
  (Record.of Metadata.mk)
    |>.field (.optional "annotations" readTexts)
    |>.field (.optional "creationTimestamp" Instant.ofJson)
    |>.field (.optional "deletionGracePeriodSeconds" readInt64)
    |>.field (.optional "deletionTimestamp" Instant.ofJson)
    |>.field (.optional "finalizers" (Reader.list Reader.text))
    |>.field (.optional "generateName" Reader.text)
    |>.field (.optional "generation" readInt64)
    |>.field (.optional "labels" readTexts)
    |>.field (.optional "managedFields" (Reader.list ManagedFields.ofJson))
    |>.field (.optional "name" Reader.text)
    |>.field (.optional "namespace" Reader.text)
    |>.field (.optional "ownerReferences" (Reader.list OwnerReference.ofJson))
    |>.field (.optional "resourceVersion" Reader.text)
    |>.field (.optional "selfLink" Reader.text)
    |>.field (.optional "uid" Reader.text)

/-- Reads metadata. -/
def ofJson : Reader Metadata :=
  record.readResource "ObjectMeta"

/-- Writes metadata. -/
def toJson (m : Metadata) : Json :=
  Json.record [
    optionalEntry "annotations" writeTexts m.annotations,
    optionalEntry "creationTimestamp" (fun t => .text t.secondsText) m.creationTimestamp,
    optionalEntry "deletionGracePeriodSeconds" Json.ofInt m.deletionGracePeriodSeconds,
    optionalEntry "deletionTimestamp" (fun t => .text t.secondsText) m.deletionTimestamp,
    optionalEntry "finalizers" Json.texts m.finalizers,
    optionalEntry "generateName" .text m.generateName,
    optionalEntry "generation" Json.ofInt m.generation,
    optionalEntry "labels" writeTexts m.labels,
    optionalEntry "managedFields" (fun xs => .list (xs.map ManagedFields.toJson)) m.managedFields,
    optionalEntry "name" .text m.name,
    optionalEntry "namespace" .text m.ns,
    optionalEntry "ownerReferences" (fun xs => .list (xs.map OwnerReference.toJson))
      m.ownerReferences,
    optionalEntry "resourceVersion" .text m.resourceVersion,
    optionalEntry "selfLink" .text m.selfLink,
    optionalEntry "uid" .text m.uid]

/-- The name; while there is none, the stem that the cluster will make one from. -/
def displayName (m : Metadata) : String :=
  (m.name.or m.generateName).getD ""

/-- The value of an annotation. -/
def note? (m : Metadata) (key : String) : Option String :=
  m.annotations.bind fun table => table.get? key

/-- Whether an annotation is there, whatever its value. -/
def noted (m : Metadata) (key : String) : Bool :=
  (m.note? key).isSome

/-- The finalizers, none when the list is missing. -/
def finalizerList (m : Metadata) : List String :=
  m.finalizers.getD []

/-- Whether a finalizer is held. -/
def finalizedBy (m : Metadata) (finalizer : String) : Bool :=
  m.finalizerList.contains finalizer

/-- Whether deletion has been asked for. -/
def deleting (m : Metadata) : Bool :=
  m.deletionTimestamp.isSome

end Metadata

namespace Finalizers

/-- The list with a finalizer held: at the end, unless it is there already. -/
def hold (finalizers : List String) (finalizer : String) : List String :=
  if finalizers.contains finalizer then finalizers else finalizers ++ [finalizer]

/-- The list without any occurrence of a finalizer. -/
def release (finalizers : List String) (finalizer : String) : List String :=
  finalizers.filter (· ≠ finalizer)

end Finalizers

end RegistryBridge
