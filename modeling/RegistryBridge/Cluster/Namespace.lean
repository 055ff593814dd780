import RegistryBridge.Cluster.Resource
/-!
# Namespaces

## Main definitions

* `Namespace`, read and written by the Kubernetes v1 schema.
-/

namespace RegistryBridge

open Json (Field Record Reader)

/-- One condition that the cluster reports on a namespace. -/
structure NamespaceCondition where
  lastTransitionTime : Option Instant := none
  message : Option String := none
  reason : Option String := none
  status : String
  kind : String
  deriving DecidableEq, Repr, Inhabited

/-- What the cluster reports on a namespace. -/
structure NamespaceStatus where
  conditions : Option (List NamespaceCondition) := none
  phase : Option String := none
  deriving DecidableEq, Repr, Inhabited

/-- What the cluster is asked of a namespace. -/
structure NamespaceSpec where
  finalizers : Option (List String) := none
  deriving DecidableEq, Repr, Inhabited

/-- A namespace of the cluster. -/
structure Namespace where
  metadata : Metadata
  spec : Option NamespaceSpec := none
  status : Option NamespaceStatus := none
  deriving DecidableEq, Repr, Inhabited

namespace Namespace

/-- Reads a condition. -/
def readCondition : Reader NamespaceCondition :=
  ((Record.of NamespaceCondition.mk)
    |>.field (.optional "lastTransitionTime" Instant.ofJson)
    |>.field (.optional "message" Reader.text)
    |>.field (.optional "reason" Reader.text)
    |>.field (.nullAs "status" Reader.text "")
    |>.field (.nullAs "type" Reader.text "")).readResource "NamespaceCondition"

/-- Writes a condition. -/
def writeCondition (c : NamespaceCondition) : Json :=
  Json.record [
    optionalEntry "lastTransitionTime" (fun t => .text t.secondsText) c.lastTransitionTime,
    optionalEntry "message" .text c.message,
    optionalEntry "reason" .text c.reason,
    some ("status", .text c.status),
    some ("type", .text c.kind)]

/-- Reads a status. -/
def readStatus : Reader NamespaceStatus :=
  ((Record.of NamespaceStatus.mk)
    |>.field (.optional "conditions" (Reader.list readCondition))
    |>.field (.optional "phase" Reader.text)).readResource "NamespaceStatus"

/-- Writes a status. -/
def writeStatus (s : NamespaceStatus) : Json :=
  Json.record [
    optionalEntry "conditions" (fun xs => .list (xs.map writeCondition)) s.conditions,
    optionalEntry "phase" .text s.phase]

/-- Reads a spec. -/
def readSpec : Reader NamespaceSpec :=
  ((Record.of NamespaceSpec.mk).field
    (.optional "finalizers" (Reader.list Reader.text))).readResource "NamespaceSpec"

/-- Writes a spec. -/
def writeSpec (s : NamespaceSpec) : Json :=
  Json.record [optionalEntry "finalizers" Json.texts s.finalizers]

/-- Reads a namespace. -/
def ofJson : Reader Namespace :=
  ((Resource.standard "v1" "Namespace" Namespace.mk)
    |>.field (.nullAs "metadata" Metadata.ofJson {})
    |>.field (.optional "spec" readSpec)
    |>.field (.optional "status" readStatus)).readResource "Namespace"

/-- Writes a namespace. -/
def toJson (n : Namespace) : Json :=
  Resource.document "v1" "Namespace" [
    some ("metadata", n.metadata.toJson),
    optionalEntry "spec" writeSpec n.spec,
    optionalEntry "status" writeStatus n.status]

end Namespace

instance : Resource Namespace where
  apiVersion := "v1"
  kind := "Namespace"
  plural := "namespaces"
  metadata := Namespace.metadata
  read := Namespace.ofJson
  write := Namespace.toJson

end RegistryBridge
