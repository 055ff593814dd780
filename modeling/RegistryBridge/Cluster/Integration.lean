import RegistryBridge.Cluster.ImageStream
import RegistryBridge.Json.Printer
import RegistryBridge.Policy
/-!
# Integrations

An integration binds a cluster to a registry: which registry, with which credentials, for which
namespaces. A cluster is meant to have exactly one.

## Main definitions

* `Integration`, `IntegrationSpec`, `SecretKey`
* `IntegrationSpec.allows`, `IntegrationSpec.organization`, `IntegrationSpec.pullSecretName`
* `IntegrationSpec.fingerprint`: a text that two specs share only when they are equal.
-/

namespace RegistryBridge

open Json (Field Record Reader)

/-- One entry of a secret. -/
structure SecretKey where
  name : String
  ns : String
  key : Option String := none
  deriving DecidableEq, Repr, Inhabited

/-- What an integration asks for. -/
structure IntegrationSpec where
  clusterId : String
  credentials : Option SecretKey := none
  organizationStem : Option String := none
  hostname : String
  insecure : Bool := false
  scheduledImport : Bool := false
  denied : List String := []
  allowed : List String := []
  deriving DecidableEq, Repr, Inhabited

/-- Whether something holds. -/
inductive ConditionStatus where
  | holds
  | fails
  | unknown
  deriving DecidableEq, Repr, Inhabited

/-- Something that holds or does not hold of an integration. -/
structure Condition where
  kind : String
  status : ConditionStatus
  reason : String
  message : String
  since : Instant
  deriving DecidableEq, Repr, Inhabited

/-- What is reported of an integration. -/
structure IntegrationStatus where
  conditions : List Condition := []
  lastUpdate : Option String := none
  deriving DecidableEq, Repr, Inhabited

/-- The binding of a cluster to a registry. -/
structure Integration where
  metadata : Metadata
  spec : IntegrationSpec
  status : Option IntegrationStatus := none
  deriving DecidableEq, Repr, Inhabited

namespace SecretKey

/-- The entry that holds the token when none is named. -/
def defaultKey : String := "token"

/-- The entry that holds the token: the one named, unless the name is empty. -/
def entry (k : SecretKey) : String :=
  match k.key with
  | some key => if key = "" then defaultKey else key
  | none => defaultKey

/-- Reads the coordinates of an entry. -/
def ofJson : Reader SecretKey :=
  ((Record.of SecretKey.mk)
    |>.field (.required "name" Reader.text)
    |>.field (.required "namespace" Reader.text)
    |>.field (.optional "key" Reader.text)).read "SecretRef"

/-- Writes the coordinates of an entry. -/
def toJson (k : SecretKey) : Json :=
  Json.record [
    some ("name", .text k.name),
    some ("namespace", .text k.ns),
    optionalEntry "key" .text k.key]

end SecretKey

namespace IntegrationSpec

/-- Reads a spec. -/
def ofJson : Reader IntegrationSpec :=
  ((Record.of IntegrationSpec.mk)
    |>.field (.required "clusterID" Reader.text)
    |>.field (.optional "credentialsSecret" SecretKey.ofJson)
    |>.field (.optional "organizationPrefix" Reader.text)
    |>.field (.required "quayHostname" Reader.text)
    |>.field (.withDefault "insecureRegistry" Reader.bool false)
    |>.field (.withDefault "scheduledImageStreamImport" Reader.bool false)
    |>.field (.withDefault "denylistNamespaces" (Reader.list Reader.text) [])
    |>.field (.withDefault "allowlistNamespaces" (Reader.list Reader.text) [])).read
      "QuayIntegrationSpec"

/-- Writes a spec. -/
def toJson (s : IntegrationSpec) : Json :=
  Json.record [
    some ("clusterID", .text s.clusterId),
    optionalEntry "credentialsSecret" SecretKey.toJson s.credentials,
    optionalEntry "organizationPrefix" .text s.organizationStem,
    some ("quayHostname", .text s.hostname),
    some ("insecureRegistry", .bool s.insecure),
    some ("scheduledImageStreamImport", .bool s.scheduledImport),
    listEntry "denylistNamespaces" .text s.denied,
    listEntry "allowlistNamespaces" .text s.allowed]

/-- Which namespaces are bridged. -/
def policy (s : IntegrationSpec) : NamespacePolicy :=
  ⟨s.allowed, s.denied⟩

/-- Whether a namespace is bridged. -/
def allows (s : IntegrationSpec) (ns : String) : Bool :=
  s.policy.allows ns

/-- The organization of a namespace. -/
def organization (s : IntegrationSpec) (ns : String) : String :=
  organizationName s.clusterId ns

/-- The pull secret of a service account. -/
def pullSecretName (s : IntegrationSpec) (serviceAccount : String) : String :=
  serviceAccount ++ "-quay-" ++ s.clusterId

/-- **The text that stands for a spec**: its document, in order of declaration. -/
def fingerprint (s : IntegrationSpec) : String :=
  s.toJson.compact

end IntegrationSpec

namespace ConditionStatus

/-- The word for a status. -/
def text : ConditionStatus → String
  | .holds => "True"
  | .fails => "False"
  | .unknown => "Unknown"

/-- The status of a word. -/
def named : String → Option ConditionStatus
  | "True" => some .holds
  | "False" => some .fails
  | "Unknown" => some .unknown
  | _ => none

/-- Reads a status. -/
def ofJson : Reader ConditionStatus :=
  Reader.variant named ["True", "False", "Unknown"]

end ConditionStatus

namespace Condition

/-- Reads a condition. -/
def ofJson : Reader Condition :=
  ((Record.of Condition.mk)
    |>.field (.required "type" Reader.text)
    |>.field (.required "status" ConditionStatus.ofJson)
    |>.field (.required "reason" Reader.text)
    |>.field (.required "message" Reader.text)
    |>.field (.required "lastTransitionTime" Instant.ofJson)).read "Condition"

/-- Writes a condition. -/
def toJson (c : Condition) : Json :=
  .object [
    ("type", .text c.kind),
    ("status", .text c.status.text),
    ("reason", .text c.reason),
    ("message", .text c.message),
    ("lastTransitionTime", .text c.since.text)]

end Condition

namespace IntegrationStatus

/-- Reads a status. -/
def ofJson : Reader IntegrationStatus :=
  ((Record.of IntegrationStatus.mk)
    |>.field (.withDefault "conditions" (Reader.list Condition.ofJson) [])
    |>.field (.optional "lastUpdate" Reader.text)).read "QuayIntegrationStatus"

/-- Writes a status. -/
def toJson (s : IntegrationStatus) : Json :=
  Json.record [
    listEntry "conditions" Condition.toJson s.conditions,
    optionalEntry "lastUpdate" .text s.lastUpdate]

/-- The status that reports at `now` that a spec has been seen. -/
def observed (now : Instant) : IntegrationStatus :=
  { conditions := [⟨"Synced", .holds, "SpecObserved", "QuayIntegration spec observed", now⟩]
    lastUpdate := some now.secondsText }

end IntegrationStatus

namespace Integration

/-- Reads an integration. -/
def ofJson : Reader Integration :=
  ((Record.of Integration.mk)
    |>.field (.required "metadata" Metadata.ofJson)
    |>.field (.required "spec" IntegrationSpec.ofJson)
    |>.field (.optionalEntry "status" IntegrationStatus.ofJson)).read "QuayIntegration"

/-- Writes an integration. -/
def toJson (i : Integration) : Json :=
  Resource.document "quay.redhat.com/v1" "QuayIntegration" [
    some ("metadata", i.metadata.toJson),
    some ("spec", i.spec.toJson),
    optionalEntry "status" IntegrationStatus.toJson i.status]

end Integration

instance : Resource Integration where
  apiVersion := "quay.redhat.com/v1"
  kind := "QuayIntegration"
  plural := "quayintegrations"
  metadata := Integration.metadata
  read := Integration.ofJson
  write := Integration.toJson

end RegistryBridge
