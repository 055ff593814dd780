import RegistryBridge.Json.Basic
/-!
# The definition of the integration resource

What the cluster is told so that it serves integrations: the names of the resource, the columns of
its listing, and the schema of its documents.

## Main definitions

* `Definition.names`, `Definition.document`
-/

namespace RegistryBridge.Definition

/-- A schema: its type and description, and whatever else it says. -/
def schema (kind description : String) (rest : List (String × Json)) : Json :=
  .object (("type", .text kind) :: ("description", .text description) :: rest)

/-- A text. -/
def text (description : String) : Json :=
  schema "string" description []

/-- A text that may be null. -/
def optionalText (description : String) : Json :=
  schema "string" description [("nullable", .bool true)]

/-- A flag that is off unless given. -/
def flag (description : String) : Json :=
  schema "boolean" description [("default", .bool false)]

/-- A list of texts. -/
def texts (description : String) : Json :=
  schema "array" description [("items", .object [("type", .text "string")])]

/-- The group that the resource belongs to. -/
def group : String := "quay.redhat.com"

/-- The name of the definition. -/
def name : String := "quayintegrations.quay.redhat.com"

/-- Integrations belong to the cluster, not to a namespace. -/
def scope : String := "Cluster"

/-- What the resource is called. -/
def names : Json :=
  .object [
    ("categories", .list []),
    ("kind", .text "QuayIntegration"),
    ("plural", .text "quayintegrations"),
    ("shortNames", .list []),
    ("singular", .text "quayintegration")]

/-- One column of the listing. -/
def column (name kind path : String) : Json :=
  .object [("name", .text name), ("type", .text kind), ("jsonPath", .text path)]

/-- The columns of the listing. -/
def columns : List Json := [
  column "Cluster" "string" ".spec.clusterID",
  column "Hostname" "string" ".spec.quayHostname",
  column "Last Update" "string" ".status.lastUpdate",
  column "Age" "date" ".metadata.creationTimestamp"]

/-- Coordinates of the entry of a secret. -/
def credentials : Json :=
  schema "object" "Secret holding the registry API token" [
    ("nullable", .bool true),
    ("properties", .object [
      ("key", optionalText "Key within the secret (defaults to `token`)"),
      ("name", text "Name of the secret"),
      ("namespace", text "Namespace containing the secret")]),
    ("required", Json.texts ["name", "namespace"])]

/-- What an integration asks for. -/
def spec : Json :=
  schema "object"
    ("QuayIntegration connects the cluster to a Quay registry.\n\nExample: ```yaml " ++
      "apiVersion: quay.redhat.com/v1 kind: QuayIntegration metadata: name: " ++
      "example-quayintegration spec: clusterID: openshift credentialsSecret: name: " ++
      "quay-integration namespace: openshift-operators quayHostname: https://quay.example.com " ++
      "denylistNamespaces: - sandbox ```") [
    ("properties", .object [
      ("allowlistNamespaces",
        texts "Namespaces that are always managed; when non-empty, nothing else is"),
      ("clusterID", text "Identifier of this cluster; prefixes every organization name"),
      ("credentialsSecret", credentials),
      ("denylistNamespaces",
        texts "Namespaces that are never managed unless explicitly allowed"),
      ("insecureRegistry", flag "Skip TLS verification when talking to the registry"),
      ("organizationPrefix", optionalText "Prefix assigned to organizations (informational)"),
      ("quayHostname", text "URL of the Quay registry (e.g., \"https://quay.example.com\")"),
      ("scheduledImageStreamImport",
        flag "Enable scheduled imports on ImageStreams populated by builds")]),
    ("required", Json.texts ["clusterID", "quayHostname"])]

/-- One condition that is reported. -/
def condition : Json :=
  schema "object" "Kubernetes-style condition for status reporting" [
    ("properties", .object [
      ("lastTransitionTime",
        schema "string" "Last time the condition transitioned" [("format", .text "date-time")]),
      ("message", text "Human-readable message"),
      ("reason", text "Machine-readable reason for the condition"),
      ("status", schema "string" "Status of the condition" [
        ("enum", Json.texts ["True", "False", "Unknown"])]),
      ("type", text "Type of condition (e.g., Synced)")]),
    ("required", Json.texts ["lastTransitionTime", "message", "reason", "status", "type"])]

/-- What is reported of an integration. -/
def status : Json :=
  schema "object" "QuayIntegration status" [
    ("nullable", .bool true),
    ("properties", .object [
      ("conditions", schema "array" "Observed conditions" [("items", condition)]),
      ("lastUpdate",
        optionalText "Time (RFC 3339, UTC) the `spec` change was last observed")])]

/-- The schema of an integration. -/
def root : Json :=
  schema "object" "Auto-generated derived type for QuayIntegrationSpec via `CustomResource`" [
    ("title", .text "QuayIntegration"),
    ("properties", .object [("spec", spec), ("status", status)]),
    ("required", Json.texts ["spec"])]

/-- The one version that is served. -/
def version : Json :=
  .object [
    ("name", .text "v1"),
    ("served", .bool true),
    ("storage", .bool true),
    ("additionalPrinterColumns", .list columns),
    ("schema", .object [("openAPIV3Schema", root)]),
    ("subresources", .object [("status", .object [])])]

/-- **The whole definition.** -/
def document : Json :=
  .object [
    ("apiVersion", .text "apiextensions.k8s.io/v1"),
    ("kind", .text "CustomResourceDefinition"),
    ("metadata", .object [("name", .text name)]),
    ("spec", .object [
      ("group", .text group),
      ("names", names),
      ("scope", .text scope),
      ("versions", .list [version])])]

/-- What identifies the definition. -/
def summary : Json :=
  .object [
    ("name", .text name), ("scope", .text scope), ("names", names), ("group", .text group)]

end RegistryBridge.Definition
