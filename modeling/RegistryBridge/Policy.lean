import RegistryBridge.Text.Lowercase
/-!
# Which namespaces are bridged, and what their counterparts are called

An integration lists namespaces that it takes and namespaces that it leaves alone. Some namespaces
belong to the platform; they are bridged only when they are listed by name.

## Main definitions

* `NamespacePolicy`, `NamespacePolicy.allows`, `isReserved`
* `organizationName`, `robotName`: what stands in the registry for a namespace and for one of its
  service accounts.
-/

namespace RegistryBridge

/-- The platform's own namespaces. -/
def reservedNames : List String := ["default", "openshift", "management-infra"]

/-- What the names of the platform's further namespaces begin with. -/
def reservedStems : List String := ["openshift-", "kube-"]

/-- Whether a namespace belongs to the platform. -/
def isReserved (ns : String) : Bool :=
  reservedNames.contains ns || reservedStems.any fun stem => stem.toList.isPrefixOf ns.toList

/-- Which namespaces an integration takes and which it leaves alone. -/
structure NamespacePolicy where
  allowed : List String
  denied : List String
  deriving DecidableEq, Repr, Inhabited

/-- **Whether a namespace is bridged.** A listed one is, whatever else is said of it; when some are
listed, no other one is; else all are but those left alone and the platform's own. -/
def NamespacePolicy.allows (policy : NamespacePolicy) (ns : String) : Bool :=
  policy.allowed.contains ns ||
    (!policy.denied.contains ns && !isReserved ns && policy.allowed.isEmpty)

/-- The organization of a namespace: the cluster's name in lower case, then the namespace. -/
def organizationName (clusterId ns : String) : String :=
  Text.lowercase clusterId ++ "_" ++ ns

/-- The full name of a robot of an organization. -/
def robotName (organization short : String) : String :=
  organization ++ "+" ++ short

end RegistryBridge
