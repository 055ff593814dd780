import RegistryBridge.Cluster.Namespace
import RegistryBridge.Pass.Call
/-!
# A world of objects

A world holds what a cluster and a registry store. It answers honestly: every answer reflects what is
stored, and every write takes effect.

## Main definitions

* `ClusterStore`, `RegistryStore`, `World`
* `qualified`: the key under which an object of a namespace is stored.
-/

namespace RegistryBridge

/-- The key of an object of a namespace. -/
def qualified (ns name : String) : String :=
  ns ++ "/" ++ name

/-- The key of an object by its metadata. -/
def Metadata.key (m : Metadata) : String :=
  qualified (m.ns.getD "") m.displayName

/-- What a cluster stores. Builds are kept as they were submitted. -/
structure ClusterStore where
  integrations : List Integration := []
  namespaces : Table Namespace := []
  secrets : Table Secret := []
  serviceAccounts : Table ServiceAccount := []
  imageStreams : List ImageStream := []
  builds : Table Json := []
  deriving DecidableEq

/-- What a registry stores: organizations and repositories by name, robots by full name, and
prototypes by organization. -/
structure RegistryStore where
  organizations : Table Unit := []
  robots : Table Registry.Robot := []
  prototypes : Table (List Registry.Prototype) := []
  repositories : Table Unit := []
  deriving DecidableEq

/-- What a cluster and a registry store. -/
structure World where
  cluster : ClusterStore := {}
  registry : RegistryStore := {}
  deriving DecidableEq

end RegistryBridge
