import RegistryBridge.Cluster.Resource
/-!
# Service accounts

A service account lists the secrets that its workloads pull images with, and the secrets that they
may use at all.

## Main definitions

* `ServiceAccount`, read and written by the Kubernetes v1 schema.
* `ServiceAccount.pullsWith`
-/

namespace RegistryBridge

open Json (Field Record Reader)

/-- A service account of the cluster. -/
structure ServiceAccount where
  automountToken : Option Bool := none
  imagePullSecrets : Option (List LocalReference) := none
  metadata : Metadata
  secrets : Option (List ObjectReference) := none
  deriving DecidableEq, Repr, Inhabited

namespace ServiceAccount

/-- Reads a service account. -/
def ofJson : Reader ServiceAccount :=
  ((Resource.standard "v1" "ServiceAccount" ServiceAccount.mk)
    |>.field (.optional "automountServiceAccountToken" Reader.bool)
    |>.field (.optional "imagePullSecrets" (Reader.list LocalReference.ofJson))
    |>.field (.nullAs "metadata" Metadata.ofJson {})
    |>.field (.optional "secrets" (Reader.list ObjectReference.ofJson))).readResource
      "ServiceAccount"

/-- Writes a service account. -/
def toJson (a : ServiceAccount) : Json :=
  Resource.document "v1" "ServiceAccount" [
    optionalEntry "automountServiceAccountToken" .bool a.automountToken,
    optionalEntry "imagePullSecrets" (fun xs => .list (xs.map LocalReference.toJson))
      a.imagePullSecrets,
    some ("metadata", a.metadata.toJson),
    optionalEntry "secrets" (fun xs => .list (xs.map ObjectReference.toJson)) a.secrets]

/-- Whether images are pulled with the secret of that name. -/
def pullsWith (a : ServiceAccount) (secret : String) : Bool :=
  (a.imagePullSecrets.getD []).any (·.name == secret)

end ServiceAccount

instance : Resource ServiceAccount where
  apiVersion := "v1"
  kind := "ServiceAccount"
  plural := "serviceaccounts"
  metadata := ServiceAccount.metadata
  read := ServiceAccount.ofJson
  write := ServiceAccount.toJson

end RegistryBridge
