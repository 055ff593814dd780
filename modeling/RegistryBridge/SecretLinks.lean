import RegistryBridge.Cluster.ServiceAccount
/-!
# Linking a pull secret to a service account

## Main definitions

* `SecretLinks`: the two lists of a service account.
* `ServiceAccount.linksWith`: the lists with one more secret in both, or nothing if it is there.
-/

namespace RegistryBridge

/-- The secrets that a service account pulls with and those that it may use. -/
structure SecretLinks where
  imagePullSecrets : List LocalReference
  secrets : List ObjectReference
  deriving DecidableEq, Repr, Inhabited

namespace SecretLinks

/-- Writes the two lists. -/
def toJson (l : SecretLinks) : Json :=
  .object [
    ("imagePullSecrets", .list (l.imagePullSecrets.map LocalReference.toJson)),
    ("secrets", .list (l.secrets.map ObjectReference.toJson))]

end SecretLinks

namespace ServiceAccount

/-- The two lists of a service account, empty where they are missing. -/
def links (a : ServiceAccount) : SecretLinks :=
  ⟨a.imagePullSecrets.getD [], a.secrets.getD []⟩

/-- The service account with other lists. -/
def withLinks (a : ServiceAccount) (links : SecretLinks) : ServiceAccount :=
  { a with imagePullSecrets := some links.imagePullSecrets, secrets := some links.secrets }

/-- Whether the account may use the secret of that name. -/
def uses (a : ServiceAccount) (secret : String) : Bool :=
  (a.secrets.getD []).any (·.name == some secret)

/-- **The lists with a secret in both**, at the end of each that lacks it; nothing if none does. -/
def linksWith (a : ServiceAccount) (secret : String) : Option SecretLinks :=
  if a.pullsWith secret && a.uses secret then none
  else
    some
      { imagePullSecrets :=
          if a.pullsWith secret then a.links.imagePullSecrets
          else a.links.imagePullSecrets ++ [⟨secret⟩]
        secrets :=
          if a.uses secret then a.links.secrets
          else a.links.secrets ++ [{ name := some secret }] }

end ServiceAccount

end RegistryBridge
