import RegistryBridge.Cluster.Integration
import RegistryBridge.Cluster.Secret
import RegistryBridge.Error
import RegistryBridge.Text.WhiteSpace
/-!
# Credentials for the registry

## Main definitions

* `Credentials.token`: the token that an entry of a secret holds.
-/

namespace RegistryBridge.Credentials

/-- An error about an entry of the secret. It tells nothing of what the entry holds. -/
def about (what key rest : String) : OperationError :=
  .configuration ("Credential Secret " ++ what ++ " '" ++ key ++ "'" ++ rest)

/-- **The token that an entry of a secret holds**: its text without the white space at its ends,
which must leave something. -/
def token (secret : Secret) (entry : SecretKey) : Except OperationError String :=
  let key := entry.entry
  match (secret.data.getD []).get? key with
  | none => .error (about "does not contain key" key "")
  | some bytes =>
    match String.fromUTF8? bytes with
    | none => .error (about "key" key " is not valid UTF-8")
    | some text =>
      let token := Text.trim text
      if token = "" then .error (about "key" key " is empty") else .ok token

end RegistryBridge.Credentials
