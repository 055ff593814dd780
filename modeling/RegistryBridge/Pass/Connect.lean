import RegistryBridge.Credentials
import RegistryBridge.Pass.Basic
import RegistryBridge.Selection
/-!
# First steps of a pass

## Main definitions

* `Pass.integration`: the one integration that counts.
* `Pass.connect`: the connection to its registry, with the token that its secret holds.
-/

namespace RegistryBridge.Pass

/-- The one integration that counts. -/
def integration (object : ObjectReference) : Step Integration := do
  let all ← Step.cluster .listIntegrations
    (Failure.ofError object "Error listing QuayIntegrations")
  Step.of (Integration.required object all)

/-- **The connection to the registry of an integration.** -/
def connect (object : ObjectReference) (spec : IntegrationSpec) : Step Unit := do
  match spec.credentials with
  | none =>
    Step.fail
      { kind := .configuration, object
        message := "Credentials secret not specified on QuayIntegration" }
  | some entry =>
    let located (f : Failure) : Failure :=
      (f.detail "Namespace" entry.ns).detail "Secret" entry.name
    let missing := "Error Locating Quay Integration Secret"
    let found ← Step.cluster (.getSecret entry.ns entry.name) fun e =>
      located (Failure.ofError object missing e)
    match found with
    | none => Step.fail (located { kind := .configuration, object, message := missing })
    | some secret =>
      match Credentials.token secret entry with
      | .error e =>
        Step.fail
          ((located (Failure.ofError object "Invalid Quay Integration credentials" e)).detail
            "Detail" e.message)
      | .ok token =>
        ExceptT.mk (.ask (.connect spec.hostname token spec.insecure)
          fun (reply : Except RegistryError Unit) =>
            .done (reply.mapError fun e =>
              let f : Failure :=
                { kind := .configuration, object, message := "Failed to create Quay client" }
              (f.detail "Hostname" spec.hostname).causedBy (.registry e)))

end RegistryBridge.Pass
