import RegistryBridge.Cluster.Secret
import RegistryBridge.Json.Printer
/-!
# Pull secrets

A pull secret holds a document that gives a host of images the name and password to pull with, joined
by a colon and in Base64.

## Main definitions

* `PullSecret.config`: the document.
* `PullSecret.secret`: the secret that holds it.
* `Secret.agrees`: whether a secret already holds what another one would.

## Main results

* `Secret.agrees_iff`: secrets agree exactly when their kinds and their data are equal.
-/

namespace RegistryBridge

namespace PullSecret

/-- Name and password as they are sent. -/
def auth (user token : String) : String :=
  Base64.encode (user ++ ":" ++ token).toUTF8

/-- **The document that lets a user pull from a host.** -/
def config (host user token : String) : Json :=
  .object [("auths", .object [(host, .object [("auth", .text (auth user token))])])]

/-- The kind of secret that images are pulled with. -/
def kind : String := "kubernetes.io/dockerconfigjson"

/-- The entry that holds the document. -/
def key : String := ".dockerconfigjson"

/-- **The secret that lets a user pull from a host.** -/
def secret (name ns host user token : String) : Secret :=
  { metadata := { name := some name, ns := some ns }
    kind := some kind
    data := some [(key, (config host user token).compact.toUTF8)] }

end PullSecret

/-- Whether a secret already is of the kind of another one and holds the same data. -/
def Secret.agrees (existing wanted : Secret) : Bool :=
  existing.kind == wanted.kind && existing.data == wanted.data

instance instLawfulBEqByteArray : LawfulBEq ByteArray where
  eq_of_beq {a b} h := by
    have data : a.data = b.data := eq_of_beq (show (a.data == b.data) = true from h)
    exact ByteArray.ext data
  rfl {a} := show (a.data == a.data) = true from beq_self_eq_true _

/-- **Secrets agree exactly when their kinds and their data are equal.** -/
theorem Secret.agrees_iff {existing wanted : Secret} :
    existing.agrees wanted = true ↔ existing.kind = wanted.kind ∧ existing.data = wanted.data := by
  simp [agrees]

end RegistryBridge
