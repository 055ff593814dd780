import RegistryBridge.Proofs.Json.ReadBack
import RegistryBridge.Proofs.Text.Encoding
import RegistryBridge.PullSecret
/-!
# Pull secrets are read back

Name and password are sent as one text with a colon between them, so only a name without a colon comes
back. Of such names a pull secret says all that it was made of but where it lies. So two of them agree
exactly when they let in alike, and a pull secret is written anew exactly when its login changes.

## Main definitions

* `PullSecret.Login`: a host, and the name and password for it.
* `Secret.sent?`, `Secret.login?`: what is read off a pull secret.

## Main results

* `PullSecret.sent?_secret`, `PullSecret.login?_secret`: the login of a pull secret is the one that it
  was made of.
* `PullSecret.agrees_secret_iff`: pull secrets agree exactly when their logins are the same.
-/

namespace RegistryBridge

namespace PullSecret

/-- **What a pull secret lets in with**: a host, and the name and password for it. -/
structure Login where
  host : String
  user : String
  token : String
  deriving DecidableEq

/-- Name and password, parted at the first colon. -/
def parted? (pair : String) : Option (String × String) :=
  match pair.toList.dropWhile (· ≠ ':') with
  | _ :: token => some (String.ofList (pair.toList.takeWhile (· ≠ ':')), String.ofList token)
  | [] => none

/-- The text of name and password. -/
def joined? (auth : String) : Option String :=
  (Base64.decode? auth).bind String.fromUTF8?

/-- What a document gives its host, if there is only one and nothing for it but name and password. -/
def documentSent? : Json → Option (String × String)
  | .object [(top, .object [(host, .object [(entry, .text auth)])])] =>
    if top = "auths" ∧ entry = "auth" then (joined? auth).map fun pair => (host, pair) else none
  | _ => none

end PullSecret

namespace Secret

/-- **What is sent to whom**: the host of a secret, and the text of name and password for it. -/
def sent? (secret : Secret) : Option (String × String) :=
  (((secret.data.bind (·.get? PullSecret.key)).bind String.fromUTF8?).bind Json.parse?).bind
    PullSecret.documentSent?

/-- **The login of a secret**, its name and password parted at the first colon. -/
def login? (secret : Secret) : Option PullSecret.Login :=
  secret.sent?.bind fun (host, pair) =>
    (PullSecret.parted? pair).map fun (user, token) => ⟨host, user, token⟩

end Secret

namespace PullSecret

variable {name ns host user token : String} {name' ns' host' user' token' : String}

/-! ## Reading -/

/-- A name without a colon is all that stands before the first one. -/
theorem parted?_joined (plain : ':' ∉ user.toList) :
    parted? (user ++ ":" ++ token) = some (user, token) := by
  have before : ∀ c ∈ user.toList, decide (c ≠ ':') = true := by
    intro c mem
    have other : c ≠ ':' := fun same => plain (same ▸ mem)
    simpa using other
  have joined : (user ++ ":" ++ token).toList = user.toList ++ ':' :: token.toList := by
    simp
  have after : (user ++ ":" ++ token).toList.dropWhile (· ≠ ':') = ':' :: token.toList := by
    rw [joined, List.dropWhile_append_of_pos before, List.dropWhile_cons_of_neg (by simp)]
  have first : (user ++ ":" ++ token).toList.takeWhile (· ≠ ':') = user.toList := by
    rw [joined, List.takeWhile_append_of_pos before, List.takeWhile_cons_of_neg (by simp),
      List.append_nil]
  simp only [parted?, after, first, String.ofList_toList]

theorem joined?_auth (user token : String) :
    joined? (auth user token) = some (user ++ ":" ++ token) := by
  rw [joined?, auth, Base64.decode?_encode, Option.bind_some, Text.fromUTF8?_toUTF8]

/-- **The document of a pull secret is read back**, whatever the host and the login are. -/
theorem parse?_config (host user token : String) :
    Json.parse? (config host user token).compact = some (config host user token) :=
  Json.parse?_compact (by simp [config, Json.Numberless, Json.NumberlessFields])
    (by simp [config, Json.nesting, Json.nestingFields, Json.maxDepth])

/-- **What a pull secret sends** is the host, name and password that it was made of. -/
theorem sent?_secret (name ns host user token : String) :
    (secret name ns host user token).sent? = some (host, user ++ ":" ++ token) := by
  have held : (secret name ns host user token).data.bind (·.get? key) =
      some (config host user token).compact.toUTF8 := by
    simp only [secret, Option.bind_some, Table.get?, List.lookup_cons_self]
  rw [Secret.sent?, held, Option.bind_some, Text.fromUTF8?_toUTF8, Option.bind_some,
    parse?_config, Option.bind_some, config, documentSent?, if_pos ⟨rfl, rfl⟩, joined?_auth, Option.map_some]

/-- **The login of a pull secret** is the one that it was made of. -/
theorem login?_secret (plain : ':' ∉ user.toList) :
    (secret name ns host user token).login? = some ⟨host, user, token⟩ := by
  simp only [Secret.login?, sent?_secret, Option.bind_some, parted?_joined plain, Option.map_some]

/-! ## Agreement -/

/-- **Pull secrets agree exactly when their logins are the same**, wherever they lie. -/
theorem agrees_secret_iff (plain : ':' ∉ user.toList) (plain' : ':' ∉ user'.toList) :
    (secret name ns host user token).agrees (secret name' ns' host' user' token') = true ↔
      host = host' ∧ user = user' ∧ token = token' := by
  rw [Secret.agrees_iff]
  constructor
  · rintro ⟨-, data⟩
    have read : (secret name ns host user token).login? =
        (secret name' ns' host' user' token').login? := by
      rw [Secret.login?, Secret.sent?, data]
      rfl
    rw [login?_secret plain, login?_secret plain'] at read
    simpa using read
  · rintro ⟨rfl, rfl, rfl⟩
    exact ⟨rfl, rfl⟩

end PullSecret

end RegistryBridge
