import RegistryBridge.Pass.Provision
import RegistryBridge.Proofs.ServiceAccount.Links
import RegistryBridge.World.Cluster
import RegistryBridge.World.Registry
/-!
# A namespace that has all it needs

A bridged namespace is settled when its organization is there, every service account of the platform
has its robot, the robot's role, the pull secret and the links, and every image stream has a
repository.

## Main definitions

* `Provisioning.RoleSettled`: a service account has all it needs.
* `Provisioning.Settled`: the whole namespace has.
* `Provisioning.HasAccounts`: the service accounts that it takes are there.
-/

namespace RegistryBridge

theorem Table.contains_insert_self {α : Type} (table : Table α) (key : String) (value : α) :
    (table.insert key value).contains key = true := by
  simp [Table.contains]

theorem Table.contains_insert {α : Type} {table : Table α} {other : String}
    (h : table.contains other = true) (key : String) (value : α) :
    (table.insert key value).contains other = true := by
  unfold Table.contains at *
  rw [Table.get?_insert]
  split
  · rfl
  · exact h

theorem qualified_injective (ns : String) : Function.Injective (qualified ns) := by
  intro name other h
  simpa [qualified, String.append_assoc] using h

theorem Registry.Prototypes.grants_of_prefix {list longer : List Registry.Prototype}
    {robot : String} {role : Registry.Role} (h : list <+: longer)
    (granted : (⟨list⟩ : Registry.Prototypes).grants robot role = true) :
    (⟨longer⟩ : Registry.Prototypes).grants robot role = true := by
  simp only [grants, List.any_eq_true] at granted ⊢
  obtain ⟨prototype, mem, gives⟩ := granted
  exact ⟨prototype, h.subset mem, gives⟩

namespace Provisioning

variable (p : Provisioning)

/-- The key under which the pull secret of a service account is stored. -/
def secretKey (account : String) : String :=
  qualified p.ns (p.spec.pullSecretName account)

/-- The key under which a service account is stored. -/
def accountKey (account : String) : String :=
  qualified p.ns account

/-- The key under which the robot of a service account is stored. -/
def robotKey (account : String) : String :=
  robotName p.organization account

/-- A robot by the name that it goes by: its own, or the one that it must have. -/
def named (account : String) (robot : Registry.Robot) : Registry.Robot :=
  if robot.name = "" then { robot with name := p.robotKey account } else robot

/-- The pull secret that a robot's token calls for. -/
def wanted (account user token : String) : Secret :=
  PullSecret.secret (p.spec.pullSecretName account) p.ns p.host user token

theorem robotOf_some (account : String) (robot : Registry.Robot) :
    p.robotOf account (some robot) = .ok (p.named account robot) := by
  simp [robotOf, named, robotKey]

theorem secretKey_injective : Function.Injective p.secretKey := by
  intro account other h
  have h' := qualified_injective p.ns h
  simpa [IntegrationSpec.pullSecretName] using h'

theorem accountKey_injective : Function.Injective p.accountKey :=
  qualified_injective p.ns

theorem key_wanted (account user token : String) :
    (p.wanted account user token).metadata.key = p.secretKey account := by
  simp [wanted, PullSecret.secret, Metadata.key, Metadata.displayName, secretKey]

/-! ## Settled -/

/-- A service account's robot is there. -/
def HasRobot (account : String) (robot : Registry.Robot) (w : World) : Prop :=
  w.registry.robots.get? (p.robotKey account) = some robot

/-- A robot has a role by some prototype of the organization. -/
def HasGrant (robot : String) (role : Registry.Role) (w : World) : Prop :=
  (⟨w.registry.prototypesOf p.organization⟩ : Registry.Prototypes).grants robot role = true

/-- A service account's pull secret is there, of the kind and with the data that a robot's token
calls for. -/
def HasSecret (account : String) (robot : Registry.Robot) (w : World) : Prop :=
  ∃ secret, w.cluster.secrets.get? (p.secretKey account) = some secret ∧
    secret.agrees (p.wanted account robot.name robot.token) = true

/-- A service account is there, and linked to its pull secret. -/
def HasLinks (account : String) (w : World) : Prop :=
  ∃ a, w.cluster.serviceAccounts.get? (p.accountKey account) = some a ∧
    a.Linked (p.spec.pullSecretName account)

/-- **A service account has all it needs.** -/
def RoleSettled (role : String × Registry.Role) (w : World) : Prop :=
  ∃ robot, p.HasRobot role.1 robot w ∧ p.HasGrant (p.named role.1 robot).name role.2 w ∧
    p.HasSecret role.1 (p.named role.1 robot) w ∧ p.HasLinks role.1 w

/-- An image stream has its repository. -/
def RepositorySettled (name : String) (w : World) : Prop :=
  w.registry.repositories.contains (qualified p.organization name) = true

/-- The image streams of the namespace. -/
def streams (w : World) : List ImageStream :=
  w.cluster.imageStreams.filter fun stream => stream.metadata.ns == some p.ns

/-- **The whole namespace has all it needs.** -/
structure Settled (w : World) : Prop where
  organization : w.registry.organizations.contains p.organization = true
  roles : ∀ role ∈ roles, p.RoleSettled role w
  repositories : ∀ stream ∈ p.streams w, p.RepositorySettled stream.metadata.displayName w

/-- The service accounts of the platform are there. -/
def HasAccounts (w : World) : Prop :=
  ∀ role ∈ roles, (w.cluster.serviceAccounts.get? (p.accountKey role.1)).isSome = true

end Provisioning

end RegistryBridge
