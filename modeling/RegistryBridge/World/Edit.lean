import RegistryBridge.World.Cluster
/-!
# Edits of a world

Between two passes a world is edited from outside: an object is removed, a build advances, the
deletion of a namespace is asked for.

## Main definitions

* `World.Part`, `World.has`, `World.without`: one entry of a part by its key.
* `World.withPhase`: a build in another phase.
* `World.deletionAsked`: a namespace whose deletion has been asked for.
-/

namespace RegistryBridge.World

/-- The parts of a world whose entries have a key. -/
inductive Part where
  | namespaces
  | secrets
  | serviceAccounts
  | builds
  | organizations
  | robots
  | prototypes
  | repositories
  deriving DecidableEq, Repr, Inhabited

/-- Whether a part has an entry of some key. -/
def has (w : World) (part : Part) (key : String) : Bool :=
  match part with
  | .namespaces => w.cluster.namespaces.contains key
  | .secrets => w.cluster.secrets.contains key
  | .serviceAccounts => w.cluster.serviceAccounts.contains key
  | .builds => w.cluster.builds.contains key
  | .organizations => w.registry.organizations.contains key
  | .robots => w.registry.robots.contains key
  | .prototypes => w.registry.prototypes.contains key
  | .repositories => w.registry.repositories.contains key

/-- **The world without an entry.** -/
def without (w : World) (part : Part) (key : String) : World :=
  let c := w.cluster
  let r := w.registry
  match part with
  | .namespaces => { w with cluster := { c with namespaces := c.namespaces.erase key } }
  | .secrets => { w with cluster := { c with secrets := c.secrets.erase key } }
  | .serviceAccounts => { w with cluster := { c with serviceAccounts := c.serviceAccounts.erase key } }
  | .builds => { w with cluster := { c with builds := c.builds.erase key } }
  | .organizations => { w with registry := { r with organizations := r.organizations.erase key } }
  | .robots => { w with registry := { r with robots := r.robots.erase key } }
  | .prototypes => { w with registry := { r with prototypes := r.prototypes.erase key } }
  | .repositories => { w with registry := { r with repositories := r.repositories.erase key } }

/-- The world with a build stored. -/
def withBuild (w : World) (key : String) (document : Json) : World :=
  { w with cluster := { w.cluster with builds := w.cluster.builds.insert key document } }

/-- **The world with a build in another phase**, if it has that build. -/
def withPhase (w : World) (key phase : String) : World :=
  match w.cluster.builds.get? key with
  | some document => w.withBuild key (document.set "status" (.object [("phase", .text phase)]))
  | none => w

/-- **The world once the deletion of a namespace has been asked for** at some time. -/
def deletionAsked (w : World) (name : String) (now : Instant) : World :=
  match w.cluster.namespaces.get? name with
  | some n =>
    let n := { n with metadata := { n.metadata with deletionTimestamp := some now } }
    { w with cluster := { w.cluster with namespaces := w.cluster.namespaces.insert name n } }
  | none => w

end RegistryBridge.World
