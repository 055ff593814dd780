import RegistryBridge.World.Cluster
/-!
# Worlds as documents

A world is described part by part. Put over another world, a description replaces the lists of
integrations and of image streams and the parts of the registry that it has; all other objects it adds
to those that are there, in the place of the one with the same key.

## Main definitions

* `World.overlaid`: a world with a description put over it.
* `World.document`: what of a world is observed.
-/

namespace RegistryBridge

open Json (DecodeError Reader)

namespace Json

/-- A part of a description, if it has that part. -/
def part? {α : Type} (document : Json) (key : String) (read : Reader α) :
    Except DecodeError (Option α) :=
  match document.get? key with
  | some value => Reader.nullable read value
  | none => .ok none

/-- The text under a key, empty where there is none. -/
def textAt (document : Json) (key : String) : String :=
  match document.get? key with
  | some (.text s) => s
  | _ => ""

/-- The key under which the document of an object is stored. -/
def objectKey (document : Json) : String :=
  let metadata := document.childOrEmpty "metadata"
  let name := match metadata.get? "name" with
    | some (.text name) => name
    | _ => metadata.textAt "generateName"
  qualified (metadata.textAt "namespace") name

end Json

/-- A table with objects stored in it one after the other. -/
def Table.insertAll {α : Type} (key : α → String) (table : Table α) (objects : List α) : Table α :=
  objects.foldl (fun table object => table.insert (key object) object) table

namespace ClusterStore

/-- The store with a description put over it. -/
def overlaid (store : ClusterStore) (document : Json) : Except DecodeError ClusterStore := do
  let integrations ← document.part? "integrations" (Reader.list Integration.ofJson)
  let namespaces ← document.part? "namespaces" (Reader.list Namespace.ofJson)
  let secrets ← document.part? "secrets" (Reader.list Secret.ofJson)
  let serviceAccounts ← document.part? "service_accounts" (Reader.list ServiceAccount.ofJson)
  let imageStreams ← document.part? "image_streams" (Reader.list ImageStream.ofJson)
  let builds ← document.part? "builds" (Reader.list Reader.anything)
  return {
    integrations := integrations.getD store.integrations
    namespaces := store.namespaces.insertAll (·.metadata.displayName) (namespaces.getD [])
    secrets := store.secrets.insertAll (·.metadata.key) (secrets.getD [])
    serviceAccounts := store.serviceAccounts.insertAll (·.metadata.key) (serviceAccounts.getD [])
    imageStreams := imageStreams.getD store.imageStreams
    builds := store.builds.insertAll Json.objectKey (builds.getD []) }

/-- The finalizers of every namespace. -/
def finalizers (store : ClusterStore) : Json :=
  .object (store.namespaces.map fun (name, n) => (name, Json.texts n.metadata.finalizerList))

end ClusterStore

namespace RegistryStore

/-- Names as a table. -/
def names (xs : List String) : Table Unit :=
  Table.ofList (xs.map fun x => (x, ()))

/-- The store with a description put over it. -/
def overlaid (store : RegistryStore) (document : Json) : Except DecodeError RegistryStore := do
  let organizations ← document.part? "organizations" (Reader.list Reader.text)
  let robots ← document.part? "robots" (Reader.table Registry.Robot.ofJson)
  let prototypes ←
    document.part? "prototypes" (Reader.table (Reader.list Registry.Prototype.ofJson))
  let repositories ← document.part? "repositories" (Reader.list Reader.text)
  return {
    organizations := (organizations.map names).getD store.organizations
    robots := (robots.map Table.ofList).getD store.robots
    prototypes := (prototypes.map Table.ofList).getD store.prototypes
    repositories := (repositories.map names).getD store.repositories }

/-- What of a registry is observed. -/
def document (store : RegistryStore) : Json :=
  .object [
    ("organizations", Json.texts store.organizations.keys),
    ("robots", .object (store.robots.map fun (name, robot) => (name, robot.toJson))),
    ("prototypes", .object (store.prototypes.map fun (organization, prototypes) =>
      (organization, .list (prototypes.map Registry.Prototype.toJson)))),
    ("repositories", Json.texts store.repositories.keys)]

end RegistryStore

namespace World

/-- **A world with a description put over it.** -/
def overlaid (w : World) (document : Json) : Except DecodeError World := do
  let cluster ← w.cluster.overlaid document
  let registry ← w.registry.overlaid (document.childOrEmpty "registry")
  return { cluster, registry }

/-- **What of a world is observed.** -/
def document (w : World) : Json :=
  .object [
    ("finalizers", w.cluster.finalizers),
    ("secrets", .object (w.cluster.secrets.map fun (key, s) => (key, s.toJson))),
    ("service_accounts", .object (w.cluster.serviceAccounts.map fun (key, a) => (key, a.toJson))),
    ("builds", .object w.cluster.builds),
    ("registry", w.registry.document)]

end World

end RegistryBridge
