import RegistryBridge.World.Basic
/-!
# An honest registry

## Main definitions

* `RegistryStore.answer`: the answer to a call, and what is stored then.
-/

namespace RegistryBridge.RegistryStore

open Registry (Response)

/-- The prototypes of an organization. -/
def prototypesOf (store : RegistryStore) (organization : String) : List Registry.Prototype :=
  (store.prototypes.get? organization).getD []

/-- The robot that the registry makes. -/
def newRobot (organization short : String) : Registry.Robot :=
  { name := robotName organization short, token := "token-" ++ short }

/-- **The answer to a call**, and what is stored then. -/
def answer (store : RegistryStore) : (call : RegistryCall) → Response call.Value × RegistryStore
  | .getOrganization organization =>
    (if store.organizations.contains organization then ⟨200, some ⟨organization⟩⟩ else ⟨404, none⟩,
      store)
  | .createOrganization organization =>
    (⟨201, some ()⟩,
      { store with organizations := store.organizations.insert organization () })
  | .deleteOrganization organization =>
    if store.organizations.contains organization then
      (⟨204, some ()⟩, { store with organizations := store.organizations.erase organization })
    else (⟨404, none⟩, store)
  | .getRobot organization short =>
    (match store.robots.get? (robotName organization short) with
    | some robot => ⟨200, some robot⟩
    | none => ⟨400, none⟩,
      store)
  | .createRobot organization short =>
    let robot := newRobot organization short
    (⟨201, some robot⟩,
      { store with robots := store.robots.insert (robotName organization short) robot })
  | .getPrototypes organization => (⟨200, some ⟨store.prototypesOf organization⟩⟩, store)
  | .createPrototype organization robot role =>
    let prototype := Registry.Prototype.forRobot robot role
    (⟨200, some prototype⟩,
      { store with
        prototypes :=
          store.prototypes.insert organization (store.prototypesOf organization ++ [prototype]) })
  | .getRepository organization name =>
    (if store.repositories.contains (qualified organization name) then
      ⟨200, some { name, ns := organization }⟩
    else ⟨404, none⟩,
      store)
  | .createRepository organization name =>
    (⟨201, some ()⟩,
      { store with repositories := store.repositories.insert (qualified organization name) () })

end RegistryBridge.RegistryStore
