import RegistryBridge.Pass.Basic
import RegistryBridge.PullSecret
/-!
# What a bridged namespace has in the registry

A bridged namespace has an organization. Each of the platform's service accounts has a robot there
with a role of its own, a pull secret with the robot's token, and links to that secret. Each image
stream has a repository. Whatever is missing is made; nothing is ever taken away.

## Main definitions

* `roles`: the service accounts and the roles of their robots.
* `Provisioning`: what is known when a namespace is provisioned.
* `Provisioning.organizationStep`, `Provisioning.roleStep`, `Provisioning.repositories`
* `Provisioning.steps`: all of it.
-/

namespace RegistryBridge

/-- The platform's service accounts and the roles that their robots have. -/
def roles : List (String × Registry.Role) :=
  [("builder", .write), ("default", .read), ("deployer", .read)]

/-- What is known when a namespace is provisioned. -/
structure Provisioning where
  object : ObjectReference
  ns : String
  host : String
  spec : IntegrationSpec

namespace Provisioning

/-- The namespace's organization. -/
def organization (p : Provisioning) : String :=
  p.spec.organization p.ns

/-- A failure of the registry. -/
def registryFailure (p : Provisioning) (message key value : String) : Failure :=
  let f : Failure := { kind := .registry, object := p.object, message }
  f.detail key value

/-- The same failure, with the registry's error as its cause or with the status that it answered. -/
def withStatus (f : Failure) (status : Nat) : Failure :=
  f.detail "Status Code" (toString status)

/-! ## The organization -/

/-- Makes sure of the organization. -/
def organizationStep (p : Provisioning) : Step Unit := do
  let failure (message : String) := p.registryFailure message "Organization" p.organization
  let retrieving := failure "Error occurred retrieving Quay Organization"
  let creating := failure "Error occurred creating Quay Organization"
  let found ← Step.registry (.getOrganization p.organization) fun e =>
    retrieving.causedBy (.registry e)
  if found.status = 200 then return
  else if found.status = 404 then
    let made ← Step.registry (.createOrganization p.organization) fun e =>
      creating.causedBy (.registry e)
    if made.status ≠ 201 then Step.fail (withStatus creating made.status)
    Step.tell .organizationCreated p.object ("Created organization " ++ p.organization)
  else Step.fail (withStatus retrieving found.status)

/-! ## One service account -/

/-- The content of a robot's answer, with the name that it must have if it has none. -/
def robotOf (p : Provisioning) (account : String) (body : Option Registry.Robot) :
    Except Failure Registry.Robot :=
  match body with
  | none =>
    .error ((p.registryFailure "Robot account response carried no body" "Quay Organization"
      p.organization).detail "Robot Account" account)
  | some robot =>
    .ok (if robot.name = "" then { robot with name := robotName p.organization account } else robot)

/-- Makes sure of a robot. -/
def robotStep (p : Provisioning) (account : String) : Step Registry.Robot := do
  let failure (message : String) : Failure :=
    p.registryFailure message "Quay Organization" p.organization
  let about (f : Failure) : Failure := f.detail "Robot Account" account
  let retrieving := failure "Error occurred retrieving robot account for Quay Organization"
  let creating := failure "Error occurred creating robot account for Quay Organization"
  let found ← Step.registry (.getRobot p.organization account) fun e =>
    about (retrieving.causedBy (.registry e))
  if found.status = 200 then Step.of (p.robotOf account found.body)
  else if found.status = 400 ∨ found.status = 404 then
    let made ← Step.registry (.createRobot p.organization account) fun e =>
      about (creating.causedBy (.registry e))
    if made.status = 201 then Step.of (p.robotOf account made.body)
    else Step.fail (withStatus (about creating) made.status)
  else Step.fail (withStatus (about retrieving) found.status)

/-- Makes sure that a robot has its role by some prototype. -/
def prototypeStep (p : Provisioning) (robot : String) (role : Registry.Role) : Step Unit := do
  let failure (message : String) : Failure :=
    p.registryFailure message "Quay Organization" p.organization
  let retrieving := failure "Error occurred retrieving Prototypes for Quay Organization"
  let creating := failure "Error occurred creating Robot account permissions for Prototype"
  let about (f : Failure) : Failure :=
    (f.detail "Robot Account" robot).detail "Prototype" role.text
  let found ← Step.registry (.getPrototypes p.organization) fun e =>
    retrieving.causedBy (.registry e)
  if found.status ≠ 200 then Step.fail (withStatus retrieving found.status)
  else if (found.body.map fun (list : Registry.Prototypes) => list.grants robot role) = some true then
    return
  else
    let made ← Step.registry (.createPrototype p.organization robot role) fun e =>
      about (creating.causedBy (.registry e))
    if made.status ≠ 200 then Step.fail (withStatus (about creating) made.status)

/-- Makes sure that the pull secret of a service account holds its robot's token. -/
def pullSecretStep (p : Provisioning) (account : String) (robot : Registry.Robot) : Step Unit := do
  let name := p.spec.pullSecretName account
  let failure (message : String) (e : OperationError) : Failure :=
    ((Failure.ofError p.object message e).detail "Namespace" p.ns).detail "Secret" name
  let wanted := PullSecret.secret name p.ns p.host robot.name robot.token
  let existing ← Step.cluster (.getSecret p.ns name) (failure "Failed to read pull secret")
  if (existing.map fun (secret : Secret) => secret.agrees wanted) = some true then return
  else Step.cluster (.applySecret wanted) (failure "Failed to write pull secret")

/-- Makes sure that a service account is linked to its pull secret. -/
def linkStep (p : Provisioning) (account : String) : Step Unit := do
  let about (f : Failure) : Failure :=
    (f.detail "Namespace" p.ns).detail "Service Account" account
  let missing := "Failed to get existing platform service account"
  let found ← Step.cluster (.getServiceAccount p.ns account) fun e =>
    about (Failure.ofError p.object missing e)
  match found with
  | none => Step.fail (about { kind := .cluster, object := p.object, message := missing })
  | some existing =>
    match ServiceAccount.linksWith existing (p.spec.pullSecretName account) with
    | none => return
    | some links =>
      Step.cluster (.linkServiceAccount p.ns account links) fun e =>
        about (Failure.ofError p.object "Failed to update existing platform service account" e)

/-- **Everything for one service account**: its robot, the role, the pull secret, the links. -/
def roleStep (p : Provisioning) (account : String) (role : Registry.Role) : Step Unit := do
  let robot ← p.robotStep account
  p.prototypeStep robot.name role
  p.pullSecretStep account robot
  p.linkStep account

/-! ## Repositories -/

/-- Makes sure of the repository of one image stream. -/
def repositoryStep (p : Provisioning) (name : String) : Step Unit := do
  let failure (message : String) : Failure :=
    p.registryFailure message "Quay Repository" (p.organization ++ "/" ++ name)
  let creating := failure "Error occurred creating Quay Repository"
  let found ← Step.registry (.getRepository p.organization name) fun e =>
    (failure "Error Retrieving Repository").causedBy (.registry e)
  if found.status = 200 then return
  else if found.status = 403 ∨ found.status = 404 then
    let made ← Step.registry (.createRepository p.organization name) fun e =>
      creating.causedBy (.registry e)
    if made.status ≠ 201 then Step.fail (withStatus creating made.status)
  else Step.fail (withStatus (failure "Error Retrieving Repository for Namespace") found.status)

/-- Makes sure of the repositories of all image streams. -/
def repositories (p : Provisioning) : Step Unit := do
  let streams ← Step.cluster (.listImageStreams p.ns) fun e =>
    (Failure.ofError p.object "Error Retrieving ImageStreams for Namespace" e).detail "Namespace"
      p.ns
  Step.all (List.map (fun (stream : ImageStream) => p.repositoryStep stream.metadata.displayName)
    streams)

/-- **Everything that a bridged namespace has in the registry.** -/
def steps (p : Provisioning) : Step Unit := do
  p.organizationStep
  Step.all (roles.map fun (account, role) => p.roleStep account role)
  p.repositories

end Provisioning

end RegistryBridge
