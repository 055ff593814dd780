import RegistryBridge.Admission.Webhook
import RegistryBridge.Pass.BuildPass
import RegistryBridge.Pass.IntegrationPass
import RegistryBridge.Pass.NamespacePass
import RegistryBridge.World.Answer
/-!
# Rehearsals

A rehearsal runs passes in a world in which some questions are answered otherwise: a call fails, or
the registry answers with some status. Such an answer leaves the world as it is. Every question is
written down.

## Main definitions

* `Question.words`, `Question.enclosure?`: how a question is called, and what it carries.
* `Arrangement`: a question that is answered otherwise.
* `Rehearsal`, `Rehearsal.answer`, `Rehearsal.run`
* `Rehearsal.arranges`, `Rehearsal.cleared`
* `Rehearsal.reconcileNamespace`, `Rehearsal.reconcileBuild`, `Rehearsal.reconcileIntegration`,
  `Rehearsal.receive`
-/

namespace RegistryBridge

/-- How a call of the cluster is called. -/
def ClusterCall.words : ClusterCall → List String
  | listIntegrations => ["list_integrations"]
  | getSecret ns name => ["get_secret", ns, name]
  | applySecret secret =>
    ["apply_secret", secret.metadata.ns.getD "", secret.metadata.displayName]
  | getServiceAccount ns name => ["get_service_account", ns, name]
  | linkServiceAccount ns name _ => ["patch_service_account_secrets", ns, name]
  | listImageStreams ns => ["list_image_streams", ns]
  | holdFinalizer name finalizer => ["add_namespace_finalizer", name, finalizer]
  | releaseFinalizer name finalizer => ["remove_namespace_finalizer", name, finalizer]
  | getImageStream ns name => ["get_image_stream", ns, name]
  | createImport request =>
    ["create_image_stream_import", request.metadata.ns.getD "", request.metadata.displayName]
  | noteBuild ns name key value => ["annotate_build", ns, name, key, value]
  | reportStatus name _ => ["patch_status", name]

/-- How a call of the registry is called. -/
def RegistryCall.words : RegistryCall → List String
  | getOrganization o => ["get_organization", o]
  | createOrganization o => ["create_organization", o]
  | deleteOrganization o => ["delete_organization", o]
  | getRobot o short => ["get_robot_account", o, short]
  | createRobot o short => ["create_robot_account", o, short]
  | getPrototypes o => ["get_prototypes", o]
  | createPrototype o robot role => ["create_prototype", o, robot, role.text]
  | getRepository o name => ["get_repository", o, name]
  | createRepository o name => ["create_repository", o, name]

/-- How a question is called. -/
def Question.words : Question → List String
  | cluster call => call.words
  | connect hostname token _ => ["connect", hostname, token]
  | registry call => call.words
  | publish event => ["publish", event.reason]

/-- The name of a question. -/
def Question.name (q : Question) : String :=
  Text.join " " q.words

/-- What a question carries beside its words. -/
def Question.enclosure? : Question → Option Json
  | cluster (.applySecret secret) => some secret.toJson
  | cluster (.linkServiceAccount _ _ links) => some links.toJson
  | cluster (.createImport request) => some request.toJson
  | cluster (.reportStatus _ status) => some status.toJson
  | connect _ _ insecure => some (.bool insecure)
  | _ => none

/-- How a question is answered otherwise. A failure is known to the cluster and to the registry, each
in its own words. -/
inductive Otherwise where
  | fails (cluster : OperationError) (registry : RegistryError)
  | answers (status : Nat) (body : Option Json)

/-- A question that is answered otherwise, perhaps only once. -/
structure Arrangement where
  name : String
  otherwise : Otherwise
  once : Bool := false

/-- A world in which some questions are answered otherwise, with all that has been asked. -/
structure Rehearsal where
  world : World := {}
  arranged : List Arrangement := []
  asked : List Question := []
  seen : LastSeen := []

namespace Rehearsal

variable {α : Type}

/-- The list without its first element that has a property. -/
def eraseFirst (p : α → Bool) : List α → List α
  | [] => []
  | x :: rest => if p x then rest else x :: eraseFirst p rest

/-- Whether something is arranged for questions of a name. -/
def arranges (r : Rehearsal) (name : String) : Bool :=
  r.arranged.any fun a => a.name == name

/-- The rehearsal with nothing arranged for questions of a name. -/
def cleared (r : Rehearsal) (name : String) : Rehearsal :=
  { r with arranged := r.arranged.filter fun a => a.name ≠ name }

/-- What an arrangement says to a question, if it can say anything to it. -/
def otherwise? : (question : Question) → Otherwise → Option question.Answer
  | .cluster call, .fails e _ => some (.error e : Except OperationError call.Value)
  | .connect .., .fails _ e => some (.error e : Except RegistryError Unit)
  | .registry call, .fails _ e =>
    some (.error e : Except RegistryError (Registry.Response call.Value))
  | .registry call, .answers status body =>
    let body := match body with
      | some .null => none
      | some document => (call.readContent document).toOption
      | none => none
    some (.ok ⟨status, body⟩ : Except RegistryError (Registry.Response call.Value))
  | _, _ => none

/-- **The answer to a question**, and the rehearsal then. -/
def answer (question : Question) (r : Rehearsal) : question.Answer × Rehearsal :=
  let r := { r with asked := r.asked ++ [question] }
  let honest : question.Answer × Rehearsal :=
    let (reply, world) := r.world.answer question
    (reply, { r with world })
  match r.arranged.find? fun a => a.name == question.name with
  | none => honest
  | some arrangement =>
    match otherwise? question arrangement.otherwise with
    | none => honest
    | some reply =>
      (reply,
        if arrangement.once then
          { r with arranged := eraseFirst (fun a => a.name == question.name) r.arranged }
        else r)

/-- **A program run in a rehearsal.** -/
def run (p : Program Bridge α) (r : Rehearsal) : α × Rehearsal :=
  p.run (I := Bridge) answer r

/-- A pass over a namespace. -/
def reconcileNamespace (n : Namespace) (r : Rehearsal) : Except Failure Action × Rehearsal :=
  r.run (NamespacePass.pass n)

/-- A pass over a build. -/
def reconcileBuild (b : Build) (r : Rehearsal) : Except Failure Action × Rehearsal :=
  r.run (BuildPass.pass b)

/-- A pass over an integration at some time. -/
def reconcileIntegration (now : Instant) (i : Integration) (r : Rehearsal) :
    Except Failure Action × Rehearsal :=
  let ((result, seen), r) := r.run (IntegrationPass.pass now r.seen i)
  (result, { r with seen })

/-- Something arrives at the webhook. -/
def receive (request : Webhook.Request) (r : Rehearsal) : Webhook.Answer × Rehearsal :=
  r.run (Webhook.answer request)

end Rehearsal

end RegistryBridge
