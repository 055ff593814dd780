import RegistryBridge.Cluster.Namespace
import RegistryBridge.ClusterApi.Request
import RegistryBridge.Pass.Call
import RegistryBridge.Settings
/-!
# The cluster's calls as requests

Most calls are one request. An edit of the finalizers of a namespace reads the namespace first, so
that the finalizers of others stay.

## Main definitions

* `ClusterApi.call`: a call as a program of requests.
-/

namespace RegistryBridge.ClusterApi

open Json (Reader)

variable {α : Type}

/-- A call that ends with a value or with an error. -/
abbrev Attempt (α : Type) := Program Wire (Except OperationError α)

/-- One request whose answer is read. -/
def send (request : Request) (read : Reader α) : Attempt α :=
  .ask request fun (answer : Answer) => .done (decode read answer)

/-- Nothing of an answer but that it is one. -/
def ignore (attempt : Attempt α) : Attempt Unit :=
  attempt.bind fun result => .done (result.map fun _ => ())

/-- A request for an object that must have a name. -/
def named (name : String) (attempt : Attempt α) : Attempt α :=
  if name = "" then .done (.error .nameless) else attempt

/-- An object. -/
def get (α : Type) [Resource α] (ns : Option String) (name : String) : Attempt α :=
  named name
    (send { method := "GET"
            path := objectPath (Resource.apiVersion α) (Resource.plural α) ns name }
      Resource.read)

/-- An object, if it is there: the reason of the answer counts, not its status. -/
def find (α : Type) [Resource α] (ns : Option String) (name : String) : Attempt (Option α) :=
  (get α ns name).bind fun result =>
    .done (match result with
      | .ok object => .ok (some object)
      | .error (.api status) =>
        if status.reason = ApiStatus.notFoundReason then .ok none else .error (.api status)
      | .error e => .error e)

/-- All objects of a kind. -/
def list (α : Type) [Resource α] (ns : Option String) : Attempt (List α) :=
  send { method := "GET", path := listPath (Resource.apiVersion α) (Resource.plural α) ns }
    (readList Resource.read)

/-- An object with a patch merged into it. -/
def mergeInto (α : Type) [Resource α] (ns : Option String) (name : String) (body : Json) :
    Attempt Unit :=
  named name
    (ignore (send
      (merge (objectPath (Resource.apiVersion α) (Resource.plural α) ns name) [] body)
      (Resource.read : Reader α)))

/-- The patch that sets the finalizers of an object. -/
def finalizersPatch (finalizers : List String) : Json :=
  .object [("metadata", .object [("finalizers", Json.texts finalizers)])]

/-- The patch that sets one annotation of an object. -/
def annotationPatch (key value : String) : Json :=
  .object [("metadata", .object [("annotations", .object [(key, .text value)])])]

/-- Writes a whole secret, whoever wrote it before. -/
def applySecret (secret : Secret) : Attempt Unit :=
  match secret.metadata.ns with
  | none => .done (.error (.internal "secret has no namespace"))
  | some ns =>
    let name := secret.metadata.displayName
    named name
      (ignore (send
        { method := "PATCH"
          path := objectPath "v1" "secrets" (some ns) name
          query := [("fieldManager", Settings.fieldManager), ("force", "true")]
          contentType := some "application/apply-patch+yaml"
          body := some secret.toJson }
        Secret.ofJson))

/-- Puts a finalizer on a namespace that lacks it. -/
def holdFinalizer (name finalizer : String) : Attempt Unit :=
  (get Namespace none name).bind fun result =>
    match result with
    | .error e => .done (.error e)
    | .ok n =>
      if n.metadata.finalizedBy finalizer then .done (.ok ())
      else
        mergeInto Namespace none name
          (finalizersPatch (Finalizers.hold n.metadata.finalizerList finalizer))

/-- Takes a finalizer off a namespace, unless the namespace is gone. -/
def releaseFinalizer (name finalizer : String) : Attempt Unit :=
  (find Namespace none name).bind fun result =>
    match result with
    | .error e => .done (.error e)
    | .ok none => .done (.ok ())
    | .ok (some n) =>
      mergeInto Namespace none name
        (finalizersPatch (Finalizers.release n.metadata.finalizerList finalizer))

/-- Asks for an import. -/
def createImport (request : ImageStreamImport) : Attempt Unit :=
  match request.metadata.ns with
  | none => .done (.error (.internal "ImageStreamImport has no namespace"))
  | some ns =>
    ignore (send
      { method := "POST"
        path := listPath "image.openshift.io/v1" "imagestreamimports" (some ns)
        contentType := some "application/json"
        body := some request.toJson }
      ImageStreamImport.ofJson)

/-- Reports the status of an integration. -/
def reportStatus (name : String) (status : IntegrationStatus) : Attempt Unit :=
  named name
    (ignore (send
      (merge (objectPath "quay.redhat.com/v1" "quayintegrations" none name ++ "/status")
        [("fieldManager", Settings.fieldManager)] (.object [("status", status.toJson)]))
      Integration.ofJson))

/-- **A call as a program of requests.** -/
def call : (call : ClusterCall) → Attempt call.Value
  | .listIntegrations => list Integration none
  | .getSecret ns name => find Secret (some ns) name
  | .applySecret secret => applySecret secret
  | .getServiceAccount ns name => find ServiceAccount (some ns) name
  | .linkServiceAccount ns name links =>
    mergeInto ServiceAccount (some ns) name links.toJson
  | .listImageStreams ns => list ImageStream (some ns)
  | .holdFinalizer name finalizer => holdFinalizer name finalizer
  | .releaseFinalizer name finalizer => releaseFinalizer name finalizer
  | .getImageStream ns name => find ImageStream (some ns) name
  | .createImport request => createImport request
  | .noteBuild ns name key value => mergeInto Build (some ns) name (annotationPatch key value)
  | .reportStatus name status => reportStatus name status

end RegistryBridge.ClusterApi
