import RegistryBridge.Admission.Review
import RegistryBridge.Destination
import RegistryBridge.Pass.Call
import RegistryBridge.Registry.Address
import RegistryBridge.Selection
import RegistryBridge.Settings
/-!
# Sending a build's image to the registry

A build that would push into an image stream is edited before it is stored: it pushes to the registry
instead, and its annotations say where the image is to be imported afterwards. Whatever the bridge
does not take over passes unchanged.

## Main definitions

* `Redirect.edits`: the edits of a build.
* `Redirect.response`: the response to a request.
-/

namespace RegistryBridge.Redirect

/-- The service account that pushes images. -/
def builder : String := "builder"

/-- Where the reference to a build's output stands. -/
def outputPath (key : String) : List String := ["spec", "output", "to", key]

/-- The annotations that a build gets. -/
def marks (destination : Destination) : List (String × String) :=
  [(Marks.managed, Marks.on), (Marks.destination, destination.text)]

/-- **The edits of a build** that push its image to the registry and remember its destination. -/
def edits (b : Build) (destination : Destination) (image : String) : List Json.PatchOperation :=
  [.replace (outputPath "kind") (.text OutputReference.dockerImageKind),
    .replace (outputPath "name") (.text image)] ++
  (if (b.target.bind OutputReference.ns).isSome then [.remove (outputPath "namespace")] else []) ++
  (if b.metadata.annotations.isNone then
    [.add ["metadata", "annotations"]
      (.object ((marks destination).map fun (key, value) => (key, .text value)))]
  else
    (marks destination).map fun (key, value) =>
      .add ["metadata", "annotations", key] (.text value))

/-- The output of a build that the bridge takes over: a tag of an image stream, pushed by the build
itself. -/
def takenOver (b : Build) : Option OutputReference :=
  match b.target with
  | some output =>
    if output.isImageStreamTag && b.spec.strategy.pushesOutput then some output else none
  | none => none

/-- The response once the registry's part is known: the edits, or why there are none. -/
def redirected (r : AdmissionRequest) (b : Build) (spec : IntegrationSpec) (ns : String)
    (output : OutputReference) : AdmissionResponse :=
  match Destination.ofOutput (output.ns.getD ns) output.name with
  | .error e => .invalid (e.message ++ ": '" ++ e.value ++ "'")
  | .ok destination =>
    match Registry.host spec.hostname with
    | .error e => r.deny e.message
    | .ok host =>
      let image := destination.image host (spec.organization destination.ns)
      { r.allow with patch := some (edits b destination image) }

/-- What is said while the builder cannot pull from the registry yet. -/
def notLinked (ns secret : String) : String :=
  "Service account '" ++ builder ++ "' in namespace '" ++ ns ++
    "' does not reference pull secret '" ++ secret ++ "' yet"

/-- The response for a build of some namespace that the bridge may take over. -/
def judged (r : AdmissionRequest) (b : Build) (ns : String) (output : OutputReference) :
    Program Bridge AdmissionResponse :=
  .ask (.cluster .listIntegrations) fun (integrations : Except OperationError (List Integration)) =>
    match integrations with
    | .error e => .done (r.deny e.message)
    | .ok all =>
      match Integration.active all with
      | .error e =>
        .done { r.allow with warnings := some ["ConfigurationError: " ++ e.message] }
      | .ok integration =>
        let spec := integration.spec
        if ¬ spec.allows ns then .done r.allow
        else
          .ask (.cluster (.getServiceAccount ns builder))
            fun (account : Except OperationError (Option ServiceAccount)) =>
              match account with
              | .error e => .done (r.deny e.message)
              | .ok account =>
                let secret := spec.pullSecretName builder
                if account.any fun a => a.pullsWith secret then
                  .done (redirected r b spec ns output)
                else .done (r.deny (notLinked ns secret))

/-- **The response to a request.** -/
def response (r : AdmissionRequest) : Program Bridge AdmissionResponse :=
  match r.object with
  | none => .done r.allow
  | some object =>
    match object.build with
    | .error e => .done (.invalid ("serialization error: " ++ e.message))
    | .ok b =>
      match takenOver b with
      | none => .done r.allow
      | some output =>
        match r.ns.or b.metadata.ns with
        | none => .done (.invalid "Build request carries no namespace")
        | some ns => judged r b ns output

end RegistryBridge.Redirect
