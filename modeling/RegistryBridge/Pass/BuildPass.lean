import RegistryBridge.Destination
import RegistryBridge.Lifecycle
import RegistryBridge.Pass.Connect
/-!
# A pass over a build

When a build that the bridge has taken over is complete, its image is imported from the registry into
the tag that the build was first meant for. The build is marked as imported after that, so that it is
not imported again.

## Main definitions

* `importRequest`: the import of an image into a destination.
* `BuildPass.pass`
-/

namespace RegistryBridge

/-- **The import of an image into a destination**, as the integration asks for it. -/
def importRequest (destination : Destination) (version : Option String) (image : String)
    (spec : IntegrationSpec) : ImageStreamImport :=
  { metadata :=
      { name := some destination.name
        ns := some destination.ns
        resourceVersion := version }
    spec :=
      { keep := true
        images := [
          { source :=
              { kind := some OutputReference.dockerImageKind
                name := some image }
            tag := some ⟨destination.tag⟩
            importPolicy := ⟨spec.insecure, spec.scheduledImport⟩
            referencePolicy := .fromSource }] } }

namespace BuildPass

/-- A failure that names an image stream. -/
def streamFailure (object : ObjectReference) (destination : Destination) (message : String) :
    Failure :=
  let f : Failure := { kind := .processing, object, message }
  (f.detail "Namespace" destination.ns).detail "ImageStream" destination.name

/-- A failure that names the build. -/
def buildFailure (b : Build) (message : String) : Failure :=
  let f : Failure := { kind := .processing, object := Resource.reference b, message }
  (f.detail "Namespace" (b.metadata.ns.getD "")).detail "Build" b.metadata.displayName

/-- The failure that a mark on the build leads to when it names no destination. -/
def destinationFailure (b : Build) (raw : String) (e : DestinationError) : Failure :=
  (((buildFailure b e.message).detail "Annotation" raw).detail "Expected Size"
    (toString e.expected)).detail "Actual Size" (toString e.actual)

/-- Imports an image into a destination and marks the build. -/
def importImage (b : Build) (destination : Destination) (image : String) : Step Action := do
  let object := Resource.reference b
  let failure := streamFailure object destination
  let integration ← Pass.integration object
  let missing := failure "Unable to locate ImageStream"
  let found ← Step.cluster (.getImageStream destination.ns destination.name) fun e =>
    missing.causedBy (.operation e)
  match found with
  | none => Step.fail missing
  | some stream =>
    let request := importRequest destination (ImageStream.metadata stream).resourceVersion image
      integration.spec
    let _ ← Step.cluster (.createImport request) fun e =>
      (failure "Error occurred creating ImageStreamImport").causedBy (.operation e)
    let _ ← Step.cluster
      (.noteBuild (b.metadata.ns.getD "") b.metadata.displayName Marks.imported Marks.on) fun e =>
        (buildFailure b "Error occurred updating Build").causedBy (.operation e)
    Step.tell .imageImported object ("Imported " ++ image ++ " into " ++ destination.text)
    return .awaitChange

/-- The image that a build has pushed. -/
def pushedImage (b : Build) : Option String :=
  match b.target with
  | some target => if target.name = "" then none else some target.name
  | none => none

/-- **A pass over a build**, its failure not yet reported. -/
def step (b : Build) : Step Action :=
  match BuildPhase.of b with
  | .ready =>
    match b.metadata.note? Marks.destination with
    | none => return .awaitChange
    | some raw =>
      match Destination.parse raw with
      | .error e => Step.fail (destinationFailure b raw e)
      | .ok destination =>
        match pushedImage b with
        | none => Step.fail (buildFailure b "Build has no output image")
        | some image => importImage b destination image
  | _ => return .awaitChange

/-- **A pass over a build.** -/
def pass (b : Build) : Pass :=
  Pass.reporting (step b)

end BuildPass

end RegistryBridge
