import RegistryBridge.Cluster.Resource
/-!
# Builds

A build makes an image by a strategy and pushes it to an output.

## Main definitions

* `Build`
* `BuildStrategy.pushesOutput`, `OutputReference.isImageStreamTag`, `Build.complete`
-/

namespace RegistryBridge

open Json (Field Record Reader)

/-- How a build makes its image; the options of a strategy are kept as they are. -/
structure BuildStrategy where
  kind : Option String := none
  dockerStrategy : Option Json := none
  sourceStrategy : Option Json := none
  deriving DecidableEq, Repr, Inhabited

/-- The object that a build pushes to. -/
structure OutputReference where
  kind : String := ""
  name : String := ""
  ns : Option String := none
  deriving DecidableEq, Repr, Inhabited

/-- Where a build pushes its image, if anywhere. -/
structure BuildOutput where
  target : Option OutputReference := none
  deriving DecidableEq, Repr, Inhabited

/-- What a build is asked to do. -/
structure BuildSpec where
  strategy : BuildStrategy := {}
  output : BuildOutput := {}
  deriving DecidableEq, Repr, Inhabited

/-- How far a build has come. -/
structure BuildStatus where
  phase : Option String := none
  deriving DecidableEq, Repr, Inhabited

/-- A build. -/
structure Build where
  metadata : Metadata
  spec : BuildSpec
  status : Option BuildStatus := none
  deriving DecidableEq, Repr, Inhabited

namespace BuildStrategy

/-- Reads a strategy. -/
def ofJson : Reader BuildStrategy :=
  ((Record.of BuildStrategy.mk)
    |>.field (.optional "type" Reader.text)
    |>.field (.optional "dockerStrategy" Reader.anything)
    |>.field (.optional "sourceStrategy" Reader.anything)).read "BuildStrategy"

/-- Writes a strategy. -/
def toJson (s : BuildStrategy) : Json :=
  Json.record [
    optionalEntry "type" .text s.kind,
    optionalEntry "dockerStrategy" id s.dockerStrategy,
    optionalEntry "sourceStrategy" id s.sourceStrategy]

/-- Whether the build pushes its own output, so that it can be pushed elsewhere: builds from a
container file and from source do. -/
def pushesOutput (s : BuildStrategy) : Bool :=
  s.kind == some "Docker" || s.kind == some "Source" || s.dockerStrategy.isSome ||
    s.sourceStrategy.isSome

end BuildStrategy

namespace OutputReference

/-- The kind of an output that is a tag of an image stream. -/
def imageStreamTagKind : String := "ImageStreamTag"

/-- The kind of an output that is an image reference. -/
def dockerImageKind : String := "DockerImage"

/-- Reads an output reference. -/
def ofJson : Reader OutputReference :=
  ((Record.of OutputReference.mk)
    |>.field (.withDefault "kind" Reader.text "")
    |>.field (.withDefault "name" Reader.text "")
    |>.field (.optional "namespace" Reader.text)).read "OutputReference"

/-- Writes an output reference. -/
def toJson (o : OutputReference) : Json :=
  Json.record [
    some ("kind", .text o.kind),
    some ("name", .text o.name),
    optionalEntry "namespace" .text o.ns]

/-- Whether the output is a tag of an image stream. -/
def isImageStreamTag (o : OutputReference) : Bool :=
  o.kind == imageStreamTagKind

end OutputReference

namespace BuildOutput

/-- Reads an output. -/
def ofJson : Reader BuildOutput :=
  ((Record.of BuildOutput.mk).field (.optional "to" OutputReference.ofJson)).read "BuildOutput"

/-- Writes an output. -/
def toJson (o : BuildOutput) : Json :=
  Json.record [optionalEntry "to" OutputReference.toJson o.target]

end BuildOutput

namespace BuildSpec

/-- Reads a build's spec. -/
def ofJson : Reader BuildSpec :=
  ((Record.of BuildSpec.mk)
    |>.field (.withDefault "strategy" BuildStrategy.ofJson {})
    |>.field (.withDefault "output" BuildOutput.ofJson {})).read "BuildSpec"

/-- Writes a build's spec. -/
def toJson (s : BuildSpec) : Json :=
  .object [("strategy", s.strategy.toJson), ("output", s.output.toJson)]

end BuildSpec

namespace BuildStatus

/-- Reads a build's status. -/
def ofJson : Reader BuildStatus :=
  ((Record.of BuildStatus.mk).field (.optional "phase" Reader.text)).read "BuildStatus"

/-- Writes a build's status. -/
def toJson (s : BuildStatus) : Json :=
  Json.record [optionalEntry "phase" .text s.phase]

end BuildStatus

namespace Build

/-- The phase of a build that has pushed its image. -/
def completePhase : String := "Complete"

/-- Reads a build. -/
def ofJson : Reader Build :=
  ((Record.of Build.mk)
    |>.field (.required "metadata" Metadata.ofJson)
    |>.field (.required "spec" BuildSpec.ofJson)
    |>.field (.optionalEntry "status" BuildStatus.ofJson)).read "Build"

/-- Writes a build. -/
def toJson (b : Build) : Json :=
  Resource.document "build.openshift.io/v1" "Build" [
    some ("metadata", b.metadata.toJson),
    some ("spec", b.spec.toJson),
    optionalEntry "status" BuildStatus.toJson b.status]

/-- Where the build pushes its image. -/
def target (b : Build) : Option OutputReference :=
  b.spec.output.target

/-- Whether the build has pushed its image. -/
def complete (b : Build) : Bool :=
  (b.status.bind BuildStatus.phase) == some completePhase

end Build

instance : Resource Build where
  apiVersion := "build.openshift.io/v1"
  kind := "Build"
  plural := "builds"
  metadata := Build.metadata
  read := Build.ofJson
  write := Build.toJson

end RegistryBridge
