import RegistryBridge.Cluster.Resource
/-!
# Image streams and imports into them

An image stream names images by tags. An import asks the cluster to fetch an image into a tag.

## Main definitions

* `ImageStream`, `ImageStreamImport`
-/

namespace RegistryBridge

open Json (Field Record Reader)

/-- What an image stream follows. -/
structure ImageStreamSpec where
  dockerImageRepository : Option String := none
  deriving DecidableEq, Repr, Inhabited

/-- An image stream. -/
structure ImageStream where
  metadata : Metadata
  spec : ImageStreamSpec := {}
  deriving DecidableEq, Repr, Inhabited

/-- How an image is fetched into a tag. -/
structure TagImportPolicy where
  insecure : Bool := false
  scheduled : Bool := false
  deriving DecidableEq, Repr, Inhabited

/-- Where workloads that use a tag pull from. -/
structure TagReferencePolicy where
  kind : String := ""
  deriving DecidableEq, Repr, Inhabited

/-- One image to fetch. -/
structure ImageImport where
  source : ObjectReference
  tag : Option LocalReference := none
  importPolicy : TagImportPolicy := {}
  referencePolicy : TagReferencePolicy := {}
  deriving DecidableEq, Repr, Inhabited

/-- What an import asks for. -/
structure ImageStreamImportSpec where
  keep : Bool := false
  images : List ImageImport := []
  deriving DecidableEq, Repr, Inhabited

/-- What the cluster says of an import; its entries are kept as they are. -/
structure ImageStreamImportStatus where
  images : List Json := []
  deriving DecidableEq, Repr, Inhabited

/-- A request to fetch images into an image stream. -/
structure ImageStreamImport where
  metadata : Metadata
  spec : ImageStreamImportSpec
  status : Option ImageStreamImportStatus := none
  deriving DecidableEq, Repr, Inhabited

/-- An entry that is written only when the list is not empty. -/
def listEntry {α : Type} (key : String) (write : α → Json) (values : List α) :
    Option (String × Json) :=
  if values.isEmpty then none else some (key, .list (values.map write))

namespace ImageStreamSpec

/-- Reads the spec of an image stream. -/
def ofJson : Reader ImageStreamSpec :=
  ((Record.of ImageStreamSpec.mk).field (.optional "dockerImageRepository" Reader.text)).read
    "ImageStreamSpec"

/-- Writes the spec of an image stream. -/
def toJson (s : ImageStreamSpec) : Json :=
  Json.record [optionalEntry "dockerImageRepository" .text s.dockerImageRepository]

end ImageStreamSpec

namespace ImageStream

/-- Reads an image stream. -/
def ofJson : Reader ImageStream :=
  ((Record.of ImageStream.mk)
    |>.field (.required "metadata" Metadata.ofJson)
    |>.field (.required "spec" ImageStreamSpec.ofJson)).read "ImageStream"

/-- Writes an image stream. -/
def toJson (s : ImageStream) : Json :=
  Resource.document "image.openshift.io/v1" "ImageStream" [
    some ("metadata", s.metadata.toJson),
    some ("spec", s.spec.toJson)]

end ImageStream

instance : Resource ImageStream where
  apiVersion := "image.openshift.io/v1"
  kind := "ImageStream"
  plural := "imagestreams"
  metadata := ImageStream.metadata
  read := ImageStream.ofJson
  write := ImageStream.toJson

namespace TagImportPolicy

/-- Reads an import policy. -/
def ofJson : Reader TagImportPolicy :=
  ((Record.of TagImportPolicy.mk)
    |>.field (.withDefault "insecure" Reader.bool false)
    |>.field (.withDefault "scheduled" Reader.bool false)).read "TagImportPolicy"

/-- Writes an import policy. -/
def toJson (p : TagImportPolicy) : Json :=
  .object [("insecure", .bool p.insecure), ("scheduled", .bool p.scheduled)]

end TagImportPolicy

namespace TagReferencePolicy

/-- Workloads pull from where the image came from, not from the cluster's own registry. -/
def fromSource : TagReferencePolicy := ⟨"Source"⟩

/-- Reads a reference policy. -/
def ofJson : Reader TagReferencePolicy :=
  ((Record.of TagReferencePolicy.mk).field (.withDefault "type" Reader.text "")).read
    "TagReferencePolicy"

/-- Writes a reference policy. -/
def toJson (p : TagReferencePolicy) : Json :=
  .object [("type", .text p.kind)]

end TagReferencePolicy

namespace ImageImport

/-- Reads an image to fetch. -/
def ofJson : Reader ImageImport :=
  ((Record.of ImageImport.mk)
    |>.field (.required "from" ObjectReference.ofJson)
    |>.field (.optional "to" LocalReference.ofJson)
    |>.field (.withDefault "importPolicy" TagImportPolicy.ofJson {})
    |>.field (.withDefault "referencePolicy" TagReferencePolicy.ofJson {})).read
      "ImageImportSpec"

/-- Writes an image to fetch. -/
def toJson (i : ImageImport) : Json :=
  Json.record [
    some ("from", i.source.toJson),
    optionalEntry "to" LocalReference.toJson i.tag,
    some ("importPolicy", i.importPolicy.toJson),
    some ("referencePolicy", i.referencePolicy.toJson)]

end ImageImport

namespace ImageStreamImportSpec

/-- Reads what an import asks for. -/
def ofJson : Reader ImageStreamImportSpec :=
  ((Record.of ImageStreamImportSpec.mk)
    |>.field (.withDefault "import" Reader.bool false)
    |>.field (.withDefault "images" (Reader.list ImageImport.ofJson) [])).read
      "ImageStreamImportSpec"

/-- Writes what an import asks for. -/
def toJson (s : ImageStreamImportSpec) : Json :=
  Json.record [
    some ("import", .bool s.keep),
    listEntry "images" ImageImport.toJson s.images]

end ImageStreamImportSpec

namespace ImageStreamImportStatus

/-- Reads what the cluster says of an import. -/
def ofJson : Reader ImageStreamImportStatus :=
  ((Record.of ImageStreamImportStatus.mk).field
    (.withDefault "images" (Reader.list Reader.anything) [])).read "ImageStreamImportStatus"

/-- Writes what the cluster says of an import. -/
def toJson (s : ImageStreamImportStatus) : Json :=
  Json.record [listEntry "images" id s.images]

end ImageStreamImportStatus

namespace ImageStreamImport

/-- Reads an import. -/
def ofJson : Reader ImageStreamImport :=
  ((Record.of ImageStreamImport.mk)
    |>.field (.required "metadata" Metadata.ofJson)
    |>.field (.required "spec" ImageStreamImportSpec.ofJson)
    |>.field (.optionalEntry "status" ImageStreamImportStatus.ofJson)).read "ImageStreamImport"

/-- Writes an import. -/
def toJson (i : ImageStreamImport) : Json :=
  Resource.document "image.openshift.io/v1" "ImageStreamImport" [
    some ("metadata", i.metadata.toJson),
    some ("spec", i.spec.toJson),
    optionalEntry "status" ImageStreamImportStatus.toJson i.status]

end ImageStreamImport

instance : Resource ImageStreamImport where
  apiVersion := "image.openshift.io/v1"
  kind := "ImageStreamImport"
  plural := "imagestreamimports"
  metadata := ImageStreamImport.metadata
  read := ImageStreamImport.ofJson
  write := ImageStreamImport.toJson

end RegistryBridge
