import RegistryBridge.Cluster.Build
import RegistryBridge.Json.Patch
import RegistryBridge.Json.Printer
/-!
# Reviews of objects before they are stored

Before the cluster stores a build it asks the webhook for a review. The review's request holds the
object as it was submitted; the response allows or denies it and may ask for edits.

## Main definitions

* `Submitted`: an object of any kind, with its metadata read.
* `AdmissionRequest`, read from a review.
* `AdmissionResponse`, written as a review.
-/

namespace RegistryBridge

open Json (Field Record Reader DecodeError)

/-- An object of any kind as it was submitted: its metadata, and its other entries as they are. -/
structure Submitted where
  metadata : Metadata
  entries : List (String × Json)
  deriving DecidableEq, Repr, Inhabited

/-- What the webhook is asked. -/
structure AdmissionRequest where
  apiVersion : String
  kind : String
  uid : String
  ns : Option String
  object : Option Submitted
  deriving DecidableEq, Repr, Inhabited

/-- What is said of a verdict. -/
structure AdmissionStatus where
  status : Option String := none
  message : String := ""
  reason : String := ""
  deriving DecidableEq, Repr, Inhabited

/-- What the webhook answers. -/
structure AdmissionResponse where
  apiVersion : String
  kind : String
  uid : String
  allowed : Bool := true
  status : AdmissionStatus := {}
  patch : Option (List Json.PatchOperation) := none
  warnings : Option (List String) := none
  deriving DecidableEq, Repr

namespace Submitted

/-- Reads an object of any kind. -/
def ofJson : Reader Submitted
  | .object fields =>
    if 1 < (fields.filter (·.1 == "metadata")).length then .error (.repeatedField "metadata")
    else do
      let metadata ←
        match List.lookup "metadata" fields with
        | some m => Metadata.ofJson m
        | none => .ok {}
      return ⟨metadata, fields.filter fun entry =>
        entry.1 ≠ "metadata" ∧ entry.1 ≠ "apiVersion" ∧ entry.1 ≠ "kind"⟩
  | other => .error (.wrongType other.found .table)

/-- The object as a document, its metadata written anew. -/
def document (s : Submitted) : Json :=
  Json.normal (.object (("metadata", s.metadata.toJson) :: s.entries))

/-- The build that was submitted, if it is one. -/
def build (s : Submitted) : Except DecodeError Build :=
  Build.ofJson s.document

end Submitted

namespace AdmissionRequest

/-- Reads the names of a kind or of a resource. -/
def readNames (last name : String) : Reader Unit :=
  ((Record.of fun (_ _ _ : String) => ())
    |>.field (.required "group" Reader.text)
    |>.field (.required "version" Reader.text)
    |>.field (.required last Reader.text)).read name

/-- Reads the kind of an object. -/
def readKind : Reader Unit := readNames "kind" "GroupVersionKind"

/-- Reads the name under which a kind is served. -/
def readResource : Reader Unit := readNames "resource" "GroupVersionResource"

/-- Reads what is being done to the object. -/
def readOperation : Reader String :=
  Reader.variant (fun name =>
    if ["CREATE", "UPDATE", "DELETE", "CONNECT"].contains name then some name else none)
    ["CREATE", "UPDATE", "DELETE", "CONNECT"]

/-- Reads who asks. -/
def readUser : Reader Unit :=
  ((Record.of fun (_ : Option (Table (List String))) (_ : Option (List String))
      (_ _ : Option String) => ())
    |>.field (.optional "extra" (Reader.table (Reader.list Reader.text)))
    |>.field (.optional "groups" (Reader.list Reader.text))
    |>.field (.optional "uid" Reader.text)
    |>.field (.optional "username" Reader.text)).readResource "UserInfo"

/-- What a request says beside its version. -/
def record : Record (String → String → AdmissionRequest) :=
  (Record.of fun (uid : String) (_ _ : Unit) (_ : Option String) (_ _ : Option Unit)
      (_ : Option String) (_ : String) (ns : Option String) (_ : String) (_ : Unit)
      (object _ : Option Submitted) (_ : Bool) apiVersion kind =>
    (⟨apiVersion, kind, uid, ns, object⟩ : AdmissionRequest))
    |>.field (.required "uid" Reader.text)
    |>.field (.required "kind" readKind)
    |>.field (.required "resource" readResource)
    |>.field (.optional "subResource" Reader.text)
    |>.field (.optional "requestKind" readKind)
    |>.field (.optional "requestResource" readResource)
    |>.field (.optional "requestSubResource" Reader.text)
    |>.field (.withDefault "name" Reader.text "")
    |>.field (.optional "namespace" Reader.text)
    |>.field (.required "operation" readOperation)
    |>.field (.required "userInfo" readUser)
    |>.field (.optionalEntry "object" Submitted.ofJson)
    |>.field (.optionalEntry "oldObject" Submitted.ofJson)
    |>.field (.withDefault "dryRun" Reader.bool false)

/-- Reads the status of a response. -/
def readStatus : Reader Unit :=
  ((Record.of fun (_ : Option String) (_ : Int) (_ _ : String) => ())
    |>.field (.optional "status" (Reader.variant (fun name =>
      if ["Success", "Failure"].contains name then some name else none) ["Success", "Failure"]))
    |>.field (.withDefault "code" (Reader.integer "u16" 0 65535) 0)
    |>.field (.withDefault "message" Reader.text "")
    |>.field (.withDefault "reason" Reader.text "")).read "Status"

/-- Reads a response that a review holds already; only its form counts. -/
def readResponse : Reader Unit :=
  ((Record.of fun (_ : String) (_ : Bool) (_ : Unit) (_ : Option (List Int)) => ())
    |>.field (.required "uid" Reader.text)
    |>.field (.required "allowed" Reader.bool)
    |>.field (.required "status" readStatus)
    |>.field (.optional "patch" (Reader.list (Reader.integer "u8" 0 255)))).read
      "AdmissionResponse"

/-- **Reads a review**: the request that it holds, if it holds one. -/
def ofReview : Reader (Option AdmissionRequest)
  | .object fields =>
    ((Record.of fun (apiVersion kind : String)
        (request : Option (String → String → AdmissionRequest)) (_ : Option Unit) =>
          request.map fun make => make apiVersion kind)
      |>.field (.required "apiVersion" Reader.text)
      |>.field (.required "kind" Reader.text)
      |>.field (.optional "request" (record.read "AdmissionRequest"))
      |>.field (.optional "response" readResponse)).read "AdmissionReview" (.object fields)
  | other => .error (.wrongType other.found (.record "AdmissionReview"))

/-- The response that allows a request. -/
def allow (r : AdmissionRequest) : AdmissionResponse :=
  { apiVersion := r.apiVersion, kind := r.kind, uid := r.uid }

/-- The response that denies a request. -/
def deny (r : AdmissionRequest) (message : String) : AdmissionResponse :=
  { r.allow with allowed := false, status := { message } }

end AdmissionRequest

namespace AdmissionResponse

/-- The response to a request that makes no sense. -/
def invalid (message : String) : AdmissionResponse :=
  { apiVersion := "admission.k8s.io/v1beta1"
    kind := "AdmissionReview"
    uid := ""
    allowed := false
    status := { status := some "Failure", message, reason := "InvalidRequest" } }

/-- An entry that is written only when the text is not empty. -/
def textEntry (key value : String) : Option (String × Json) :=
  if value = "" then none else some (key, .text value)

/-- Writes a status. -/
def statusJson (s : AdmissionStatus) : Json :=
  Json.record [
    optionalEntry "status" .text s.status,
    textEntry "message" s.message,
    textEntry "reason" s.reason]

/-- Writes a response as a review, given how the edits are written. -/
def review (writePatch : List Json.PatchOperation → Json) (r : AdmissionResponse) : Json :=
  .object [
    ("apiVersion", .text r.apiVersion),
    ("kind", .text r.kind),
    ("response", Json.record [
      some ("uid", .text r.uid),
      some ("allowed", .bool r.allowed),
      some ("status", statusJson r.status),
      optionalEntry "patch" writePatch r.patch,
      r.patch.map fun _ => ("patchType", .text "JSONPatch"),
      optionalEntry "warnings" Json.texts r.warnings])]

/-- The edits as a list of operations. -/
def operations (patch : List Json.PatchOperation) : Json :=
  .list (patch.map Json.PatchOperation.toJson)

/-- The edits as they are sent: the bytes of their text. -/
def operationBytes (patch : List Json.PatchOperation) : Json :=
  .list ((operations patch).normal.compact.toUTF8.data.toList.map fun byte => Json.ofNat byte.toNat)

end AdmissionResponse

end RegistryBridge
