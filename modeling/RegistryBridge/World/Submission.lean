import RegistryBridge.World.Document
import RegistryBridge.World.Edit
import RegistryBridge.World.Rehearsal
/-!
# Submitting builds

Before a new object is stored, the cluster posts a review of it to the webhook. An object that is
allowed is stored as the response's edits leave it.

## Main definitions

* `Submission`, `Submission.request`: what is posted.
* `Rehearsal.submit`, `Rehearsal.store`
-/

namespace RegistryBridge

/-- An object that somebody submits. -/
structure Submission where
  apiVersion : String := "admission.k8s.io/v1"
  uid : String := "uid-1"
  name : String := "app-1"
  ns : Option String := none
  object : Option Json := none
  deriving DecidableEq, Repr, Inhabited

namespace Submission

/-- How a build, or the builds as the cluster serves them, is called in a review. -/
def names (last name : String) : Json :=
  .object [("group", .text "build.openshift.io"), ("version", .text "v1"), (last, .text name)]

/-- The review of a submission. -/
def review (s : Submission) : Json :=
  .object [
    ("apiVersion", .text s.apiVersion),
    ("kind", .text "AdmissionReview"),
    ("request", Json.record [
      some ("uid", .text s.uid),
      some ("kind", names "kind" "Build"),
      some ("resource", names "resource" "builds"),
      some ("name", .text s.name),
      optionalEntry "namespace" .text s.ns,
      some ("operation", .text "CREATE"),
      some ("userInfo", .object []),
      optionalEntry "object" id s.object])]

/-- **What is posted** to the webhook. -/
def request (s : Submission) : Webhook.Request :=
  { method := "POST"
    path := Settings.webhookPath
    contentType := some "application/json"
    body := s.review.normal.compact }

/-- The object as it is to be stored, if the answer allows it. -/
def stored? (s : Submission) : Webhook.Answer → Option Json
  | .reviewed response => do
    let object ← s.object
    guard response.allowed
    Json.Patch.applied? (response.patch.getD []) object
  | _ => none

end Submission

namespace Rehearsal

/-- **An object is submitted.** -/
def submit (s : Submission) (r : Rehearsal) : Webhook.Answer × Rehearsal :=
  r.receive s.request

/-- What has been allowed is stored. -/
def store (s : Submission) (answer : Webhook.Answer) (r : Rehearsal) : Rehearsal :=
  match s.stored? answer with
  | some object => { r with world := r.world.withBuild object.objectKey object }
  | none => r

end Rehearsal

end RegistryBridge
