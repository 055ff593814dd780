import RegistryBridge.Error
import RegistryBridge.Json.Parser
import RegistryBridge.Program
import RegistryBridge.Web.Status
/-!
# Requests to the cluster

The cluster serves its objects over the web. A request names an object by a path; the answer is the
object or a status that says what is wrong.

## Main definitions

* `ClusterApi.Request`, `ClusterApi.Answer`, `ClusterApi.Wire`
* `ClusterApi.objectPath`, `ClusterApi.listPath`
* `ClusterApi.decode`: what an answer says.
-/

namespace RegistryBridge.ClusterApi

open Json (Field Record Reader)

/-- A request to the cluster. -/
structure Request where
  method : String
  path : String
  query : List (String × String) := []
  contentType : Option String := none
  body : Option Json := none
  deriving DecidableEq, Repr, Inhabited

/-- What the cluster answers. -/
structure Answer where
  status : Nat
  body : String
  deriving DecidableEq, Repr, Inhabited

/-- The requests to the cluster with their answers. -/
def Wire : Interface := ⟨Request, fun _ => Answer⟩

/-- The path under which the kinds of a group and version are served. -/
def groupPath (apiVersion : String) : String :=
  (if apiVersion.toList.contains '/' then "/apis/" else "/api/") ++ apiVersion

/-- The path of all objects of a kind, in a namespace if it has one. -/
def listPath (apiVersion plural : String) (ns : Option String) : String :=
  groupPath apiVersion ++
    (match ns with
    | some ns => "/namespaces/" ++ ns
    | none => "") ++
    "/" ++ plural

/-- The path of one object. -/
def objectPath (apiVersion plural : String) (ns : Option String) (name : String) : String :=
  listPath apiVersion plural ns ++ "/" ++ name

/-- A patch that is merged into an object. -/
def merge (path : String) (query : List (String × String)) (body : Json) : Request :=
  { method := "PATCH", path, query, contentType := some "application/merge-patch+json"
    body := some body }

/-- Reads what the cluster says is wrong. -/
def readStatus : Reader ApiStatus :=
  ((Record.of fun status message reason (code : Int) =>
      (⟨status, message, reason, code.toNat⟩ : ApiStatus))
    |>.field (.required "status" Reader.text)
    |>.field (.withDefault "message" Reader.text "")
    |>.field (.withDefault "reason" Reader.text "")
    |>.field (.required "code" (Reader.integer "u16" 0 65535))).read "ErrorResponse"

/-- The reading of a text, if it holds a document of the type. -/
def readText? {α : Type} (read : Reader α) (s : String) : Option α :=
  match Json.parse? s with
  | some document => (read document).toOption
  | none => none

/-- What the cluster says is wrong; a text that does not say it counts as the message. -/
def errorOf (answer : Answer) : OperationError :=
  match readText? readStatus answer.body with
  | some status => .api status
  | none =>
    .api
      { status := statusText answer.status
        message := Text.quoted answer.body
        reason := "Failed to parse error data"
        code := answer.status }

/-- **What an answer says**: an object, or what is wrong. -/
def decode {α : Type} (read : Reader α) (answer : Answer) : Except OperationError α :=
  if 400 ≤ answer.status then .error (errorOf answer)
  else
    match readText? read answer.body with
    | some value => .ok value
    | none => .error .undecodable

/-- Reads the objects of a list. -/
def readList {α : Type} (read : Reader α) : Reader (List α) :=
  ((Record.of fun (items : List α) => items).field
    ⟨"items", Reader.nullAs [] (Reader.list read), none, none⟩).read "ObjectList"

end RegistryBridge.ClusterApi
