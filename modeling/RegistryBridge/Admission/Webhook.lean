import RegistryBridge.Admission.Redirect
import RegistryBridge.Json.Parser
/-!
# The webhook

The webhook answers two paths: one for reviews, and one that tells that it is alive. What is not a
review is refused with a status of the web.

## Main definitions

* `Webhook.Request`, `Webhook.Answer`, `Webhook.answer`
* `Webhook.Answer.sent?`: the document that is sent back.
* `MediaType.isJson`
-/

namespace RegistryBridge

namespace MediaType

/-- Whether a character may stand in a word of a media type. -/
def inWord (c : Char) : Bool :=
  c.isAlphanum || "!#$&-^_.+%'*`|~".toList.contains c

/-- Whether a text is a word of a media type. -/
def isWord (cs : List Char) : Bool :=
  cs ≠ [] && cs.all inWord

/-- Whether the text is a value in quotation marks, and what follows it. -/
def quotedRest? : List Char → Option (List Char)
  | [] => none
  | '"' :: rest => some rest
  | '\\' :: _ :: rest => quotedRest? rest
  | _ :: rest => quotedRest? rest

/-- Whether a parameter is a name and a value. -/
def isParameter (cs : List Char) : Bool :=
  let cs := cs.dropWhile (· = ' ')
  let name := cs.takeWhile (· ≠ '=')
  match cs.drop name.length with
  | '=' :: '"' :: value => isWord name && quotedRest? value == some []
  | '=' :: value => isWord name && value.all inWord
  | _ => false

/-- **Whether a media type is JSON**, or a format that is written in JSON. -/
def isJson (s : String) : Bool :=
  match Text.pieces ';' (s.toList.map Char.toLower) with
  | [] => false
  | essence :: parameters =>
    let parameters := if parameters.getLast? = some [] then parameters.dropLast else parameters
    parameters.all isParameter &&
      (match Text.pieces '/' essence with
      | [kind, format] =>
        kind == "application".toList && isWord format &&
          ((Text.pieces '+' format).getLast? == some "json".toList)
      | _ => false)

end MediaType

namespace Webhook

/-- What arrives. -/
structure Request where
  method : String
  path : String
  contentType : Option String
  body : String
  deriving DecidableEq, Repr, Inhabited

/-- What is sent back. -/
inductive Answer where
  /-- A refusal in the words of the web. -/
  | refused (status : Nat)
  /-- Plain text. -/
  | text (content : String)
  /-- What is wrong with a review. -/
  | failed (status : Nat) (message : String)
  /-- A reviewed request. -/
  | reviewed (response : AdmissionResponse)
  deriving DecidableEq, Repr

namespace Answer

/-- The status of an answer. -/
def status : Answer → Nat
  | refused status | failed status _ => status
  | text _ | reviewed _ => 200

/-- The document of an answer, given how edits are written; a refusal and plain text have none. -/
def document? (writePatch : List Json.PatchOperation → Json) : Answer → Option Json
  | failed _ message => some (.object [("error", .text message)])
  | reviewed response => some (response.review writePatch)
  | refused _ | text _ => none

/-- The document as it is sent. -/
def sent? (a : Answer) : Option Json :=
  a.document? AdmissionResponse.operationBytes

end Answer

/-- What is said of a review without a request. -/
def noRequest : String :=
  "invalid admission review: failed to convert AdmissionReview into AdmissionRequest"

/-- What a text holds: a document and whatever follows it. -/
inductive Content where
  | document (value : Json) (complete : Bool)
  | broken

/-- Reads a document in front of a text. A list is no review however it goes on. -/
def content (s : String) : Content :=
  let cs := Json.skipBlanks s.toList
  if cs.head? = some '[' then .document (.list []) true
  else
    match Json.front? cs with
    | some (value, rest) => .document value (Json.skipBlanks rest).isEmpty
    | none => .broken

/-- The answer to what is posted as a review. -/
def review (r : Request) : Program Bridge Answer :=
  if ¬ r.contentType.any MediaType.isJson then .done (.refused 415)
  else
    match content r.body with
    | .broken => .done (.refused 400)
    | .document value complete =>
      match AdmissionRequest.ofReview value with
      | .error _ => .done (.refused 422)
      | .ok request =>
        if ¬ complete then .done (.refused 400)
        else
          match request with
          | none => .done (.failed 400 noRequest)
          | some request => (Redirect.response request).bind fun response => .done (.reviewed response)

/-- The path without its query. -/
def Request.route (r : Request) : String :=
  String.ofList (r.path.toList.takeWhile (· ≠ '?'))

/-- **The answer to what arrives.** -/
def answer (r : Request) : Program Bridge Answer :=
  if r.route = Settings.webhookPath then
    if r.method = "POST" then review r else .done (.refused 405)
  else if r.route = Settings.healthPath then
    if r.method = "GET" then .done (.text "ok")
    else if r.method = "HEAD" then .done (.text "")
    else .done (.refused 405)
  else .done (.refused 404)

end Webhook

end RegistryBridge
