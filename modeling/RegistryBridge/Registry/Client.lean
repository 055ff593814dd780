import RegistryBridge.Json.Parser
import RegistryBridge.Pass.Call
import RegistryBridge.Registry.Address
/-!
# The registry's calls as requests

A connection knows the address of the registry's interface and the token that its calls carry. Each
call is one request, and its answer is read by the status: a success holds the content, any other
status says all there is to say.

## Main definitions

* `Connection`, `Connection.ofHostname`
* `Connection.endpoint`: the address of a path of the registry's interface.
* `RegistryRequest`, `Connection.request`: the request of a call.
* `RegistryCall.interpret`: what an answer says.
-/

namespace RegistryBridge

open Json (Reader)

/-- How the registry is reached. -/
structure Connection where
  base : Url
  token : String
  insecure : Bool
  deriving DecidableEq, Repr, Inhabited

/-- A request to the registry. -/
structure RegistryRequest where
  method : String
  url : Url
  authorization : List String
  accept : String := "application/json"
  body : Option Json := none
  deriving DecidableEq, Repr

/-- What comes back from the registry: an answer, or why there is none. -/
abbrev RegistryReply := Except String (Nat × String)

/-- The requests to the registry with their answers. -/
def RegistryWire : Interface := ⟨RegistryRequest, fun _ => RegistryReply⟩

namespace RegistryCall

/-- The name of a call in messages. -/
def operation : RegistryCall → String
  | getOrganization _ => "get organization"
  | createOrganization _ => "create organization"
  | deleteOrganization _ => "delete organization"
  | getRobot .. => "get robot account"
  | createRobot .. => "create robot account"
  | getPrototypes _ => "get prototypes"
  | createPrototype .. => "create prototype"
  | getRepository .. => "get repository"
  | createRepository .. => "create repository"

/-- The method of a call. -/
def method : RegistryCall → String
  | getOrganization _ | getRobot .. | getPrototypes _ | getRepository .. => "GET"
  | createOrganization _ | createPrototype .. | createRepository .. => "POST"
  | createRobot .. => "PUT"
  | deleteOrganization _ => "DELETE"

/-- The segments of a call's path. -/
def segments : RegistryCall → List String
  | getOrganization o | deleteOrganization o => ["api", "v1", "organization", o]
  | createOrganization _ => ["api", "v1", "organization", ""]
  | getRobot o short | createRobot o short => ["api", "v1", "organization", o, "robots", short]
  | getPrototypes o | createPrototype o _ _ => ["api", "v1", "organization", o, "prototypes"]
  | getRepository o name => ["api", "v1", "repository", o, name]
  | createRepository .. => ["api", "v1", "repository"]

/-- The document that a call sends. -/
def body : RegistryCall → Option Json
  | createOrganization o =>
    some (Registry.organizationRequest o (Registry.organizationEmail o))
  | createPrototype _ robot role => some (Registry.Prototype.forRobot robot role).toJson
  | createRepository o name => some (Registry.repositoryRequest o name)
  | _ => none

/-- Whether the content of a call's answer matters. -/
def hasContent : RegistryCall → Bool
  | createOrganization _ | deleteOrganization _ | createRepository .. => false
  | _ => true

/-- Reads the content of an answer; where it does not matter, anything will do. -/
def readContent : (call : RegistryCall) → Reader call.Value
  | getOrganization _ => Registry.Organization.ofJson
  | getRobot .. => Registry.Robot.ofJson
  | createRobot .. => Registry.Robot.ofJson
  | getPrototypes _ => Registry.Prototypes.ofJson
  | createPrototype .. => Registry.Prototype.ofJson
  | getRepository .. => Registry.Repository.ofJson
  | createOrganization _ | deleteOrganization _ | createRepository .. => fun _ => .ok ()

/-- The content of a successful answer, or why it cannot be read. -/
def content (call : RegistryCall) (text : String) : Except String call.Value :=
  match if call.hasContent then Json.parse? text else some .null with
  | none => .error "not a document"
  | some document => (call.readContent document).mapError Json.DecodeError.message

/-- **What the registry's reply to a call says.** -/
def interpret (call : RegistryCall) (reply : RegistryReply) :
    Except RegistryError (Registry.Response call.Value) :=
  match reply with
  | .error reason => .error (.transport call.operation reason)
  | .ok (status, text) =>
    if 200 ≤ status ∧ status < 300 then
      match call.content text with
      | .ok value => .ok ⟨status, some value⟩
      | .error reason => .error (.undecodable call.operation reason)
    else .ok ⟨status, none⟩

end RegistryCall

namespace Connection

/-- **Opens a connection** to the registry of that name. -/
def ofHostname (hostname token : String) (insecure : Bool) : Except RegistryError Connection :=
  (Registry.base hostname).map fun base => ⟨base, token, insecure⟩

/-- The text that percent-encoded text stands for. -/
def plain (s : String) : String :=
  (String.fromUTF8? ⟨(Percent.decode s.toList).toArray⟩).getD s

/-- Who calls: the user that the address names, then the bearer of the token. -/
def authorization (c : Connection) : List String :=
  let user := plain c.base.user ++ ":" ++ plain c.base.password
  (if user = ":" then [] else ["Basic " ++ Base64.encode user.toUTF8]) ++
    (if c.token = "" then [] else ["Bearer " ++ c.token])

/-- **The address of some path** of the registry's interface. -/
def endpoint (c : Connection) (segments : List String) : Except RegistryError Url :=
  if c.base.isOpaque then .error (.invalidUrl c.base.text "URL cannot carry a path")
  else .ok (c.base.withPath segments)

/-- An address as it is asked for: who calls is told elsewhere, and a fragment to nobody. -/
def bare (url : Url) : Url :=
  { url with user := "", password := "", fragment := none }

/-- **The request of a call** at an address. -/
def request (c : Connection) (call : RegistryCall) (url : Url) : RegistryRequest :=
  { method := call.method
    url := bare url
    authorization := c.authorization
    body := call.body }

/-- Whether a token can be sent at all. -/
def sendable (token : String) : Bool :=
  token.toList.all fun c => c = '\t' || (0x20 ≤ c.toNat && c.toNat ≠ 0x7F)

/-- Whether an address is one of the web. -/
def onTheWeb (url : Url) : Bool :=
  url.scheme == "http" || url.scheme == "https"

/-- Why nothing can be sent to an address, if it cannot. -/
def obstacle? (c : Connection) (url : Url) : Option String :=
  if ¬ sendable c.token then some "builder error"
  else if ¬ onTheWeb url then some ("builder error for url (" ++ (bare url).text ++ ")")
  else none

/-- **A call as a program of requests**: one request, unless it has no address or nothing can be sent
there. -/
def call (c : Connection) (call : RegistryCall) :
    Program RegistryWire (Except RegistryError (Registry.Response call.Value)) :=
  match c.endpoint call.segments with
  | .error e => .done (.error e)
  | .ok url =>
    match c.obstacle? url with
    | some reason => .done (.error (.transport call.operation reason))
    | none => .ask (c.request call url) fun (reply : RegistryReply) => .done (call.interpret reply)

end Connection

end RegistryBridge
