import RegistryBridge.Proofs.Json.ReadBack
import RegistryBridge.Proofs.Registry.OneHost
import RegistryBridge.Proofs.Url.Decoding
/-!
# A request tells its call

Several calls share a path, or the beginning of one, and their names stand between fixed segments. Each
name is a segment of its own all the same, whatever characters it has, so the call is found again from
the method, the path and the document of its request. No two calls therefore have the same request.

## Main definitions

* `RegistryCall.pathNames`: the names that stand in the path of a call.
* `RegistryCall.routed?`: the call of a method, the segments of a path and a document.
* `RegistryRequest.call?`: the call that a request is read as.
* `Connection.built`: the request of a call, with its address.

## Main results

* `RegistryCall.routed?_call`: a call is found again.
* `Connection.requests_unambiguous`: so it is from what is sent.
-/

namespace RegistryBridge

/-- The text under a key. -/
def Json.textAt? (document : Json) (key : String) : Option String :=
  match document.get? key with
  | some (.text t) => some t
  | _ => none

namespace RegistryCall

/-! ## Calls by their parts -/

/-- **The names that stand in the path of a call.** Whatever else a call is about stands in its
document. -/
def pathNames : RegistryCall → List String
  | getOrganization o | deleteOrganization o | getPrototypes o | createPrototype o _ _ => [o]
  | getRobot o short | createRobot o short => [o, short]
  | getRepository o name => [o, name]
  | createOrganization _ | createRepository .. => []

/-- A call with names that are kept whole as segments. -/
def Kept (call : RegistryCall) : Prop :=
  ∀ name ∈ call.pathNames, Url.Kept name

instance (call : RegistryCall) : Decidable call.Kept :=
  inferInstanceAs (Decidable (∀ name ∈ call.pathNames, Url.Kept name))

/-- The segments that stand in the paths of calls whatever they are about. -/
def fixed : List String :=
  ["api", "v1", "organization", "robots", "prototypes", "repository", ""]

/-- **A path has fixed segments and names.** -/
theorem mem_segments {call : RegistryCall} {s : String} (h : s ∈ call.segments) :
    s ∈ fixed ∨ s ∈ call.pathNames := by
  cases call <;> simp only [segments, List.mem_cons, List.not_mem_nil, or_false] at h <;>
    simp only [fixed, pathNames, List.mem_cons, List.not_mem_nil, or_false] <;> tauto

/-- All of them are kept, if the names are. -/
theorem Kept.segments {call : RegistryCall} (h : call.Kept) : ∀ s ∈ call.segments, Url.Kept s := by
  have own : ∀ s ∈ fixed, Url.Kept s := by decide
  exact fun s mem => (mem_segments mem).elim (own s) (h s)

/-- **The call of a method, the segments of a path and a document.** The document is looked into only
for what the path does not tell. -/
def routed? (method : String) (segments : List String) (body : Option Json) : Option RegistryCall :=
  match segments with
  | ["api", "v1", "organization", o] =>
    match method, body with
    | "GET", none => some (getOrganization o)
    | "DELETE", none => some (deleteOrganization o)
    | "POST", some document =>
      if o = "" then (document.textAt? "name").map createOrganization else none
    | _, _ => none
  | ["api", "v1", "organization", o, "robots", short] =>
    match method, body with
    | "GET", none => some (getRobot o short)
    | "PUT", none => some (createRobot o short)
    | _, _ => none
  | ["api", "v1", "organization", o, "prototypes"] =>
    match method, body with
    | "GET", none => some (getPrototypes o)
    | "POST", some document => do
      let role ← (document.textAt? "role").bind Registry.Role.named
      let delegate ← document.get? "delegate"
      let robot ← delegate.textAt? "name"
      return createPrototype o robot role
    | _, _ => none
  | ["api", "v1", "repository", o, name] =>
    match method, body with
    | "GET", none => some (getRepository o name)
    | _, _ => none
  | ["api", "v1", "repository"] =>
    match method, body with
    | "POST", some document => do
      let o ← document.textAt? "namespace"
      let name ← document.textAt? "repository"
      return createRepository o name
    | _, _ => none
  | _ => none

/-- **A call is found again** from its method, its segments and its document. -/
theorem routed?_call (call : RegistryCall) :
    routed? call.method call.segments call.body = some call := by
  cases call with
  | createPrototype o robot role => cases role <;> rfl
  | _ => rfl

/-- No document that is sent has a number in it, or has many levels. -/
theorem body_plain {call : RegistryCall} {document : Json} (h : call.body = some document) :
    document.Numberless ∧ Json.nesting document ≤ Json.maxDepth := by
  cases call <;> first | contradiction | obtain rfl := Option.some.inj h
  case createOrganization o =>
    unfold Registry.organizationRequest
    split <;> simp [Json.record, Json.Numberless, Json.NumberlessFields, Json.nesting,
      Json.nestingFields, Json.maxDepth]
  case createPrototype o robot role =>
    simp [Registry.Prototype.toJson, Registry.Prototype.forRobot, Registry.Delegate.toJson,
      Json.record, Json.Numberless, Json.NumberlessFields, Json.nesting, Json.nestingFields,
      Json.maxDepth]
  case createRepository o name =>
    simp [Registry.repositoryRequest, Json.Numberless, Json.NumberlessFields, Json.nesting,
      Json.nestingFields, Json.maxDepth]

/-- **What a call sends is read back** as the document that it is. -/
theorem parse?_body (call : RegistryCall) :
    (call.body.map Json.compact).bind Json.parse? = call.body := by
  cases sent : call.body with
  | none => rfl
  | some document =>
    obtain ⟨plain, shallow⟩ := body_plain sent
    exact Json.parse?_compact plain shallow

/-- The paths of calls are below the interface's own path. -/
theorem segments_eq_cons (call : RegistryCall) : ∃ rest, call.segments = "api" :: rest := by
  cases call <;> exact ⟨_, rfl⟩

end RegistryCall

/-! ## Requests -/

namespace RegistryRequest

/-- The path of a request, as it is sent. -/
def pathText (r : RegistryRequest) : String :=
  Url.pathText r.url.path

/-- The document of a request, as it is sent. -/
def bodyText (r : RegistryRequest) : Option String :=
  r.body.map Json.compact

/-- **The call that a request is read as** by whoever gets its method, its path and its document: the
path is divided at every slash, and only then are the pieces decoded. -/
def call? (r : RegistryRequest) : Option RegistryCall := do
  let pieces ← (Text.splitAt '/' r.pathText).mapM Percent.text?
  RegistryCall.routed? r.method pieces.tail (r.bodyText.bind Json.parse?)

/-- Requests of which method, path and document are sent alike. -/
structure SentAlike (r r' : RegistryRequest) : Prop where
  method : r.method = r'.method
  path : r.pathText = r'.pathText
  body : r.bodyText = r'.bodyText

/-- They are read as the same call. -/
theorem SentAlike.call? {r r' : RegistryRequest} (h : SentAlike r r') : r.call? = r'.call? := by
  rw [RegistryRequest.call?, RegistryRequest.call?, h.method, h.path, h.body]

end RegistryRequest

namespace Connection

variable {c : Connection} {call other : RegistryCall} {request request' : RegistryRequest}

/-- **The request of a call**, with its address. -/
def built (c : Connection) (call : RegistryCall) : Except RegistryError RegistryRequest :=
  (c.endpoint call.segments).map (c.request call)

/-- It is the only request that a call sends. -/
theorem call_only_built (h : c.built call = .ok request) :
    (c.call call).Only fun (sent : RegistryRequest) => sent = request := by
  unfold built at h
  unfold Connection.call
  cases found : c.endpoint call.segments with
  | error e => trivial
  | ok url =>
    rw [found] at h
    dsimp only
    cases c.obstacle? url with
    | some reason => trivial
    | none => exact ⟨Except.ok.inj h, fun _ => trivial⟩

/-- What is built has the path of the call's segments. -/
theorem eq_of_built (h : c.built call = .ok request) :
    request = c.request call (c.base.withPath call.segments) := by
  unfold built endpoint at h
  split at h
  · cases h
  · exact (Except.ok.inj h).symm

/-- **The path of a request tells the segments of its call.** -/
theorem text?_splitAt_built (kept : call.Kept) (h : c.built call = .ok request) :
    (Text.splitAt '/' request.pathText).map Percent.text? = ("" :: call.segments).map some := by
  obtain rfl := eq_of_built h
  show (Text.splitAt '/' (Url.pathText (c.base.withPath call.segments).path)).map _ = _
  obtain ⟨rest, divided⟩ := call.segments_eq_cons
  have all := kept.segments
  rw [divided] at all ⊢
  exact Url.text?_splitAt_withPath c.base (by decide) all

/-- **A request is read as its call.** -/
theorem call?_built (kept : call.Kept) (h : c.built call = .ok request) :
    request.call? = some call := by
  -- Whoever reads the request has the segments, the method and the document that the call has.
  have pieces : (Text.splitAt '/' request.pathText).mapM Percent.text? =
      some ("" :: call.segments) := by
    have told := congrArg (List.mapM id) (text?_splitAt_built kept h)
    rw [List.mapM_map, List.mapM_map, Function.id_comp, Function.id_comp] at told
    exact told.trans (List.mapM_pure.trans (congrArg some (List.map_id _)))
  have method : request.method = call.method := by
    rw [eq_of_built h]
    rfl
  have body : request.bodyText = call.body.map Json.compact := by
    rw [eq_of_built h]
    rfl
  rw [RegistryRequest.call?, pieces, method, body, call.parse?_body]
  exact call.routed?_call

/-- **A call has a request of its own.** -/
theorem sentAlike_iff (kept : call.Kept) (kept' : other.Kept) (h : c.built call = .ok request)
    (h' : c.built other = .ok request') : request.SentAlike request' ↔ call = other := by
  constructor
  · intro alike
    exact Option.some.inj ((call?_built kept h).symm.trans (alike.call?.trans (call?_built kept' h')))
  · rintro rfl
    obtain rfl := Except.ok.inj (h.symm.trans h')
    exact ⟨rfl, rfl, rfl⟩

/-- **No two calls have the same request.** Over a connection to whatever hostname, a call with names
that are kept has a request. It sends no other one, and it sends that one unless nothing can be sent at
all. The address is one of the connection's service, with no query but the connection's own. Between
the slashes of its path stand the segments of the call, each of which is read back once it is decoded,
and the request is read as the call. Requests of two calls have the same method, path and document
exactly if the calls are the same.

Names are kept whatever slashes, signs or letters they have, and even when they are empty. What is only
in the document of a call need not be kept at all. -/
theorem requests_unambiguous {hostname token : String} {insecure : Bool} {c : Connection}
    (opened : Connection.ofHostname hostname token insecure = .ok c) :
    (∀ call : RegistryCall, call.Kept → ∃ request, c.built call = .ok request ∧
      (c.call call).Only (fun (sent : RegistryRequest) => sent = request) ∧
      (c.obstacle? request.url = none →
        c.call call = .ask request fun (reply : RegistryReply) => .done (call.interpret reply)) ∧
      c.base.SameService request.url ∧ request.url.query = c.base.query ∧
      (Text.splitAt '/' request.pathText).map Percent.text? = ("" :: call.segments).map some ∧
      request.call? = some call) ∧
    ∀ call other : RegistryCall, call.Kept → other.Kept → ∀ request request',
      c.built call = .ok request → c.built other = .ok request' →
        (request.SentAlike request' ↔ call = other) := by
  have proper := Registry.wellFormed_of_base (Wiring.base_of_ofHostname opened)
  refine ⟨fun call kept => ?_, fun call other kept kept' request request' => ?_⟩
  · obtain ⟨url, found, same⟩ := endpoint_sameService proper call.segments
    have h : c.built call = .ok (c.request call url) := by rw [built, found]; rfl
    refine ⟨_, h, call_only_built h, fun free => ?_, sameService_bare same, ?_,
      text?_splitAt_built kept h, call?_built kept h⟩
    · have free : c.obstacle? url = none := free
      unfold Connection.call
      rw [found]
      dsimp only
      rw [free]
    · rw [eq_of_built h]
      rfl
  · exact sentAlike_iff kept kept'

/-- A connection to the registry whose host is written at length. -/
def atLength : Connection where
  base := Url.atLength
  token := "token"
  insecure := false

/-- A slash in a name does not make two calls one, and no name asks for anything else. -/
theorem requests_unambiguous_slashes :
    Connection.ofHostname Integration.atLength.spec.hostname "token" false = .ok atLength ∧
      (RegistryCall.getRobot "shop" "é?#%/..").Kept ∧
      (RegistryCall.getOrganization "shop/robots/é?#%/..").Kept ∧
      ∃ request request', atLength.built (.getRobot "shop" "é?#%/..") = .ok request ∧
        atLength.built (.getOrganization "shop/robots/é?#%/..") = .ok request' ∧
        request.pathText = "/api/v1/organization/shop/robots/%C3%A9%3F%23%25%2F.." ∧
        request.call? = some (.getRobot "shop" "é?#%/..") ∧ ¬ request.SentAlike request' := by
  have opened :
      Connection.ofHostname Integration.atLength.spec.hostname "token" false = .ok atLength := by
    decide +kernel
  have kept : (RegistryCall.getRobot "shop" "é?#%/..").Kept := by decide +kernel
  have kept' : (RegistryCall.getOrganization "shop/robots/é?#%/..").Kept := by decide +kernel
  obtain ⟨own, apart⟩ := requests_unambiguous opened
  obtain ⟨request, h, -, -, -, -, -, read⟩ := own _ kept
  obtain ⟨request', h', -⟩ := own _ kept'
  have path : (atLength.built (.getRobot "shop" "é?#%/..")).map RegistryRequest.pathText =
      .ok "/api/v1/organization/shop/robots/%C3%A9%3F%23%25%2F.." := by decide +kernel
  rw [h] at path
  refine ⟨opened, kept, kept', request, request', h, h', Except.ok.inj path, read, fun alike => ?_⟩
  cases (apart _ _ kept kept' _ _ h h').mp alike

/-- A tab is dropped: this name is not kept, and the request asks for another organization. -/
example :
    atLength.built (.getOrganization "a\tb") = atLength.built (.getOrganization "ab") := by
  decide +kernel

end Connection

end RegistryBridge
