import RegistryBridge.Proofs.Cluster.NamespaceDocument
import RegistryBridge.Proofs.Json.ReadBack
import RegistryBridge.Proofs.Program.Conduct
/-!
# A namespace that the cluster serves

The cluster answers a request for a namespace with a text of its document, and merges a patch into what
it keeps. It may write the document as it likes, and of what it keeps after a patch it decides itself
who has set which fields, when, and in which version. What it must not change is the list of
finalizers. Nobody but the one who sends the requests writes.

## Main definitions

* `ClusterApi.StoredNamespace`: a namespace as it is kept.
* `ClusterApi.serving`: the answers of the cluster.

## Main results

* `ClusterApi.always_get`, `ClusterApi.always_find`: a namespace is looked up.
* `ClusterApi.always_amend`: its finalizers are patched.
-/

namespace RegistryBridge.ClusterApi

/-- The path under which a namespace is served. -/
def namespacePath (name : String) : String :=
  objectPath "v1" "namespaces" none name

/-- The request for a namespace. -/
def lookup (name : String) : Request :=
  { method := "GET", path := namespacePath name }

/-- The request to merge a patch into a namespace. -/
def amendment (name : String) (patch : Json) : Request :=
  merge (namespacePath name) [] patch

theorem lookup_ne_amendment (name : String) (patch : Json) : lookup name ≠ amendment name patch := by
  intro same
  have methods : "GET" = "PATCH" := congrArg Request.method same
  simp at methods

/-- One patch only is sent by a request. -/
theorem amendment_injective (name : String) : Function.Injective (amendment name) := by
  intro patch other same
  exact Option.some.inj (congrArg Request.body same)

/-! ## What is kept -/

/-- **A namespace as it is kept** under its name: a document, of which there is a text, and which is
read as the namespace. It holds every key once, and so do the metadata. -/
structure StoredNamespace (name : String) where
  text : String
  document : Json
  value : Namespace
  told : Json.parse? text = some document
  once : document.KeysOnce
  within : (document.childOrEmpty "metadata").KeysOnce
  read : Namespace.ofJson document = .ok value
  named : value.metadata.name = some name

namespace StoredNamespace

variable {name : String}

/-- The finalizers of a namespace that is kept, none when the list is missing. -/
def finalizers (stored : StoredNamespace name) : List String :=
  stored.value.metadata.finalizerList

theorem finalizedBy_eq_true_iff (stored : StoredNamespace name) (finalizer : String) :
    stored.value.metadata.finalizedBy finalizer = true ↔ finalizer ∈ stored.finalizers := by
  simp [Metadata.finalizedBy, finalizers]

/-- The document of a namespace that has a name and finalizers, and nothing else. -/
def bareDocument (name : String) (finalizers : List String) : Json :=
  .object [("apiVersion", .text "v1"), ("kind", .text "Namespace"),
    ("metadata", .object [("name", .text name), ("finalizers", Json.texts finalizers)])]

theorem ofJson_bareDocument (name : String) (finalizers : List String) :
    Namespace.ofJson (bareDocument name finalizers) =
      .ok { metadata := { name := some name, finalizers := some finalizers } } := by
  -- It is a namespace that has only a name, once its finalizers have been patched.
  let document : Json := .object [("apiVersion", .text "v1"), ("kind", .text "Namespace"),
    ("metadata", .object [("name", .text name)])]
  have once : document.KeysOnce := by
    show ["apiVersion", "kind", "metadata"].Nodup
    decide
  have within : (document.childOrEmpty "metadata").KeysOnce := by
    show ["name"].Nodup
    decide
  have read : Namespace.ofJson document = .ok { metadata := { name := some name } } := rfl
  exact Namespace.ofJson_merged_finalizers once within read finalizers

theorem parse?_bareDocument (name : String) (finalizers : List String) :
    Json.parse? (bareDocument name finalizers).compact = some (bareDocument name finalizers) := by
  have text : ∀ t : String, (Json.text t).Numberless := fun _ => trivial
  have plain : Json.NumberlessItems (finalizers.map .text) :=
    Json.numberlessItems_map text finalizers
  have flat : Json.nestingItems (finalizers.map .text) ≤ 0 :=
    Json.nestingItems_map_le (fun _ => Nat.le_refl 0) finalizers
  refine Json.parse?_compact ?_ ?_
  · simp [bareDocument, Json.texts, Json.Numberless, Json.NumberlessFields, plain]
  · simp [bareDocument, Json.texts, Json.nesting, Json.nestingFields, Json.maxDepth,
      Nat.le_zero.mp flat]

/-- **A namespace that has a name and finalizers**, and nothing else. -/
def bare (name : String) (finalizers : List String) : StoredNamespace name where
  text := (bareDocument name finalizers).compact
  document := bareDocument name finalizers
  value := { metadata := { name := some name, finalizers := some finalizers } }
  told := parse?_bareDocument name finalizers
  once := by
    show ["apiVersion", "kind", "metadata"].Nodup
    decide
  within := by
    show ["name", "finalizers"].Nodup
    decide
  read := ofJson_bareDocument name finalizers
  named := rfl

theorem finalizers_bare (name : String) (finalizers : List String) :
    (bare name finalizers).finalizers = finalizers := rfl

end StoredNamespace

/-! ## What is answered -/

variable {name : String}

/-- **What an answer tells**: of a namespace that is there its document, of any other that it is not
found. -/
def Answer.Tells (answer : Answer) : Option (StoredNamespace name) → Prop
  | some stored => answer.status < 400 ∧ Json.parse? answer.body = some stored.document
  | none => 400 ≤ answer.status ∧
      ∃ status, readText? readStatus answer.body = some status ∧
        status.reason = ApiStatus.notFoundReason

/-- The answer that tells of a namespace that it is not found. -/
def notFound : Answer where
  status := 404
  body := (Json.object [("status", .text "Failure"), ("reason", .text "NotFound"),
    ("code", Json.ofNat 404)]).compact

theorem readStatus_notFound :
    readText? readStatus notFound.body = some ⟨"Failure", "", "NotFound", 404⟩ := by
  decide +kernel

theorem exists_tells (stored : Option (StoredNamespace name)) :
    ∃ answer : Answer, answer.Tells stored := by
  cases stored with
  | none => exact ⟨notFound, by decide, _, readStatus_notFound, rfl⟩
  | some stored =>
    have served : 200 < 400 := by decide
    exact ⟨⟨200, stored.text⟩, served, stored.told⟩

/-- **What a patch may leave**: nothing where there was nothing. Where the patched document is one of a
namespace, a namespace with the finalizers that it has. -/
def Amends (patch : Json) (stored : Option (StoredNamespace name)) (answer : Answer)
    (after : Option (StoredNamespace name)) : Prop :=
  match stored with
  | none => answer.Tells after ∧ after = none
  | some stored => ∀ n, Namespace.ofJson (patch.mergedInto stored.document) = .ok n →
      answer.Tells after ∧ ∃ next, after = some next ∧
        next.finalizers = n.metadata.finalizerList

theorem exists_amends (patch : Json) (stored : Option (StoredNamespace name)) :
    ∃ (answer : Answer) (after : Option (StoredNamespace name)),
      Amends patch stored answer after := by
  cases stored with
  | none =>
    obtain ⟨answer, tells⟩ := exists_tells (none : Option (StoredNamespace name))
    exact ⟨answer, none, tells, rfl⟩
  | some stored =>
    cases patched : Namespace.ofJson (patch.mergedInto stored.document) with
    | error e =>
      refine ⟨notFound, none, fun n read => ?_⟩
      rw [patched] at read
      cases read
    | ok n =>
      let next := StoredNamespace.bare name n.metadata.finalizerList
      obtain ⟨answer, tells⟩ := exists_tells (some next)
      refine ⟨answer, some next, fun n' read => ⟨tells, next, rfl, ?_⟩⟩
      rw [patched] at read
      obtain rfl := Except.ok.inj read
      exact StoredNamespace.finalizers_bare _ _

/-- **The conduct of a cluster that serves a namespace**, whether it is there or not, and that nobody
else writes to. Nothing is said of what it answers to other requests. -/
def serving (name : String) : Conduct Wire (Option (StoredNamespace name)) where
  allows request stored answer after :=
    (request = lookup name → Answer.Tells answer stored ∧ after = stored) ∧
      ∀ patch, request = amendment name patch → Amends patch stored answer after
  answers := by
    intro (request : Request) stored
    by_cases looked : request = lookup name
    · obtain ⟨answer, tells⟩ := exists_tells stored
      refine ⟨answer, stored, fun _ => ⟨tells, rfl⟩, fun patch sent => ?_⟩
      exact absurd (looked.symm.trans sent) (lookup_ne_amendment name patch)
    · by_cases sent : ∃ patch, request = amendment name patch
      · obtain ⟨patch, rfl⟩ := sent
        obtain ⟨answer, after, amends⟩ := exists_amends patch stored
        refine ⟨answer, after, fun same => absurd same looked, fun other same => ?_⟩
        obtain rfl := amendment_injective name same
        exact amends
      · refine ⟨notFound, stored, fun same => absurd same looked, fun patch same => ?_⟩
        exact absurd ⟨patch, same⟩ sent

/-! ## What is read of the answers -/

theorem decode_of_tells {stored : StoredNamespace name} {answer : Answer}
    (tells : answer.Tells (some stored)) : decode Namespace.ofJson answer = .ok stored.value := by
  obtain ⟨served, told⟩ := tells
  have read : readText? Namespace.ofJson answer.body = some stored.value := by
    simp only [readText?, told, stored.read]
    rfl
  simp only [decode, if_neg (Nat.not_le.mpr served), read]

/-- Of a namespace that is not there the reader learns that it is not found. -/
theorem exists_decode_of_tells_none {answer : Answer}
    (tells : answer.Tells (none : Option (StoredNamespace name))) :
    ∃ status, decode Namespace.ofJson answer = .error (.api status) ∧
      status.reason = ApiStatus.notFoundReason := by
  obtain ⟨refused, status, read, reason⟩ := tells
  refine ⟨status, ?_, reason⟩
  simp only [decode, if_pos refused, errorOf, read]

variable {asked : Request → Option (StoredNamespace name) → Prop}

/-- **A namespace is looked up**: its value is read, or that it is not found. Nothing is changed. -/
theorem always_get (named : name ≠ "") {stored : Option (StoredNamespace name)}
    {ends : Except OperationError Namespace → Option (StoredNamespace name) → Prop}
    (ask : asked (lookup name) stored)
    (there : ∀ s, stored = some s → ends (.ok s.value) stored)
    (gone : stored = none → ∀ status, status.reason = ApiStatus.notFoundReason →
      ends (.error (.api status)) stored) :
    (get Namespace none name).Always (serving name) asked ends stored := by
  have request : get Namespace none name =
      .ask (lookup name) fun (answer : Answer) => .done (decode Namespace.ofJson answer) :=
    if_neg named
  rw [request]
  refine ⟨ask, fun (answer : Answer) after allowed => ?_⟩
  obtain ⟨tells, rfl⟩ := allowed.1 rfl
  show ends (decode Namespace.ofJson answer) after
  cases after with
  | some s =>
    rw [decode_of_tells tells]
    exact there s rfl
  | none =>
    obtain ⟨status, read, reason⟩ := exists_decode_of_tells_none tells
    rw [read]
    exact gone rfl status reason

/-- **A namespace is found** if it is there. Nothing is changed. -/
theorem always_find (named : name ≠ "") {stored : Option (StoredNamespace name)}
    {ends : Except OperationError (Option Namespace) → Option (StoredNamespace name) → Prop}
    (ask : asked (lookup name) stored) (found : ends (.ok (stored.map (·.value))) stored) :
    (find Namespace none name).Always (serving name) asked ends stored := by
  refine (Program.always_bind _ _ _).mpr (always_get named ask ?_ ?_)
  · rintro s rfl
    exact found
  · rintro rfl status reason
    show ends (if status.reason = ApiStatus.notFoundReason then .ok none
      else .error (.api status)) none
    rw [if_pos reason]
    exact found

/-- **The finalizers of a namespace are patched**: it has those of the patch. -/
theorem always_amend (named : name ≠ "") {stored : StoredNamespace name}
    {ends : Except OperationError Unit → Option (StoredNamespace name) → Prop}
    (finalizers : List String)
    (ask : asked (amendment name (finalizersPatch finalizers)) (some stored))
    (amended : ∀ next : StoredNamespace name, next.finalizers = finalizers →
      ends (.ok ()) (some next)) :
    (mergeInto Namespace none name (finalizersPatch finalizers)).Always (serving name) asked ends
      (some stored) := by
  have request : mergeInto Namespace none name (finalizersPatch finalizers) =
      .ask (amendment name (finalizersPatch finalizers)) fun (answer : Answer) =>
        .done ((decode Namespace.ofJson answer).map fun _ => ()) :=
    if_neg named
  rw [request]
  refine ⟨ask, fun (answer : Answer) after allowed => ?_⟩
  -- What is merged is read as the namespace that was there, with the finalizers of the patch.
  have merged := Namespace.ofJson_merged_finalizers stored.once stored.within stored.read finalizers
  obtain ⟨tells, next, rfl, same⟩ := allowed.2 _ rfl _ merged
  show ends ((decode Namespace.ofJson answer).map fun _ => ()) (some next)
  rw [decode_of_tells tells]
  exact amended next same

end RegistryBridge.ClusterApi
