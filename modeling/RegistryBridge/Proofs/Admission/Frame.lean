import RegistryBridge.Proofs.Admission.Destination
import RegistryBridge.Proofs.Admission.Edits
import RegistryBridge.Proofs.Json.Pointer
/-!
# What a redirected build keeps

The edits of a build are worked out on what has been read of it, and much of an object is never
read. They are applied to the object as it was submitted. There they touch the reference to the
output and two annotations: whatever else the object holds, known to the bridge or not, it holds as
before.

## Main definitions

* `Redirect.places`: the places of an object that edits may touch.
* `Redirect.Redirected`: an object whose build has been sent to the registry.

## Main results

* `Redirect.Editable.redirected_edited`: the edits of a build redirect the object.
* `Redirect.patched_object_redirected`: so do the operations of a response.
-/

namespace RegistryBridge.Redirect

open Json (Field PatchOperation)

/-- Where an annotation stands. -/
def notePath (key : String) : List String := ["metadata", "annotations", key]

/-- The places of an object that edits may touch. -/
def places : List (List String) :=
  [notePath Marks.managed, notePath Marks.destination, outputPath "kind", outputPath "name",
    outputPath "namespace"]

/-- **An object whose build has been sent to the registry**: its output is the image, both
annotations stand among those that were there, and at every path apart from these places it is what
it was. -/
structure Redirected (before after : Json) (image destination : String) : Prop where
  kind : after.valueAt? (outputPath "kind") = some (.text OutputReference.dockerImageKind)
  name : after.valueAt? (outputPath "name") = some (.text image)
  /-- A text is taken out; null, or no namespace at all, is left. -/
  named : ∀ ns, before.valueAt? (outputPath "namespace") = some (.text ns) →
    after.valueAt? (outputPath "namespace") = none
  unnamed : (∀ ns, before.valueAt? (outputPath "namespace") ≠ some (.text ns)) →
    after.valueAt? (outputPath "namespace") = before.valueAt? (outputPath "namespace")
  notes : ∀ key, after.valueAt? (notePath key) =
    if key = Marks.destination then some (.text destination)
    else if key = Marks.managed then some (.text Marks.on)
    else before.valueAt? (notePath key)
  elsewhere : Json.SameBut places before after
  once : after.OnceThroughout

/-! ## The paths of edits -/

/-- Edits are made in three places of the output, and within the annotations. -/
theorem exists_front_of_edits (b : Build) (d : Destination) (image : String) :
    ∀ place ∈ (edits b d image).map PatchOperation.path,
      ∃ front ∈ [["metadata", "annotations"], outputPath "kind", outputPath "name",
        outputPath "namespace"], front <+: place := by
  unfold edits
  split <;> split <;> simp [PatchOperation.path, marks, outputPath]

/-- No value that edits bring in has a key twice. -/
theorem once_edits (b : Build) (d : Destination) (image : String) :
    ∀ operation ∈ edits b d image, ∀ value ∈ operation.value?, value.OnceThroughout := by
  have text : ∀ s : String, (Json.text s).OnceThroughout := fun _ => .of_not_object rfl
  have none : (Json.object []).OnceThroughout := .of_normal rfl
  have both : (Json.object
      [(Marks.managed, .text Marks.on), (Marks.destination, .text d.text)]).OnceThroughout :=
    (none.set Marks.managed (text Marks.on)).set Marks.destination (text d.text)
  unfold edits
  split <;> split <;> simp [PatchOperation.value?, text, both, marks]

/-! ## The edited object -/

/-- A reference with a namespace gives it as a text. -/
theorem isSome_ns_iff {reference : Json} {o : OutputReference} (object : reference.isObject = true)
    (once : reference.KeysOnce) (read : OutputReference.ofJson reference = .ok o) :
    o.ns.isSome = true ↔ ∃ ns, reference.get? "namespace" = some (.text ns) := by
  obtain ⟨-, -, hns⟩ := (OutputReference.ofJson_iff object once).mp read
  cases there : reference.get? "namespace" with
  | none =>
    rw [there] at hns
    simp [← Except.ok.inj hns]
  | some held =>
    rw [there, Field.fromEntry_optional] at hns
    rcases Json.nullable_eq_ok_iff.mp hns with ⟨rfl, none⟩ | ⟨-, ns, text, some⟩
    · simp [none]
    · simp [some, readText_eq_ok_iff.mp text]

namespace Editable

variable {document spec output reference metadata : Json} {b : Build} {o : OutputReference}
  {d : Destination} {image : String}

/-- The output of an object that can be edited. -/
theorem valueAt?_outputPath (h : Editable document spec output reference metadata) (key : String) :
    document.valueAt? (outputPath key) = reference.get? key := by
  rw [outputPath, Json.valueAt?_cons h.hasSpec, Json.valueAt?_cons h.hasOutput,
    Json.valueAt?_cons h.hasReference, Json.valueAt?_singleton]

/-- The annotations of an object, none standing in what is not an object. -/
theorem valueAt?_notePath (holds : document.get? "metadata" = some metadata) (key : String) :
    document.valueAt? (notePath key) = (metadata.childOrEmpty "annotations").get? key := by
  rw [notePath, Json.valueAt?_cons holds]
  unfold Json.childOrEmpty
  split
  · rename_i fields there
    rw [Json.valueAt?_cons there, Json.valueAt?_singleton]
  · -- What is no object holds nothing, like the empty one that stands in for it.
    rename_i other
    cases there : metadata.get? "annotations" with
    | none =>
      rw [Json.valueAt?, there]
      rfl
    | some held =>
      rw [Json.valueAt?_cons there, Json.valueAt?_singleton]
      cases held with
      | object fields => exact absurd there (other fields)
      | _ => rfl

/-- The output of the edited object. -/
theorem valueAt?_outputPath_edited (h : Editable document spec output reference metadata)
    (o : OutputReference) (d : Destination) (image key : String) :
    (edited document spec output reference o d image).valueAt? (outputPath key) =
      (retargeted reference o image).get? key := by
  have hasSpec : (edited document spec output reference o d image).get? "spec" =
      some (retargetedSpec spec output reference o image) := by
    rw [h.get?_edited, if_neg (by decide), if_pos rfl]
  rw [outputPath, Json.valueAt?_cons hasSpec, retargetedSpec,
    Json.valueAt?_cons (Json.get?_set_self (Json.isObject_of_get? h.hasOutput) ..),
    Json.valueAt?_cons (Json.get?_set_self (Json.isObject_of_get? h.hasReference) ..),
    Json.valueAt?_singleton]

/-- The annotations of the edited object. -/
theorem valueAt?_notePath_edited (h : Editable document spec output reference metadata)
    (o : OutputReference) (d : Destination) (image key : String) :
    (edited document spec output reference o d image).valueAt? (notePath key) =
      if key = Marks.destination then some (.text d.text)
      else if key = Marks.managed then some (.text Marks.on)
      else document.valueAt? (notePath key) := by
  have object := Json.isObject_childOrEmpty metadata "annotations"
  -- The second annotation is set over the first one, and that over what there was.
  have first := (h.noteable_retargetedSpec o image).note Marks.managed Marks.on
  rw [valueAt?_notePath (h.noteable_edited o d image).holds, valueAt?_notePath h.hasMetadata,
    Json.childOrEmpty_noted first.object, Json.childOrEmpty_noted h.isMetadata,
    Json.get?_set (by simpa using object), Json.get?_set object]

/-- **The edits of a build redirect the object**, and leave the rest of it alone. -/
theorem redirected_edited (h : Editable document spec output reference metadata)
    (read : OutputReference.ofJson reference = .ok o)
    (applied : Json.Patch.applied? (edits b d image) document =
      some (edited document spec output reference o d image)) :
    Redirected document (edited document spec output reference o d image) image d.text := by
  have once := Json.keysOnce_of_normal h.normal_reference
  have explicit := isSome_ns_iff h.isReference once read
  have houtput := h.valueAt?_outputPath_edited o d image
  simp only [get?_retargeted h.isReference] at houtput
  have notes := h.valueAt?_notePath_edited o d image
  -- What the edits leave alone is known by their paths, but for the annotations one by one.
  have apart := (Json.Patch.sameBut_of_applied? applied).widen (exists_front_of_edits b d image)
  have elsewhere := Json.SameBut.refine [Marks.managed, Marks.destination]
    (List.cons_ne_nil _ _) apart fun key new => by
      obtain ⟨unmanaged, other⟩ : key ≠ Marks.managed ∧ key ≠ Marks.destination := by
        simpa using new
      exact (notes key).trans ((if_neg other).trans (if_neg unmanaged))
  exact
    { kind := houtput "kind"
      name := houtput "name"
      named := fun ns there => by
        rw [h.valueAt?_outputPath] at there
        rw [houtput, if_pos ⟨rfl, explicit.mpr ⟨ns, there⟩⟩]
      unnamed := fun none => by
        simp only [h.valueAt?_outputPath] at none ⊢
        rw [houtput, if_neg, if_neg (by decide), if_neg (by decide)]
        rintro ⟨-, held⟩
        obtain ⟨ns, there⟩ := explicit.mp held
        exact none ns there
      notes
      elsewhere
      once := Json.Patch.onceThroughout_of_applied? (once_edits b d image)
        (.of_normal h.value) applied }

end Editable

/-! ## The object that was submitted -/

section Submitted

variable {σ : Type} {answer : (question : Question) → σ → question.Answer × σ} {state : σ}
  {r : AdmissionRequest} {patch : List PatchOperation} {raw : Json} {s : Submitted}
  {fields reference : List (String × Json)}

/-- **A response with edits redirects the object that was submitted.** The operations, read as they
were sent, apply to the value of the object, in which the last of two entries with one key stands.
They send its output to the registry and set both annotations; all else in it, whether or not the
bridge has read it, is left as it was submitted. -/
theorem patched_object_redirected (object : r.object = some s) (read : Submitted.ofJson raw = .ok s)
    (hasMetadata : raw.normal.valueAt? ["metadata"] = some (.object fields))
    (hasReference : raw.normal.valueAt? ["spec", "output", "to"] = some (.object reference))
    (patched : (reply answer state r).patch = some patch) :
    ∃ b output ns spec d host, Redirectable (.of answer state) r b output ns spec d host ∧
      ∃ operations document,
        Json.Patch.ofJson? (AdmissionResponse.operations patch) = some operations ∧
        Json.Patch.applied? operations raw.normal = some document ∧
        Redirected raw.normal document (d.image host (spec.organization d.ns)) d.text := by
  obtain ⟨b, output, ns, spec, d, host, ready, rfl⟩ := exists_edits patched
  -- The build that the edits are for was read from this object.
  obtain ⟨s', hs', build⟩ := ready.submitted
  obtain rfl := Option.some.inj (hs'.symm.trans object)
  obtain ⟨specDocument, out, editable⟩ := exists_editable hasMetadata hasReference
  obtain ⟨output_read, applied⟩ := editable.applied?_submitted read build ready.takenOver
    (ofOutput_eq_ok_iff_meant.mpr ready.meant) (d.image host (spec.organization d.ns))
  exact ⟨b, output, ns, spec, d, host, ready, _, _, Json.Patch.ofJson?_operations _, applied,
    editable.redirected_edited output_read applied⟩

end Submitted

section Rollout

open NamespacePass (acme begun ready_begun)

/-- A build as somebody may have written it, with entries that the bridge knows nothing of. -/
def rollout : Json :=
  .object [
    ("kind", .text "Build"),
    ("spec", .object [
      ("output", .object [
        ("to", .object [
          ("namespace", .text "till"),
          ("name", .text "cart:latest"),
          ("kind", .text "ImageStreamTag"),
          ("resourceVersion", .text "7")]),
        ("pushSecret", .object [("name", .text "push")])]),
      ("strategy", .object [("type", .text "Docker")])]),
    ("metadata", .object [
      ("namespace", .text "shop"),
      ("name", .text "app-1"),
      ("annotations", .null)])]

/-- The request to store it. -/
def rolloutRequest : AdmissionRequest :=
  { requestFor "" with object := (Submitted.ofJson rollout).toOption }

/-- The build is sent to the organization of the other namespace. -/
theorem rollout_redirected :
    ∃ document, Redirected rollout.normal document "[::1]/acme_till/cart:latest"
      "till/cart:latest" := by
  have patched : (reply World.answer begun rolloutRequest).patch.isSome = true := by
    decide +kernel
  obtain ⟨patch, patched⟩ := Option.isSome_iff_exists.mp patched
  obtain ⟨s, read⟩ : ∃ s, Submitted.ofJson rollout = .ok s := ⟨_, rfl⟩
  have object : rolloutRequest.object = some s := by
    rw [rolloutRequest, read]
    rfl
  obtain ⟨b, output, ns, spec, d, host, ready, operations, document, -, -, redirected⟩ :=
    patched_object_redirected object read rfl rfl patched
  obtain ⟨i, single, rfl⟩ := ready.single
  obtain rfl : acme = i := (List.cons.inj (Except.ok.inj single)).1
  obtain rfl : host = "[::1]" := Except.ok.inj (ready.addressed.symm.trans ready_begun.named)
  obtain ⟨s', submitted, build⟩ := ready.submitted
  obtain rfl : s = s' := Option.some.inj (object.symm.trans submitted)
  obtain rfl := Except.ok.inj read
  obtain rfl := Except.ok.inj build
  obtain rfl := Option.some.inj ready.target
  obtain rfl : Destination.mk "till" "cart" "latest" = d :=
    Except.ok.inj (ofOutput_eq_ok_iff_meant.mpr ready.meant)
  exact ⟨document, redirected⟩

end Rollout

end RegistryBridge.Redirect
