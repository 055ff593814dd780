import RegistryBridge.Proofs.Admission.Frame
import RegistryBridge.Proofs.Cluster.MetadataValue
/-!
# A redirected build is let pass

The cluster may ask about an object again once it has been edited. The edited object can be read as it
was submitted, and the build that is read from it pushes to an image and no longer to a tag of an image
stream. That is seen before anything else, so nothing is asked and nothing more is edited.

## What has to be read again

An object is read twice: first with its metadata, which are then written in its place as the bridge
knows them, and then as a build. So the edited object passes only if both readings succeed, though the
edits have been made in the value of the object and not in the text that was read. That the metadata
are read by value (`Metadata.byValue_ofJson`) gives the first reading, and that other annotations leave
the rest of the metadata as it was (`Metadata.exists_ofJson_annotated`) gives the second one.

## Main results

* `Redirect.Editable.submitted_edited`: the edited object is read, with metadata that are read again.
* `Redirect.Editable.build_edited`: the build that the webhook reads from it.
* `Redirect.redirected_build_passes`: the webhook lets the edited object pass and asks nothing.
-/

namespace RegistryBridge.Redirect

open Json (Field PatchOperation)

/-- A build that pushes to an image is no business of the bridge. -/
theorem takenOver_eq_none {b : Build} {image : String}
    (output : b.spec.output = ⟨some { kind := OutputReference.dockerImageKind, name := image }⟩) :
    takenOver b = none := by
  have target : b.target = some { kind := OutputReference.dockerImageKind, name := image } := by
    rw [Build.target, output]
  have other : OutputReference.isImageStreamTag
      { kind := OutputReference.dockerImageKind, name := image } = false := rfl
  simp [takenOver, target, other]

/-- **What is not taken over is let pass**, and nothing is asked. -/
theorem response_of_not_takenOver {r : AdmissionRequest} {s : Submitted} {b : Build}
    (object : r.object = some s) (build : s.build = .ok b) (none : takenOver b = none) :
    response r = .done r.allow := by
  simp only [response, object, build, none]

namespace Editable

variable {document spec output reference metadata raw : Json} {b : Build} {o : OutputReference}
  {s : Submitted}

/-- The edits of the reference store values where values were. -/
theorem normal_retargeted (h : Editable document spec output reference metadata)
    (read : OutputReference.ofJson reference = .ok o) (kind : o.kind ≠ "") (name : o.name ≠ "")
    (image : String) : (retargeted reference o image).normal = retargeted reference o image := by
  obtain ⟨hkind, hname, -⟩ :=
    (OutputReference.ofJson_iff h.isReference (Json.keysOnce_of_normal h.normal_reference)).mp read
  obtain ⟨heldKind, kindThere⟩ := Field.exists_of_fromEntry _ rfl hkind kind
  obtain ⟨heldName, nameThere⟩ := Field.exists_of_fromEntry _ rfl hname name
  have first : (reference.set "kind" (.text OutputReference.dockerImageKind)).normal = _ :=
    Json.normal_set h.normal_reference kindThere rfl
  have there : (reference.set "kind" (.text OutputReference.dockerImageKind)).get? "name" =
      some heldName := by
    rw [Json.get?_set_of_ne _ _ (by decide), nameThere]
  have isText : (Json.text image).normal = .text image := rfl
  have second := Json.normal_set first there isText
  unfold retargeted
  split
  · exact Json.normal_remove second "namespace"
  · exact second

theorem normal_retargetedSpec (h : Editable document spec output reference metadata)
    (read : OutputReference.ofJson reference = .ok o) (kind : o.kind ≠ "") (name : o.name ≠ "")
    (image : String) :
    (retargetedSpec spec output reference o image).normal =
      retargetedSpec spec output reference o image := by
  have inner := h.normal_retargeted read kind name image
  exact Json.normal_set h.normal_spec h.hasOutput
    (Json.normal_set h.normal_output h.hasReference inner)

/-- **The edited object is read as it was submitted**, and what is written of its metadata can be read
again if that could be done before. -/
theorem submitted_edited (h : Editable raw.normal spec output reference metadata)
    (read : Submitted.ofJson raw = .ok s) (build : s.build = .ok b) (o : OutputReference)
    (d : Destination) (image : String) :
    ∃ s' m, Submitted.ofJson (edited raw.normal spec output reference o d image) = .ok s' ∧
      Metadata.ofJson s'.metadata.toJson.normal = .ok m := by
  have holds := h.hasMetadata
  rw [Submitted.get?_metadata_normal read] at holds
  obtain ⟨submitted, there, rfl⟩ := Option.map_eq_some_iff.mp holds
  obtain ⟨-, -, metadata_read, -⟩ := Submitted.of_ofJson there read
  -- The edits are made in the normal form of the metadata, which are written alike.
  obtain ⟨m, value_read, written⟩ := Metadata.byValue_ofJson _ _ metadata_read
  obtain ⟨table, first, -⟩ := h.noteable.metadata_noteDocument value_read Marks.managed Marks.on
  have noted := h.noteable.note Marks.managed Marks.on
  obtain ⟨table', second, -⟩ := noted.metadata_noteDocument first Marks.destination d.text
  obtain ⟨s', edited_read, same⟩ := Submitted.exists_ofJson (h.noteable_edited o d image).once
    (h.noteable_edited o d image).holds second
  obtain ⟨hmetadata, -, -⟩ := (Build.ofJson_iff s.isObject_document s.keysOnce_document).mp build
  rw [Submitted.get?_document there read, if_pos rfl, Field.fromEntry_some, ← written] at hmetadata
  obtain ⟨m', again⟩ := Metadata.exists_ofJson_annotated hmetadata table'
  refine ⟨s', m', edited_read, ?_⟩
  rw [same]
  exact again

/-- **The build of the edited object** is read, and pushes to the image. -/
theorem build_edited (h : Editable raw.normal spec output reference metadata)
    (read : Submitted.ofJson raw = .ok s) (build : s.build = .ok b)
    (output_read : OutputReference.ofJson reference = .ok o) (kind : o.kind ≠ "")
    (name : o.name ≠ "") (d : Destination) (image : String) :
    ∃ s' b', Submitted.ofJson (edited raw.normal spec output reference o d image) = .ok s' ∧
      s'.build = .ok b' ∧
      b'.spec.output = ⟨some { kind := OutputReference.dockerImageKind, name := image }⟩ := by
  obtain ⟨s', m, edited_read, again⟩ := h.submitted_edited read build o d image
  have edited := h.noteable_edited o d image
  have there := h.hasMetadata
  rw [Submitted.get?_metadata_normal read] at there
  obtain ⟨submitted, there, -⟩ := Option.map_eq_some_iff.mp there
  obtain ⟨-, hspec, hstatus⟩ := (Build.ofJson_iff s.isObject_document s.keysOnce_document).mp build
  rw [(h.anew read).hasSpec, Field.fromEntry_some] at hspec
  rw [Submitted.get?_document_of_keeps there read (by decide)] at hstatus
  -- The spec is the edited one, and the status is the one that was submitted.
  have specNow : s'.document.get? "spec" = some (retargetedSpec spec output reference o image) := by
    rw [Submitted.get?_document_of_keeps edited.holds edited_read (by decide),
      Json.get?_normal edited.once, h.get?_edited, if_neg (by decide), if_pos rfl, Option.map_some,
      h.normal_retargetedSpec output_read kind name]
  have statusNow : s'.document.get? "status" = raw.normal.get? "status" := by
    rw [Submitted.get?_document_of_keeps edited.holds edited_read (by decide),
      Json.get?_normal edited.once, h.get?_edited, if_neg (by decide), if_neg (by decide),
      ← Json.get?_normal (Json.keysOnce_normal raw), Json.normal_normal]
  refine ⟨s', ⟨m, { b.spec with output := ⟨some ⟨_, _, none⟩⟩ }, b.status⟩, edited_read, ?_, rfl⟩
  refine (Build.ofJson_iff s'.isObject_document s'.keysOnce_document).mpr ⟨?_, ?_, ?_⟩
  · rw [Submitted.get?_document edited.holds edited_read, if_pos rfl]
    exact again
  · rw [specNow]
    exact h.ofJson_retargetedSpec hspec output_read image
  · rw [statusNow]
    exact hstatus

end Editable

/-! ## The object that was submitted -/

section Submitted

variable {σ : Type} {c : Conduct Bridge σ} {r : AdmissionRequest} {state after : σ}
  {response : AdmissionResponse} {patch : List PatchOperation} {raw : Json} {s : Submitted}
  {fields reference : List (String × Json)}

/-- **A redirected build is let pass** when the cluster asks again. Whatever was answered when its
response was worked out, the operations of that response apply to the object, and the edited object is
read again. Any request with it is allowed without edits, and nothing is asked for that, whatever the
request says beside and whatever has become of the cluster. -/
theorem redirected_build_passes (object : r.object = some s) (read : Submitted.ofJson raw = .ok s)
    (hasMetadata : raw.normal.valueAt? ["metadata"] = some (.object fields))
    (hasReference : raw.normal.valueAt? ["spec", "output", "to"] = some (.object reference))
    (run : (Redirect.response r).Ends c state response after)
    (patched : response.patch = some patch) :
    ∃ operations document s',
      Json.Patch.ofJson? (AdmissionResponse.operations patch) = some operations ∧
      Json.Patch.applied? operations raw.normal = some document ∧
      Submitted.ofJson document = .ok s' ∧
      ∀ r' : AdmissionRequest, r'.object = some s' →
        Redirect.response r' = .done r'.allow ∧ r'.allow.allowed = true ∧ r'.allow.patch = none := by
  have lists : Lists c state fun _ => True := fun _ _ _ _ _ => trivial
  rcases (response_always lists).of_ends run with none | ⟨b, o, ns, spec, d, host, -, granted⟩
  · cases none.symm.trans patched
  have written : patch = edits b d (d.image host (spec.organization d.ns)) := by
    rw [granted.answered] at patched
    exact (Option.some.inj patched).symm
  subst written
  -- The build that the edits are for was read from this object.
  obtain ⟨s₀, submitted, build⟩ := granted.submitted
  obtain rfl := Option.some.inj (submitted.symm.trans object)
  obtain ⟨specDocument, output, editable⟩ := exists_editable hasMetadata hasReference
  obtain ⟨output_read, applied⟩ := editable.applied?_submitted read build granted.taken
    granted.destination (d.image host (spec.organization d.ns))
  obtain ⟨kind, name⟩ := Editable.ne_empty_of_takenOver granted.taken granted.destination
  obtain ⟨s', b', edited_read, build', pushes⟩ := editable.build_edited read build output_read kind
    name d (d.image host (spec.organization d.ns))
  refine ⟨_, _, s', Json.Patch.ofJson?_operations _, applied, edited_read, fun r' object' => ?_⟩
  exact ⟨response_of_not_takenOver object' build' (takenOver_eq_none pushes), rfl, rfl⟩

end Submitted

section Rollout

open NamespacePass (begun)

/-- The rollout that goes to another namespace is let pass once it has been edited. -/
theorem rollout_passes :
    ∃ patch operations document s',
      (World.run (Redirect.response rolloutRequest) begun).1.patch = some patch ∧
      Json.Patch.ofJson? (AdmissionResponse.operations patch) = some operations ∧
      Json.Patch.applied? operations rollout.normal = some document ∧
      Submitted.ofJson document = .ok s' ∧
      Redirect.response { rolloutRequest with object := some s' } =
        .done { rolloutRequest with object := some s' }.allow := by
  have edited : (World.run (Redirect.response rolloutRequest) begun).1.patch.isSome = true := by
    decide +kernel
  obtain ⟨patch, patched⟩ := Option.isSome_iff_exists.mp edited
  obtain ⟨s, read⟩ : ∃ s, Submitted.ofJson rollout = .ok s := ⟨_, rfl⟩
  have object : rolloutRequest.object = some s := by
    rw [rolloutRequest, read]
    rfl
  obtain ⟨operations, document, s', sent, applied, again, passes⟩ :=
    redirected_build_passes object read rfl rfl
      (World.ends_honest False (Redirect.response rolloutRequest) begun) patched
  exact ⟨patch, operations, document, s', patched, sent, applied, again, (passes _ rfl).1⟩

end Rollout

end RegistryBridge.Redirect
