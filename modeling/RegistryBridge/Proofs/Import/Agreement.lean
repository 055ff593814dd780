import RegistryBridge.Proofs.Admission.Destination
import RegistryBridge.Proofs.Admission.Edits
import RegistryBridge.Proofs.Import.Pass
import RegistryBridge.Proofs.Json.Pointer
/-!
# A redirected build is imported where it was to go

At admission a build is sent off to the registry; when it is complete, its image is fetched from
there. The two never speak to each other: all that passes between them are the edits of the object
and what the object holds afterwards. They agree nevertheless, on the destination, on the image, and
that there is one import.

## Main definitions

* `BuildPass.ImportsOnce`: what a pass does about a build, and that there is nothing to do again.

## Main results

* `Redirect.redirected_build_imported`: edited and complete, a build is imported once, and where its
  output said.
-/

namespace RegistryBridge

namespace BuildPass

/-- **A pass asks for one import of an image into a destination**, marks the build, and has nothing
to ask about the build that is stored then. -/
structure ImportsOnce (spec : IntegrationSpec) (d : Destination) (image : String)
    (stream : ImageStream) (b : Build) (r : Rehearsal) : Prop where
  done : (r.reconcileBuild b).1 = .ok .awaitChange
  asked : (r.reconcileBuild b).2.asked = r.asked ++
    questions b d image
      { metadata :=
          { name := some d.name
            ns := some d.ns
            resourceVersion := stream.metadata.resourceVersion }
        spec :=
          { keep := true
            images := [
              { source :=
                  { kind := some "DockerImage"
                    name := some image }
                tag := some ⟨d.tag⟩
                importPolicy := ⟨spec.insecure, spec.scheduledImport⟩
                referencePolicy := ⟨"Source"⟩ }] } }
  again : ∃ document next, (r.reconcileBuild b).2.world.cluster.builds.get? b.metadata.key =
      some document ∧
    Build.ofJson document = .ok next ∧ next.metadata.note? Marks.imported = some Marks.on ∧
    ∀ later : Rehearsal, later.reconcileBuild next = (.ok .awaitChange, later)

variable {b : Build} {d : Destination} {image : String} {i : Integration} {stream : ImageStream}
  {r : Rehearsal} {document metadata : Json}

/-- A build that is ready, and stored where others can set annotations, is imported once. -/
theorem importsOnce_of_ready (h : Ready b d image)
    (managed : b.metadata.noted Marks.managed = true) (honest : r.arranged = [])
    (single : r.world.cluster.integrations = [i])
    (found : (r.world.cluster.answer (.getImageStream d.ns d.name)).1 = some stream)
    (noteable : document.Noteable metadata) (build : Build.ofJson document = .ok b)
    (stored : r.world.cluster.builds.get? b.metadata.key = some document) :
    ImportsOnce i.spec d image stream b r := by
  have reconciled := reconcile_ready h honest single found
  -- The build that is stored then: the same, with one annotation more.
  obtain ⟨table, next, hget⟩ :=
    Build.ofJson_noteDocument noteable build Marks.imported Marks.on
  refine ⟨by rw [reconciled], ?_, noteDocument document Marks.imported Marks.on, _, ?_, next, ?_,
    fun later => ?_⟩
  · rw [reconciled]
    rfl
  · have there : r.world.cluster.builds.get?
        (qualified (b.metadata.ns.getD "") b.metadata.displayName) = some document := stored
    rw [reconciled]
    dsimp only [ClusterStore.noted]
    rw [there]
    exact Table.get?_insert_self _ _ _
  · rw [Metadata.note?, Option.bind_some, hget, if_pos rfl]
  · have passed : pass { b with metadata := { b.metadata with annotations := some table } } =
        .done (.ok .awaitChange) := by
      refine pass_of_imported ?_ ?_
      · rw [Metadata.noted, Metadata.note?, Option.bind_some, hget, if_neg (by decide)]
        exact managed
      · rw [Metadata.noted, Metadata.note?, Option.bind_some, hget, if_pos rfl]
        rfl
    rw [Rehearsal.reconcileBuild, passed]
    rfl

end BuildPass

namespace Redirect

section Completed

variable {document spec output reference metadata status : Json} {b : Build} {o : OutputReference}
  {d : Destination} {image : String}

/-- The object that was submitted is a build, and the edits of the build apply to it. -/
theorem Editable.exists_applied {s : Submitted} {ns : String}
    (h : Editable document spec output reference metadata)
    (read : Submitted.ofJson document = .ok s) (build : s.build = .ok b)
    (taken : takenOver b = some o) (destination : Destination.ofOutput ns o.name = .ok d)
    (image : String) :
    OutputReference.ofJson reference = .ok o ∧
      Build.ofJson document = .ok { b with metadata := s.metadata } ∧
      Json.Patch.applied? (edits b d image) document =
        some (edited document spec output reference o d image) := by
  have build_read := Submitted.ofJson_of_build h.value h.hasMetadata read build
  have value := h.value
  rw [← value] at h
  obtain ⟨output_read, applied⟩ := h.applied?_submitted read build taken destination image
  rw [value] at applied
  exact ⟨output_read, build_read, applied⟩

/-- **The edited object, once its build is complete**: a build that is ready to be imported, and
stored where others can set annotations. -/
theorem Editable.exists_completed (h : Editable document spec output reference metadata)
    (build : Build.ofJson document = .ok b) (read : OutputReference.ofJson reference = .ok o)
    (plain : Destination.parse d.text = .ok d) (image : String) (filled : image ≠ "")
    (fresh : b.metadata.noted Marks.imported = false)
    (complete : BuildStatus.ofJson status = .ok ⟨some Build.completePhase⟩) :
    ∃ completed,
      Build.ofJson ((edited document spec output reference o d image).set "status" status) =
        .ok completed ∧
      BuildPass.Ready completed d image ∧ completed.metadata.noted Marks.managed = true := by
  have noteable := h.noteable_edited o d image
  obtain ⟨table, edited_build, hget⟩ := h.ofJson_edited build read d image
  have status_read := BuildStatus.nullable_eq_ok complete
  have object := Json.isObject_of_get? noteable.holds
  -- The three marks are different annotations: neither edit hides the other, or sets the third.
  have managed : table.get? Marks.managed = some Marks.on := by
    rw [hget, if_neg (by decide), if_pos rfl]
  have imported : table.get? Marks.imported = b.metadata.note? Marks.imported := by
    rw [hget, if_neg (by decide), if_neg (by decide)]
  refine ⟨_, Build.ofJson_set_status object noteable.once edited_build status_read,
    ⟨?_, ?_, plain, ?_⟩, ?_⟩
  · unfold BuildPhase.of
    simp only [Metadata.noted, Metadata.note?, Option.bind_some, managed, imported] at fresh ⊢
    rw [fresh]
    rfl
  · rw [Metadata.note?, Option.bind_some, hget, if_pos rfl]
  · rw [BuildPass.pushedImage, Build.target]
    exact if_neg filled
  · rw [Metadata.noted, Metadata.note?, Option.bind_some, managed]
    rfl

end Completed

section Agreement

variable {σ : Type} {c : Conduct Bridge σ} {r : AdmissionRequest} {state after : σ}
  {response : AdmissionResponse} {patch : List Json.PatchOperation} {spec : IntegrationSpec}
  {raw : Json} {s : Submitted} {fields reference : List (String × Json)}

/-- **A redirected build is imported where it was to go.** Whatever the cluster has answered at
admission, take the operations as they were sent, apply them to the value of the object, and let the
build be complete. Where the image stream is there and calls succeed, a pass under the same spec
asks for one import: into the tag and the namespace of the output as it was, of the image in the
organization of that namespace. -/
theorem redirected_build_imported (object : r.object = some s)
    (read : Submitted.ofJson raw.normal = .ok s)
    (hasMetadata : raw.normal.valueAt? ["metadata"] = some (.object fields))
    (hasReference : raw.normal.valueAt? ["spec", "output", "to"] = some (.object reference))
    (fresh : s.metadata.noted Marks.imported = false) (lists : Lists c state (· = spec))
    (run : (Redirect.response r).Ends c state response after)
    (patched : response.patch = some patch) :
    ∃ b output ns d host, Granted r b output ns spec d host response ∧
      OutputReference.ofJson (.object reference) = .ok output ∧
      d.ns = output.ns.getD ns ∧ d.name ++ ":" ++ d.tag = output.name ∧
      ('/' ∉ d.ns.toList → '/' ∉ output.name.toList →
        ∃ edits document,
          Json.Patch.ofJson? (AdmissionResponse.operations patch) = some edits ∧
          Json.Patch.applied? edits raw.normal = some document ∧
          ∀ status, BuildStatus.ofJson status = .ok ⟨some Build.completePhase⟩ →
            ∃ completed, Build.ofJson (document.set "status" status) = .ok completed ∧
              ∀ (i : Integration) (stream : ImageStream) (rehearsal : Rehearsal),
                i.spec = spec → rehearsal.arranged = [] →
                rehearsal.world.cluster.integrations = [i] →
                (rehearsal.world.cluster.answer (.getImageStream d.ns d.name)).1 = some stream →
                rehearsal.world.cluster.builds.get? completed.metadata.key =
                  some (document.set "status" status) →
                BuildPass.ImportsOnce spec d
                  (host ++ "/" ++ (Text.lowercase spec.clusterId ++ "_" ++ d.ns) ++ "/" ++
                    (d.name ++ ":" ++ d.tag)) stream completed rehearsal) := by
  rcases (response_always lists).of_ends run with
    none | ⟨b, output, ns, counted, d, host, rfl, granted⟩
  · rw [none] at patched
    cases patched
  have written : patch = edits b d (d.image host (counted.organization d.ns)) := by
    rw [granted.answered] at patched
    exact (Option.some.inj patched).symm
  -- The edits were decided on the build `b`; they are applied to the object itself.
  obtain ⟨s', hs', build⟩ := granted.submitted
  obtain rfl := Option.some.inj (hs'.symm.trans object)
  obtain ⟨specDocument, out, editable⟩ := exists_editable hasMetadata hasReference
  obtain ⟨output_read, build_read, applied⟩ := editable.exists_applied read build granted.taken
    granted.destination (d.image host (counted.organization d.ns))
  obtain ⟨hns, hname, -⟩ := Destination.ofOutput_eq_ok_iff.mp granted.destination
  refine ⟨b, output, ns, d, host, granted, output_read, hns, hname, fun nsPlain namePlain => ?_⟩
  refine ⟨patch, _, Json.Patch.ofJson?_operations patch, written ▸ applied,
    fun status complete => ?_⟩
  -- All that the later pass knows of the destination is its text.
  have plain : Destination.parse d.text = .ok d :=
    (Destination.parse_text_iff granted.destination).mpr ⟨nsPlain, hname ▸ namePlain⟩
  obtain ⟨completed, completed_read, ready, managed⟩ := editable.exists_completed build_read
    output_read plain _ (d.image_ne_empty host _) fresh complete
  refine ⟨completed, completed_read, fun i stream rehearsal same honest single found stored => ?_⟩
  subst same
  exact BuildPass.importsOnce_of_ready ready managed honest single found
    ((editable.noteable_edited ..).set (by decide) status) completed_read stored

end Agreement

section Till

open NamespacePass (acme begun ready_begun)

/-- The reference to a tag in another namespace than the build's own. -/
def tillTag : List (String × Json) :=
  [("kind", .text "ImageStreamTag"), ("name", .text "cart:latest"), ("namespace", .text "till")]

/-- The metadata of a build that somebody has annotated. -/
def annotatedMetadata : List (String × Json) :=
  [("annotations", .object [("note", .text "kept")]), ("name", .text "app-1"),
    ("namespace", .text "shop")]

/-- A build that is to push into that tag. -/
def tillBuild : Json :=
  .object [
    ("metadata", .object annotatedMetadata),
    ("spec", .object [
      ("output", .object [("to", .object tillTag)]),
      ("strategy", .object [("type", .text "Docker")])])]

/-- The request to store it. -/
def tillRequest : AdmissionRequest :=
  { requestFor "" with object := (Submitted.ofJson tillBuild.normal).toOption }

/-- The image stream of that tag. -/
def tillStream : ImageStream :=
  { metadata := { name := some "cart", ns := some "till", resourceVersion := some "7" } }

/-- The build is imported into the other namespace, from the organization of that namespace. -/
theorem till_imported :
    ∃ b r, BuildPass.ImportsOnce acme.spec ⟨"till", "cart", "latest"⟩
      "[::1]/acme_till/cart:latest" tillStream b r := by
  have patched : (World.run (Redirect.response tillRequest) begun).1.patch.isSome = true := by
    decide +kernel
  obtain ⟨patch, hpatch⟩ := Option.isSome_iff_exists.mp patched
  have lists : Lists (World.conduct False) begun (· = acme.spec) := by
    rintro all i after (⟨same, -⟩ | ⟨no, -⟩) counts
    · obtain rfl := Except.ok.inj same
      obtain rfl := Except.ok.inj counts
      rfl
    · exact no.elim
  obtain ⟨s, read⟩ : ∃ s, Submitted.ofJson tillBuild.normal = .ok s := ⟨_, rfl⟩
  have object : tillRequest.object = some s := by
    rw [tillRequest, read]
    rfl
  have unmarked : (Submitted.ofJson tillBuild.normal).toOption.all
      (fun s => !s.metadata.noted Marks.imported) = true := by decide +kernel
  have fresh : s.metadata.noted Marks.imported = false := by
    rw [read] at unmarked
    simpa [Except.toOption] using unmarked
  obtain ⟨b, output, ns, d, host, granted, output_read, hns, hname, agree⟩ :=
    redirected_build_imported object read rfl rfl fresh lists
      (World.ends_honest False (Redirect.response tillRequest) begun) hpatch
  obtain rfl : output = ⟨"ImageStreamTag", "cart:latest", some "till"⟩ :=
    (Except.ok.inj output_read).symm
  obtain rfl : d = ⟨"till", "cart", "latest"⟩ :=
    (Except.ok.inj granted.destination).symm
  obtain rfl : host = "[::1]" := Except.ok.inj (granted.named.symm.trans ready_begun.named)
  obtain ⟨edits, document, -, -, complete⟩ := agree (by decide) (by decide)
  obtain ⟨completed, -, imports⟩ :=
    complete (.object [("phase", .text Build.completePhase)]) rfl
  have once := imports acme tillStream
    { world := { cluster :=
        { integrations := [acme]
          imageStreams := [tillStream]
          builds := Table.insert [] completed.metadata.key _ } } }
    rfl rfl rfl rfl (Table.get?_insert_self _ _ _)
  exact ⟨_, _, once⟩

end Till

end Redirect

end RegistryBridge
