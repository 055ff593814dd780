import RegistryBridge.Proofs.Import.Agreement
/-!
# When a redirected build is imported at all

What is written at admission is read again when the build is complete, and by then a third annotation
counts: the one that says that the image has been imported. Nobody takes it off a build that is
submitted, so that a build with copied annotations is redirected and never imported.

## Main definitions

* `BuildPhase.Awaits`: a build that is imported as soon as it is complete.

## Main results

* `Redirect.awaits_import_iff`: a redirected build awaits its import exactly when it was submitted
  without that annotation.
* `Redirect.copied_taken_for_imported`: a build that is redirected and never imported.
-/

namespace RegistryBridge

/-- **A build that awaits its import**: it is ready once it is complete, and pending until then. -/
def BuildPhase.Awaits (b : Build) : Prop :=
  of b = if b.complete then .ready else .pending

/-- A build that has been taken over awaits its import as long as nothing says that it is done. -/
theorem BuildPhase.awaits_iff {b : Build} (managed : b.metadata.noted Marks.managed = true) :
    Awaits b ↔ b.metadata.noted Marks.imported = false := by
  unfold Awaits of
  rw [managed]
  cases b.metadata.noted Marks.imported <;> cases b.complete <;> decide

namespace Redirect

variable {document spec output reference metadata status : Json} {b : Build} {o : OutputReference}
  {d : Destination} {image : String}

/-- The edits set two annotations, and neither of them says that the image has been imported. -/
theorem Editable.exists_edited (h : Editable document spec output reference metadata)
    (build : Build.ofJson document = .ok b) (read : OutputReference.ofJson reference = .ok o)
    (d : Destination) (image : String) :
    ∃ e, Build.ofJson (edited document spec output reference o d image) = .ok e ∧
      e.metadata.noted Marks.managed = true ∧
      e.metadata.noted Marks.imported = b.metadata.noted Marks.imported := by
  obtain ⟨table, edited_read, hget⟩ := h.ofJson_edited build read d image
  refine ⟨_, edited_read, ?_, ?_⟩
  · rw [Metadata.noted, Metadata.note?, Option.bind_some, hget, if_neg (by decide), if_pos rfl]
    rfl
  · rw [Metadata.noted, Metadata.note?, Option.bind_some, hget, if_neg (by decide),
      if_neg (by decide), Metadata.noted]

variable {σ : Type} {answer : (question : Question) → σ → question.Answer × σ} {state : σ}
  {r : AdmissionRequest} {patch : List Json.PatchOperation} {raw : Json} {s : Submitted}

/-- **A redirected build awaits its import exactly when it was submitted without the mark of one.**
Take any response with edits, and the object with these edits applied to it, in any status. It is
read as a build, ready once complete and pending until then, unless the object that was submitted
already said that its image has been imported: then a pass asks nothing about it, whatever its
status. -/
theorem awaits_import_iff (object : r.object = some s)
    (read : Submitted.ofJson raw.normal = .ok s)
    (patched : (reply answer state r).patch = some patch)
    (applied : Json.Patch.applied? patch raw.normal = some document) :
    (∃ b, Build.ofJson document = .ok b ∧
        (BuildPhase.Awaits b ↔ s.metadata.noted Marks.imported = false)) ∧
      ∀ status seen, BuildStatus.ofJson status = .ok seen →
        ∃ b, Build.ofJson (document.set "status" status) = .ok b ∧ b.status = some seen ∧
          (BuildPhase.Awaits b ↔ s.metadata.noted Marks.imported = false) ∧
          (s.metadata.noted Marks.imported = true →
            BuildPass.pass b = .done (.ok .awaitChange)) := by
  obtain ⟨b, output, ns, spec, d, host, ready, rfl⟩ := exists_edits patched
  -- The build that the edits are for was read from this object.
  obtain ⟨s', submitted, build⟩ := ready.submitted
  obtain rfl := Option.some.inj (submitted.symm.trans object)
  obtain ⟨specDocument, out, reference, metadata, editable⟩ :=
    exists_editable_of_applied ready.target applied
  obtain ⟨output_read, build_read, edits_applied⟩ := editable.exists_applied read build
    ready.takenOver (ofOutput_eq_ok_iff_meant.mpr ready.meant)
    (d.image host (spec.organization d.ns))
  obtain rfl := Option.some.inj (edits_applied.symm.trans applied)
  have noteable := editable.noteable_edited output d (d.image host (spec.organization d.ns))
  obtain ⟨e, edited_read, managed, imported⟩ := editable.exists_edited build_read output_read d
    (d.image host (spec.organization d.ns))
  refine ⟨⟨e, edited_read, imported ▸ BuildPhase.awaits_iff managed⟩, fun status seen hseen => ?_⟩
  have inStatus := Build.ofJson_set_status (Json.isObject_of_get? noteable.holds) noteable.once
    edited_read (BuildStatus.nullable_eq_ok hseen)
  exact ⟨_, inStatus, rfl, imported ▸ BuildPhase.awaits_iff managed, fun noted =>
    BuildPass.pass_of_imported managed (imported.trans noted)⟩

section Copied

open NamespacePass (begun)

/-- The status of a build that has pushed its image. -/
def finished : Json :=
  .object [("phase", .text "Complete")]

/-- A build without the mark awaits its import. -/
theorem till_awaits :
    ∃ (patch : List Json.PatchOperation) (document : Json) (b : Build),
      (reply World.answer begun tillRequest).patch = some patch ∧
      Json.Patch.applied? patch tillBuild.normal = some document ∧
      Build.ofJson (document.set "status" finished) = .ok b ∧ BuildPhase.Awaits b := by
  have patched : ((reply World.answer begun tillRequest).patch.bind fun patch =>
      Json.Patch.applied? patch tillBuild.normal).isSome = true := by decide +kernel
  obtain ⟨document, patched⟩ := Option.isSome_iff_exists.mp patched
  obtain ⟨patch, patched, applied⟩ := Option.bind_eq_some_iff.mp patched
  obtain ⟨s, read⟩ : ∃ s, Submitted.ofJson tillBuild.normal = .ok s := ⟨_, rfl⟩
  have object : tillRequest.object = some s := by
    rw [tillRequest, read]
    rfl
  have fresh : s.metadata.noted Marks.imported = false := by
    obtain rfl := Except.ok.inj read
    decide +kernel
  obtain ⟨b, complete, -, awaits, -⟩ :=
    (awaits_import_iff object read patched applied).2 finished ⟨some "Complete"⟩ rfl
  exact ⟨patch, document, b, patched, applied, complete, awaits.mpr fresh⟩

/-- A build that was made from another one, with its annotations. -/
def copiedBuild : Json :=
  .object [
    ("metadata", .object [
      ("annotations", .object [(Marks.imported, .text Marks.on)]),
      ("name", .text "app-2"), ("namespace", .text "shop")]),
    ("spec", .object [
      ("output", .object [("to", .object tillTag)]),
      ("strategy", .object [("type", .text "Docker")])])]

/-- The request to store it. -/
def copiedRequest : AdmissionRequest :=
  { requestFor "" with object := (Submitted.ofJson copiedBuild.normal).toOption }

/-- **A build that is redirected and never imported**: with the annotations of another build it is
taken for one whose image has been imported. -/
theorem copied_taken_for_imported :
    ((reply World.answer begun copiedRequest).patch.bind fun patch =>
      (Json.Patch.applied? patch copiedBuild.normal).bind fun document =>
        (Build.ofJson (document.set "status" finished)).toOption.map BuildPhase.of) =
      some .imported := by
  decide +kernel

end Copied

end Redirect

end RegistryBridge
