import RegistryBridge.Proofs.Admission.Ruling
import RegistryBridge.Proofs.Admission.Submitted
import RegistryBridge.Proofs.Json.Paths
/-!
# What the edits of a build make of its object

The edits were decided on a build that had been read from a document written anew, and they are
applied to the object as it was submitted. They apply there, and the edited object is again a build:
the same, but for its output and its annotations.

## Main definitions

* `Redirect.Editable`: an object that can be edited in the places where a build is.

## Main results

* `Redirect.edits_eq`: the edits stand under two entries of the object.
* `Redirect.Editable.get?_edited`: what stands in the edited object.
* `Redirect.Editable.applied?_edits`: the edits apply, and what they lead to.
* `Redirect.Editable.ofJson_edited`: the build that is read from the edited object.
* `Redirect.Editable.applied?_submitted`: the edits of a build apply to the object that it was read
  from.
* `Redirect.exists_editable_of_applied`: they apply to no other object.
-/

namespace RegistryBridge.Redirect

open Json (Field Record Reader PatchOperation)

/-- The edits of the reference to an output. -/
def retargeting (o : OutputReference) (image : String) : List PatchOperation :=
  [.replace ["kind"] (.text OutputReference.dockerImageKind), .replace ["name"] (.text image)] ++
    if o.ns.isSome then [.remove ["namespace"]] else []

/-- The edits of the metadata. -/
def marking (m : Metadata) (d : Destination) : List PatchOperation :=
  if m.annotations.isNone then
    [.add ["annotations"] (.object ((marks d).map fun (key, value) => (key, .text value)))]
  else (marks d).map fun (key, value) => .add ["annotations", key] (.text value)

/-- **The edits stand under two entries of the object.** -/
theorem edits_eq {b : Build} {o : OutputReference} (target : b.target = some o) (d : Destination)
    (image : String) :
    edits b d image =
      (((retargeting o image).map (PatchOperation.under "to")).map
          (PatchOperation.under "output")).map (PatchOperation.under "spec") ++
        (marking b.metadata d).map (PatchOperation.under "metadata") := by
  unfold edits retargeting marking
  rw [target, Option.bind_some]
  split <;> split <;> rfl

/-! ## The output -/

section Output

variable {document : Json} {o : OutputReference}

/-- The reference to an output, edited. -/
def retargeted (document : Json) (o : OutputReference) (image : String) : Json :=
  let document := (document.set "kind" (.text OutputReference.dockerImageKind)).set "name"
    (.text image)
  if o.ns.isSome then document.remove "namespace" else document

theorem applied?_retargeting (object : document.isObject = true) (once : document.KeysOnce)
    (read : OutputReference.ofJson document = .ok o) (kind : o.kind ≠ "") (name : o.name ≠ "")
    (image : String) :
    Json.Patch.applied? (retargeting o image) document = some (retargeted document o image) := by
  obtain ⟨hkind, hname, hns⟩ := (OutputReference.ofJson_iff object once).mp read
  -- Only what is there can be replaced or removed: a kind and a name that are not empty are.
  obtain ⟨heldKind, kindThere⟩ := Field.exists_of_fromEntry _ rfl hkind kind
  obtain ⟨heldName, nameThere⟩ := Field.exists_of_fromEntry _ rfl hname name
  have nameThere' : (document.set "kind" (.text OutputReference.dockerImageKind)).get? "name" =
      some heldName := by
    rw [Json.get?_set_of_ne _ _ (by decide), nameThere]
  unfold retargeting retargeted
  rw [Json.Patch.applied?_append, Json.Patch.applied?_cons,
    PatchOperation.applied?_replace kindThere, Option.bind_some, Json.Patch.applied?_cons,
    PatchOperation.applied?_replace nameThere', Option.bind_some]
  cases held : o.ns with
  | none => rfl
  | some ns =>
    rw [held] at hns
    obtain ⟨heldNs, nsThere⟩ := Field.exists_of_fromEntry _ rfl hns (Option.some_ne_none ns)
    have nsThere' : ((document.set "kind" (.text OutputReference.dockerImageKind)).set "name"
        (.text image)).get? "namespace" = some heldNs := by
      rw [Json.get?_set_of_ne _ _ (by decide), Json.get?_set_of_ne _ _ (by decide), nsThere]
    show (PatchOperation.applied? (.remove ["namespace"]) _).bind _ = _
    rw [PatchOperation.applied?_remove nsThere']
    rfl

theorem isObject_retargeted (object : document.isObject = true) (o : OutputReference)
    (image : String) : (retargeted document o image).isObject = true := by
  unfold retargeted
  split <;> simpa using object

/-- What stands in the edited reference: a namespace only where it is none. -/
theorem get?_retargeted (object : document.isObject = true) (o : OutputReference)
    (image key : String) :
    (retargeted document o image).get? key =
      if key = "namespace" ∧ o.ns.isSome = true then none
      else if key = "name" then some (.text image)
      else if key = "kind" then some (.text OutputReference.dockerImageKind)
      else document.get? key := by
  unfold retargeted
  split
  · rename_i explicit
    rw [Json.get?_remove, Json.get?_set (by simpa using object), Json.get?_set object]
    simp [explicit]
  · rename_i none
    rw [Json.get?_set (by simpa using object), Json.get?_set object]
    simp [none]

theorem keysOnce_retargeted (once : document.KeysOnce) (o : OutputReference) (image : String) :
    (retargeted document o image).KeysOnce := by
  unfold retargeted
  split
  · exact ((once.set _ _).set _ _).remove _
  · exact (once.set _ _).set _ _

/-- **The edited reference** names the image, and no namespace. -/
theorem ofJson_retargeted (object : document.isObject = true) (once : document.KeysOnce)
    (read : OutputReference.ofJson document = .ok o) (image : String) :
    OutputReference.ofJson (retargeted document o image) =
      .ok { kind := OutputReference.dockerImageKind, name := image } := by
  obtain ⟨-, -, hns⟩ := (OutputReference.ofJson_iff object once).mp read
  rw [OutputReference.ofJson_iff (isObject_retargeted object o image)
    (keysOnce_retargeted once o image)]
  simp only [get?_retargeted object]
  refine ⟨rfl, rfl, ?_⟩
  cases explicit : o.ns with
  | none =>
    -- The namespace was not there, or null: nothing had to be removed.
    rw [explicit] at hns
    exact hns
  | some ns => rfl

end Output

/-! ## The metadata -/

section Marking

variable {document metadata : Json} {m : Metadata} {d : Destination}

/-- An annotation added to those that are there. -/
theorem applied?_addNote {annotations : Json}
    (there : metadata.get? "annotations" = some annotations) (object : annotations.isObject = true)
    (key value : String) :
    PatchOperation.applied? (.add ["annotations", key] (.text value)) metadata =
      some (metadata.noted key value) := by
  have inner : (PatchOperation.add [key] (.text value)).applied? annotations =
      some (annotations.set key (.text value)) := PatchOperation.applied?_add object
  have outer : ((PatchOperation.add [key] (.text value)).under "annotations").applied? metadata =
      ((PatchOperation.add [key] (.text value)).applied? annotations).map
        (metadata.set "annotations") :=
    PatchOperation.applied?_under (List.cons_ne_nil _ _) there
  rw [inner] at outer
  rw [Json.noted, Json.childOrEmpty_of_get? there object]
  exact outer

/-- **The edited metadata** have both annotations, however they held annotations before. -/
theorem applied?_marking (h : document.Noteable metadata)
    (annotations : m.annotations.isSome = (metadata.get? "annotations").any Json.isObject)
    (d : Destination) :
    Json.Patch.applied? (marking m d) metadata =
      some ((metadata.noted Marks.managed Marks.on).noted Marks.destination d.text) := by
  unfold marking
  cases held : m.annotations with
  | none =>
    -- Both annotations are added as one object, in the place of null if that is what is there.
    have empty : metadata.childOrEmpty "annotations" = .object [] := by
      rw [held] at annotations
      exact Json.childOrEmpty_of_not_object annotations.symm
    have first : metadata.noted Marks.managed Marks.on =
        metadata.set "annotations" (.object [(Marks.managed, .text Marks.on)]) := by
      rw [Json.noted, empty]
      rfl
    have there := Json.get?_set_self h.object "annotations"
      (.object [(Marks.managed, .text Marks.on)])
    rw [first, Json.noted, Json.childOrEmpty_of_get? there rfl, Json.set_set]
    show (PatchOperation.applied? (.add ["annotations"] _) metadata).bind _ = _
    rw [PatchOperation.applied?_add h.object]
    rfl
  | some table =>
    rw [held] at annotations
    obtain ⟨annotations, there, object⟩ := (Option.any_eq_true _ _).mp annotations.symm
    have there' : (metadata.noted Marks.managed Marks.on).get? "annotations" =
        some (annotations.set Marks.managed (.text Marks.on)) := by
      rw [Json.noted, Json.childOrEmpty_of_get? there object, Json.get?_set_self h.object]
    show Json.Patch.applied? [.add ["annotations", Marks.managed] (.text Marks.on),
      .add ["annotations", Marks.destination] (.text d.text)] metadata = _
    rw [Json.Patch.applied?_cons, applied?_addNote there object, Option.bind_some,
      Json.Patch.applied?_cons, applied?_addNote there' (by simpa using object)]
    rfl

end Marking

/-! ## The object -/

/-- **An object that can be edited** in the places where a build is: its metadata, and the reference
to its output. It is a value, with every key once. -/
structure Editable (document spec output reference metadata : Json) : Prop where
  value : document.normal = document
  hasSpec : document.get? "spec" = some spec
  hasOutput : spec.get? "output" = some output
  hasReference : output.get? "to" = some reference
  isReference : reference.isObject = true
  hasMetadata : document.get? "metadata" = some metadata
  isMetadata : metadata.isObject = true

namespace Editable

variable {document spec output reference metadata : Json} {b : Build} {o : OutputReference}
  {m : Metadata} {d : Destination}

theorem normal_metadata (h : Editable document spec output reference metadata) :
    metadata.normal = metadata :=
  Json.normal_get? h.value h.hasMetadata

theorem normal_spec (h : Editable document spec output reference metadata) : spec.normal = spec :=
  Json.normal_get? h.value h.hasSpec

theorem normal_output (h : Editable document spec output reference metadata) :
    output.normal = output :=
  Json.normal_get? h.normal_spec h.hasOutput

theorem normal_reference (h : Editable document spec output reference metadata) :
    reference.normal = reference :=
  Json.normal_get? h.normal_output h.hasReference

theorem noteable (h : Editable document spec output reference metadata) :
    document.Noteable metadata := by
  refine ⟨Json.keysOnce_of_normal h.value, h.hasMetadata, h.isMetadata,
    Json.keysOnce_of_normal h.normal_metadata, ?_⟩
  unfold Json.childOrEmpty
  split
  · rename_i fields there
    exact Json.keysOnce_of_normal (Json.normal_get? h.normal_metadata there)
  · exact List.nodup_nil

/-- The spec of the edited object. -/
def retargetedSpec (spec output reference : Json) (o : OutputReference) (image : String) : Json :=
  spec.set "output" (output.set "to" (retargeted reference o image))

theorem noteable_retargetedSpec (h : Editable document spec output reference metadata)
    (o : OutputReference) (image : String) :
    (document.set "spec" (retargetedSpec spec output reference o image)).Noteable metadata :=
  h.noteable.set (by decide) _

/-- The edited object. -/
def edited (document spec output reference : Json) (o : OutputReference) (d : Destination)
    (image : String) : Json :=
  noteDocument (noteDocument
    (document.set "spec" (retargetedSpec spec output reference o image)) Marks.managed Marks.on)
      Marks.destination d.text

/-- Annotations can be set in the edited object. -/
theorem noteable_edited (h : Editable document spec output reference metadata)
    (o : OutputReference) (d : Destination) (image : String) :
    (edited document spec output reference o d image).Noteable
      ((metadata.noted Marks.managed Marks.on).noted Marks.destination d.text) :=
  ((h.noteable_retargetedSpec o image).note _ _).note _ _

/-- What stands in the edited object. -/
theorem get?_edited (h : Editable document spec output reference metadata) (o : OutputReference)
    (d : Destination) (image key : String) :
    (edited document spec output reference o d image).get? key =
      if key = "metadata" then
        some ((metadata.noted Marks.managed Marks.on).noted Marks.destination d.text)
      else if key = "spec" then some (retargetedSpec spec output reference o image)
      else document.get? key := by
  have noteable := h.noteable_retargetedSpec o image
  have object := Json.isObject_of_get? h.hasSpec
  rw [edited, (noteable.note _ _).noteDocument_eq, noteable.noteDocument_eq, Json.set_set,
    Json.get?_set (by simpa using object), Json.get?_set object]

/-- **The edits apply**, and lead to the object with another output and both annotations. -/
theorem applied?_edits (h : Editable document spec output reference metadata)
    (target : b.target = some o) (read : OutputReference.ofJson reference = .ok o)
    (kind : o.kind ≠ "") (name : o.name ≠ "")
    (annotations : b.metadata.annotations.isSome = (metadata.get? "annotations").any Json.isObject)
    (d : Destination) (image : String) :
    Json.Patch.applied? (edits b d image) document =
      some (edited document spec output reference o d image) := by
  have noteable := h.noteable_retargetedSpec o image
  have first : ∀ operation ∈ retargeting o image, operation.path ≠ [] := by
    unfold retargeting
    split <;> simp [PatchOperation.path]
  have second : ∀ operation ∈ marking b.metadata d, operation.path ≠ [] := by
    unfold marking
    split <;> simp [PatchOperation.path, marks]
  -- First the edits within the spec, down to the reference, then those within the metadata.
  rw [edits_eq target, Json.Patch.applied?_append,
    Json.Patch.applied?_under (fun _ => Json.path_ne_nil_of_under) h.hasSpec,
    Json.Patch.applied?_under (fun _ => Json.path_ne_nil_of_under) h.hasOutput,
    Json.Patch.applied?_under first h.hasReference,
    applied?_retargeting h.isReference (Json.keysOnce_of_normal h.normal_reference) read kind name]
  show Json.Patch.applied? _ (document.set "spec" (retargetedSpec spec output reference o image)) =
    _
  rw [Json.Patch.applied?_under second noteable.holds, applied?_marking noteable annotations, edited,
    (noteable.note _ _).noteDocument_eq, noteable.noteDocument_eq, Json.set_set]
  rfl

/-- The reference in the object is the output of the build. -/
theorem target_read (h : Editable document spec output reference metadata)
    (build : Build.ofJson document = .ok b) (target : b.target = some o) :
    OutputReference.ofJson reference = .ok o := by
  have object := Json.isObject_of_get? h.hasSpec
  obtain ⟨-, hspec, -⟩ := (Build.ofJson_iff object (Json.keysOnce_of_normal h.value)).mp build
  rw [h.hasSpec, Field.fromEntry_some] at hspec
  have object := Json.isObject_of_get? h.hasOutput
  obtain ⟨-, houtput⟩ :=
    (BuildSpec.ofJson_iff object (Json.keysOnce_of_normal h.normal_spec)).mp hspec
  rw [h.hasOutput, Field.fromEntry_some] at houtput
  have object := Json.isObject_of_get? h.hasReference
  have htarget :=
    (BuildOutput.ofJson_iff object (Json.keysOnce_of_normal h.normal_output)).mp houtput
  rw [h.hasReference, Field.fromEntry_optional] at htarget
  have same : b.spec.output.target = some o := target
  rw [same] at htarget
  rcases Json.nullable_eq_ok_iff.mp htarget with ⟨-, none⟩ | ⟨-, o', read, some⟩
  · cases none
  · rwa [Option.some.inj some]

/-- **The edited spec** has the image as its output. -/
theorem ofJson_retargetedSpec {s : BuildSpec} (h : Editable document spec output reference metadata)
    (spec_read : BuildSpec.ofJson spec = .ok s) (read : OutputReference.ofJson reference = .ok o)
    (image : String) :
    BuildSpec.ofJson (retargetedSpec spec output reference o image) =
      .ok { s with
        output := ⟨some { kind := OutputReference.dockerImageKind, name := image }⟩ } := by
  have object := Json.isObject_of_get? h.hasOutput
  have object' := Json.isObject_of_get? h.hasReference
  have once := Json.keysOnce_of_normal h.normal_spec
  have once' := Json.keysOnce_of_normal h.normal_output
  obtain ⟨hstrategy, -⟩ := (BuildSpec.ofJson_iff object once).mp spec_read
  have retargeted_read := ofJson_retargeted h.isReference
    (Json.keysOnce_of_normal h.normal_reference) read image
  have notNull : retargeted reference o image ≠ .null := by
    intro null
    have isObject := isObject_retargeted h.isReference o image
    rw [null] at isObject
    cases isObject
  -- From the inside out: the reference, the output with it, and the spec with that.
  have output_read : BuildOutput.ofJson (output.set "to" (retargeted reference o image)) =
      .ok ⟨some { kind := OutputReference.dockerImageKind, name := image }⟩ := by
    rw [BuildOutput.ofJson_iff (by simpa using object') (once'.set _ _), Json.get?_set_self object',
      Field.fromEntry_optional, Json.nullable_eq_ok_iff]
    exact .inr ⟨notNull, _, retargeted_read, rfl⟩
  rw [retargetedSpec, BuildSpec.ofJson_iff (by simpa using object) (once.set _ _),
    Json.get?_set_of_ne _ _ (by decide), Json.get?_set_self object]
  exact ⟨hstrategy, output_read⟩

/-- **The edited object is a build**: the one that was there, with the image as its output and with
both annotations. -/
theorem ofJson_edited (h : Editable document spec output reference metadata)
    (build : Build.ofJson document = .ok b) (read : OutputReference.ofJson reference = .ok o)
    (d : Destination) (image : String) :
    ∃ table : Table String,
      Build.ofJson (edited document spec output reference o d image) =
        .ok { b with
          metadata := { b.metadata with annotations := some table }
          spec := { b.spec with
            output := ⟨some { kind := OutputReference.dockerImageKind, name := image }⟩ } } ∧
      ∀ other, table.get? other =
        if other = Marks.destination then some d.text
        else if other = Marks.managed then some Marks.on else b.metadata.note? other := by
  have object := Json.isObject_of_get? h.hasSpec
  have once := Json.keysOnce_of_normal h.value
  obtain ⟨-, hspec, -⟩ := (Build.ofJson_iff object once).mp build
  rw [h.hasSpec, Field.fromEntry_some] at hspec
  have noteable := h.noteable_retargetedSpec o image
  have retargeted_build := Build.ofJson_set_spec object once build
    (h.ofJson_retargetedSpec hspec read image)
  -- The annotations are set one after the other, each over what the build has by then.
  obtain ⟨table, first, hget⟩ :=
    Build.ofJson_noteDocument noteable retargeted_build Marks.managed Marks.on
  obtain ⟨table', second, hget'⟩ :=
    Build.ofJson_noteDocument (noteable.note _ _) first Marks.destination d.text
  refine ⟨table', second, fun other => ?_⟩
  rw [hget' other, Metadata.note?, Option.bind_some, hget]

/-! ## The object that was submitted -/

/-- An output that is taken over has a kind and a name. -/
theorem ne_empty_of_takenOver {ns : String} (taken : takenOver b = some o)
    (destination : Destination.ofOutput ns o.name = .ok d) : o.kind ≠ "" ∧ o.name ≠ "" := by
  obtain ⟨-, tag, -⟩ := takenOver_eq_some_iff.mp taken
  obtain ⟨-, hname, -⟩ := Destination.ofOutput_eq_ok_iff.mp destination
  refine ⟨by simp [tag], ?_⟩
  rw [← hname]
  exact d.nameTag_ne_empty

section Submitted

variable {raw : Json} {s : Submitted} {ns : String}

/-- The document that is written anew has its output in the same place. -/
theorem anew (h : Editable raw.normal spec output reference metadata)
    (read : Submitted.ofJson raw = .ok s) :
    Editable s.document spec output reference s.metadata.toJson.normal := by
  have holds := h.hasMetadata
  rw [Submitted.get?_metadata_normal read] at holds
  obtain ⟨submitted, there, -⟩ := Option.map_eq_some_iff.mp holds
  have written := Submitted.get?_document there read
  have hasSpec : s.document.get? "spec" = some spec := (written "spec").trans h.hasSpec
  exact
    { h with
      value := Json.normal_normal _
      hasSpec
      hasMetadata := written "metadata"
      isMetadata := rfl }

/-- **The edits apply to the object that was submitted**, though they were decided on what had been
read from it. -/
theorem applied?_submitted (h : Editable raw.normal spec output reference metadata)
    (read : Submitted.ofJson raw = .ok s) (build : s.build = .ok b)
    (taken : takenOver b = some o) (destination : Destination.ofOutput ns o.name = .ok d)
    (image : String) :
    OutputReference.ofJson reference = .ok o ∧
      Json.Patch.applied? (edits b d image) raw.normal =
        some (edited raw.normal spec output reference o d image) := by
  obtain ⟨target, -, -⟩ := takenOver_eq_some_iff.mp taken
  have output_read := (h.anew read).target_read build target
  have annotations := Submitted.isSome_annotations_of_build h.hasMetadata read build
  -- An empty kind or name would be read from an entry that is not there to be replaced.
  obtain ⟨kind, name⟩ := ne_empty_of_takenOver taken destination
  exact ⟨output_read, h.applied?_edits target output_read kind name annotations d image⟩

end Submitted

end Editable

/-- The parts of an object that can be edited. -/
theorem exists_editable {raw : Json} {fields reference : List (String × Json)}
    (hasMetadata : raw.normal.valueAt? ["metadata"] = some (.object fields))
    (hasReference : raw.normal.valueAt? ["spec", "output", "to"] = some (.object reference)) :
    ∃ spec output, Editable raw.normal spec output (.object reference) (.object fields) := by
  obtain ⟨metadata, hmetadata, whole⟩ := Option.bind_eq_some_iff.mp hasMetadata
  obtain rfl := Option.some.inj whole
  obtain ⟨spec, hspec, below⟩ := Option.bind_eq_some_iff.mp hasReference
  obtain ⟨output, houtput, below⟩ := Option.bind_eq_some_iff.mp below
  obtain ⟨target, htarget, whole⟩ := Option.bind_eq_some_iff.mp below
  obtain rfl := Option.some.inj whole
  exact ⟨spec, output, raw.normal_normal, hspec, houtput, htarget, rfl, hmetadata, rfl⟩

section Applied

variable {raw document reference metadata : Json} {b : Build} {o : OutputReference} {m : Metadata}
  {d : Destination} {image : String}

theorem isObject_of_applied?_retargeting
    (h : Json.Patch.applied? (retargeting o image) reference = some document) :
    reference.isObject = true := by
  unfold retargeting at h
  rw [List.cons_append, Json.Patch.applied?_cons] at h
  obtain ⟨_, first, -⟩ := Option.bind_eq_some_iff.mp h
  obtain ⟨kind, there⟩ := Json.exists_child?_of_editAt? first
  exact Json.isObject_of_get? (Json.get?_of_child? (by decide +kernel) there)

theorem isObject_of_applied?_marking
    (h : Json.Patch.applied? (marking m d) metadata = some document) :
    metadata.isObject = true := by
  have plain : Json.position? "annotations" = none := by decide +kernel
  unfold marking at h
  split at h
  · rw [Json.Patch.applied?_cons] at h
    obtain ⟨_, first, -⟩ := Option.bind_eq_some_iff.mp h
    exact Json.isObject_of_addChild? plain (by decide) first
  · rw [marks, List.map_cons, Json.Patch.applied?_cons] at h
    obtain ⟨_, first, -⟩ := Option.bind_eq_some_iff.mp h
    obtain ⟨annotations, there⟩ := Json.exists_child?_of_editAt? first
    exact Json.isObject_of_get? (Json.get?_of_child? plain there)

/-- **An object that the edits apply to** can be edited where a build is. -/
theorem exists_editable_of_applied (target : b.target = some o)
    (h : Json.Patch.applied? (edits b d image) raw.normal = some document) :
    ∃ spec output reference metadata, Editable raw.normal spec output reference metadata := by
  have retargets : retargeting o image ≠ [] := List.cons_ne_nil _ _
  have first : ∀ operation ∈ retargeting o image, operation.path ≠ [] := by
    unfold retargeting
    split <;> simp [PatchOperation.path]
  have second : marking b.metadata d ≠ [] ∧
      ∀ operation ∈ marking b.metadata d, operation.path ≠ [] := by
    unfold marking
    split <;> simp [PatchOperation.path, marks]
  have named : ∀ key ∈ ["spec", "output", "to", "metadata"], Json.position? key = none := by
    decide +kernel
  rw [edits_eq target, Json.Patch.applied?_append] at h
  obtain ⟨middle, inSpec, inMetadata⟩ := Option.bind_eq_some_iff.mp h
  obtain ⟨spec, edited, hasSpec, inOutput, rfl⟩ := Json.Patch.exists_of_applied?_under
    (by simpa using retargets) (named "spec" (by simp)) (fun _ => Json.path_ne_nil_of_under) inSpec
  obtain ⟨output, _, hasOutput, inReference, -⟩ := Json.Patch.exists_of_applied?_under
    (by simpa using retargets) (named "output" (by simp)) (fun _ => Json.path_ne_nil_of_under)
    inOutput
  obtain ⟨reference, _, hasReference, retargeted, -⟩ := Json.Patch.exists_of_applied?_under
    retargets (named "to" (by simp)) first inReference
  obtain ⟨metadata, _, hasMetadata, marked, -⟩ := Json.Patch.exists_of_applied?_under second.1
    (named "metadata" (by simp)) second.2 inMetadata
  rw [Json.get?_set_of_ne _ _ (by decide)] at hasMetadata
  exact ⟨spec, output, reference, metadata, raw.normal_normal, hasSpec, hasOutput, hasReference,
    isObject_of_applied?_retargeting retargeted, hasMetadata, isObject_of_applied?_marking marked⟩

end Applied

end RegistryBridge.Redirect
