import RegistryBridge.Admission.Review
import RegistryBridge.Proofs.Cluster.BuildDocument
/-!
# Builds read from what was submitted

The webhook reads a build from a document that it has written anew: the metadata as far as they are
known, the other entries as they were. The object itself is the same build, with the metadata that
were submitted.

## Main results

* `Submitted.get?_document`: what stands in the document that is written anew.
* `Submitted.isSome_annotations_of_build`, `Submitted.ofJson_of_build`: the object that was
  submitted is a build, and has annotations when that has.
* `Submitted.exists_ofJson`: an object is read if its metadata are.
-/

namespace RegistryBridge.Submitted

open Json (Field Record Reader)

variable {document metadata : Json} {s : Submitted} {b : Build}

/-- Whether an entry is kept as it is. -/
def keeps (key : String) : Bool :=
  key ≠ "metadata" ∧ key ≠ "apiVersion" ∧ key ≠ "kind"

theorem isObject_document (s : Submitted) : s.document.isObject = true := rfl

theorem keysOnce_document (s : Submitted) : s.document.KeysOnce := Json.keysOnce_normal _

/-- What is read of an object with metadata. -/
theorem of_ofJson (holds : document.get? "metadata" = some metadata)
    (read : ofJson document = .ok s) :
    ∃ fields, document = .object fields ∧ Metadata.ofJson metadata = .ok s.metadata ∧
      s.entries = fields.filter fun entry => keeps entry.1 := by
  cases document with
  | object fields =>
    have there : List.lookup "metadata" fields = some metadata := holds
    cases hread : Metadata.ofJson metadata with
    | error e =>
      simp only [ofJson, there, hread, bind, Except.bind] at read
      split at read <;> cases read
    | ok m =>
      simp only [ofJson, there, hread, bind, Except.bind, pure, Except.pure] at read
      split at read
      · cases read
      · obtain rfl := Except.ok.inj read
        exact ⟨fields, rfl, rfl, rfl⟩
  | _ => cases holds

/-- **An object with metadata that can be read** can be read, if it has them once. -/
theorem exists_ofJson {m : Metadata} (once : document.KeysOnce)
    (holds : document.get? "metadata" = some metadata) (read : Metadata.ofJson metadata = .ok m) :
    ∃ s, ofJson document = .ok s ∧ s.metadata = m := by
  cases document with
  | object fields =>
    have there : List.lookup "metadata" fields = some metadata := holds
    have few : (fields.filter (·.1 == "metadata")).length ≤ 1 := by
      have counted := List.nodup_iff_count.mp once "metadata"
      rw [List.count_eq_countP, List.countP_map, List.countP_eq_length_filter] at counted
      exact counted
    simp only [ofJson, if_neg (Nat.not_lt.mpr few), there, read, bind, Except.bind]
    exact ⟨_, rfl, rfl⟩
  | _ => cases holds

/-- The metadata of an object are written once. -/
theorem get?_metadata_normal (read : ofJson document = .ok s) :
    document.normal.get? "metadata" = (document.get? "metadata").map Json.normal := by
  cases document with
  | object fields =>
    have once : ¬ 1 < (fields.filter (·.1 == "metadata")).length := by
      intro many
      simp only [ofJson, if_pos many] at read
      cases read
    -- A list with at most one entry is the same from both ends.
    have same : (fields.filter (·.1 == "metadata")).reverse =
        fields.filter (·.1 == "metadata") := by
      cases kept : fields.filter (·.1 == "metadata") with
      | nil => rfl
      | cons entry rest =>
        rw [kept] at once
        have none : rest = [] := List.eq_nil_of_length_eq_zero (by simpa using once)
        rw [none]
        rfl
    have found : ∀ entries : List (String × Json), List.lookup "metadata" entries =
        List.lookup "metadata" (entries.filter (·.1 == "metadata")) := fun entries =>
      (Json.lookup_filter entries (· == "metadata") "metadata").symm
    rw [Json.get?_normal_object, found fields.reverse, List.filter_reverse, same, ← found]
    rfl
  | _ => cases read

/-- **What stands in the document that is written anew**: the metadata as they are written, and all
else as it was submitted. -/
theorem get?_document (holds : document.get? "metadata" = some metadata)
    (read : ofJson document = .ok s) (key : String) :
    s.document.get? key =
      if key = "metadata" then some s.metadata.toJson.normal
      else if keeps key then document.normal.get? key else none := by
  obtain ⟨fields, rfl, -, kept⟩ := of_ofJson holds read
  have dropped : keeps "metadata" = false := rfl
  rw [document, Json.get?_normal_object, Json.lookup_reverse_cons, kept, ← List.filter_reverse,
    Json.lookup_filter, Json.get?_normal_object]
  -- The metadata are written in front of entries from which they were taken out.
  by_cases named : key = "metadata"
  · subst named
    simp [dropped]
  · simp only [named, if_false, Option.or_none]
    split <;> rfl

theorem get?_document_of_keeps (holds : document.get? "metadata" = some metadata)
    (read : ofJson document = .ok s) {key : String} (kept : keeps key = true) :
    s.document.get? key = document.normal.get? key := by
  have other : key ≠ "metadata" := by
    rintro rfl
    cases kept
  rw [get?_document holds read, if_neg other, if_pos kept]

/-- **A build has annotations** where the object that was submitted has. -/
theorem isSome_annotations_of_build (holds : document.normal.get? "metadata" = some metadata)
    (read : ofJson document = .ok s) (build : s.build = .ok b) :
    b.metadata.annotations.isSome = (metadata.get? "annotations").any Json.isObject := by
  rw [get?_metadata_normal read] at holds
  obtain ⟨submitted, there, rfl⟩ := Option.map_eq_some_iff.mp holds
  obtain ⟨-, -, metadata_read, -⟩ := of_ofJson there read
  obtain ⟨hmetadata, -, -⟩ := (Build.ofJson_iff s.isObject_document s.keysOnce_document).mp build
  rw [get?_document there read] at hmetadata
  rw [Metadata.isSome_annotations_of_toJson hmetadata, Metadata.isSome_annotations metadata_read]

/-- **The object that was submitted is a build**: the one that was read, with the metadata that were
submitted. -/
theorem ofJson_of_build (value : document.normal = document)
    (holds : document.get? "metadata" = some metadata) (read : ofJson document = .ok s)
    (build : s.build = .ok b) : Build.ofJson document = .ok { b with metadata := s.metadata } := by
  obtain ⟨-, hspec, hstatus⟩ := (Build.ofJson_iff s.isObject_document s.keysOnce_document).mp build
  rw [get?_document holds read, value] at hspec hstatus
  obtain ⟨-, -, metadata_read, -⟩ := of_ofJson holds read
  -- The spec and the status are read from the same entries in both documents.
  rw [Build.ofJson_iff (Json.isObject_of_get? holds) (Json.keysOnce_of_normal value), holds]
  exact ⟨metadata_read, hspec, hstatus⟩

end RegistryBridge.Submitted
