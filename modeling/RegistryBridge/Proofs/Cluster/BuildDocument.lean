import RegistryBridge.Cluster.Build
import RegistryBridge.Proofs.Cluster.Annotations
/-!
# Builds read from edited documents

A build is read part by part, and so an edit of one part of its document changes that part of the
build alone.

## Main results

* `OutputReference.ofJson_iff`, `BuildSpec.ofJson_iff`, `Build.ofJson_iff`: what stands where.
* `Build.ofJson_set_metadata`, `Build.ofJson_set_spec`, `Build.ofJson_set_status`
* `Build.ofJson_noteDocument`: the build of an annotated document.
-/

namespace RegistryBridge

open Json (Field Record Reader)

variable {document : Json}

/-! ## What stands where -/

namespace OutputReference

/-- **An output reference** is read entry by entry. -/
theorem ofJson_iff {o : OutputReference} (object : document.isObject = true)
    (once : document.KeysOnce) :
    ofJson document = .ok o ↔
      (Field.withDefault "kind" Reader.text "").fromEntry (document.get? "kind") = .ok o.kind ∧
      (Field.withDefault "name" Reader.text "").fromEntry (document.get? "name") = .ok o.name ∧
      (Field.optional "namespace" Reader.text).fromEntry (document.get? "namespace") = .ok o.ns := by
  have lawful := (((Record.lawful_of OutputReference.mk).field (.withDefault "kind" Reader.text ""))
    |>.field (.withDefault "name" Reader.text "") |>.field (.optional "namespace" Reader.text))
  rw [ofJson, lawful.read_iff object once, Record.build_eq_iff_exists]
  simp only [Record.exists_build_field, Record.exists_build_of]
  constructor
  · rintro ⟨kind, hkind, name, hname, ns, hns, rfl⟩
    exact ⟨hkind, hname, hns⟩
  · rintro ⟨hkind, hname, hns⟩
    exact ⟨_, hkind, _, hname, _, hns, rfl⟩

end OutputReference

namespace BuildOutput

theorem ofJson_iff {o : BuildOutput} (object : document.isObject = true)
    (once : document.KeysOnce) :
    ofJson document = .ok o ↔
      (Field.optional "to" OutputReference.ofJson).fromEntry (document.get? "to") =
        .ok o.target := by
  have lawful := (Record.lawful_of BuildOutput.mk).field (.optional "to" OutputReference.ofJson)
  rw [ofJson, lawful.read_iff object once, Record.build_eq_iff_exists]
  simp only [Record.exists_build_field, Record.exists_build_of]
  constructor
  · rintro ⟨target, htarget, rfl⟩
    exact htarget
  · intro htarget
    exact ⟨_, htarget, rfl⟩

end BuildOutput

namespace BuildSpec

theorem ofJson_iff {s : BuildSpec} (object : document.isObject = true)
    (once : document.KeysOnce) :
    ofJson document = .ok s ↔
      (Field.withDefault "strategy" BuildStrategy.ofJson {}).fromEntry
        (document.get? "strategy") = .ok s.strategy ∧
      (Field.withDefault "output" BuildOutput.ofJson {}).fromEntry (document.get? "output") =
        .ok s.output := by
  have lawful := ((Record.lawful_of BuildSpec.mk).field
    (.withDefault "strategy" BuildStrategy.ofJson {})).field
    (.withDefault "output" BuildOutput.ofJson {})
  rw [ofJson, lawful.read_iff object once, Record.build_eq_iff_exists]
  simp only [Record.exists_build_field, Record.exists_build_of]
  constructor
  · rintro ⟨strategy, hstrategy, output, houtput, rfl⟩
    exact ⟨hstrategy, houtput⟩
  · rintro ⟨hstrategy, houtput⟩
    exact ⟨_, hstrategy, _, houtput, rfl⟩

end BuildSpec

/-- A status that can be read is not null. -/
theorem BuildStatus.nullable_eq_ok {status : Json} {s : BuildStatus}
    (read : BuildStatus.ofJson status = .ok s) :
    (Reader.nullable BuildStatus.ofJson) status = .ok (some s) := by
  refine Json.nullable_eq_ok_iff.mpr (.inr ⟨?_, s, read, rfl⟩)
  rintro rfl
  cases read

namespace Build

variable {b : Build}

/-- **A build** is read part by part. -/
theorem ofJson_iff (object : document.isObject = true) (once : document.KeysOnce) :
    ofJson document = .ok b ↔
      (Field.required "metadata" Metadata.ofJson).fromEntry (document.get? "metadata") =
        .ok b.metadata ∧
      (Field.required "spec" BuildSpec.ofJson).fromEntry (document.get? "spec") = .ok b.spec ∧
      (Field.optionalEntry "status" BuildStatus.ofJson).fromEntry (document.get? "status") =
        .ok b.status := by
  have lawful := ((Record.lawful_of Build.mk).field (.required "metadata" Metadata.ofJson))
    |>.field (.required "spec" BuildSpec.ofJson)
    |>.field (.optionalEntry "status" BuildStatus.ofJson)
  rw [ofJson, lawful.read_iff object once, Record.build_eq_iff_exists]
  simp only [Record.exists_build_field, Record.exists_build_of]
  constructor
  · rintro ⟨metadata, hmetadata, spec, hspec, status, hstatus, rfl⟩
    exact ⟨hmetadata, hspec, hstatus⟩
  · rintro ⟨hmetadata, hspec, hstatus⟩
    exact ⟨_, hmetadata, _, hspec, _, hstatus, rfl⟩

/-! ## Edited parts -/

theorem ofJson_set_metadata {metadata : Json} {m : Metadata} (object : document.isObject = true)
    (once : document.KeysOnce) (build : ofJson document = .ok b)
    (read : Metadata.ofJson metadata = .ok m) :
    ofJson (document.set "metadata" metadata) = .ok { b with metadata := m } := by
  obtain ⟨-, hspec, hstatus⟩ := (ofJson_iff object once).mp build
  rw [ofJson_iff (by simpa using object) (once.set _ _), Json.get?_set_self object,
    Json.get?_set_of_ne _ _ (by decide), Json.get?_set_of_ne _ _ (by decide)]
  exact ⟨read, hspec, hstatus⟩

theorem ofJson_set_spec {spec : Json} {s : BuildSpec} (object : document.isObject = true)
    (once : document.KeysOnce) (build : ofJson document = .ok b)
    (read : BuildSpec.ofJson spec = .ok s) :
    ofJson (document.set "spec" spec) = .ok { b with spec := s } := by
  obtain ⟨hmetadata, -, hstatus⟩ := (ofJson_iff object once).mp build
  rw [ofJson_iff (by simpa using object) (once.set _ _), Json.get?_set_self object,
    Json.get?_set_of_ne _ _ (by decide), Json.get?_set_of_ne _ _ (by decide)]
  exact ⟨hmetadata, read, hstatus⟩

theorem ofJson_set_status {status : Json} {s : BuildStatus} (object : document.isObject = true)
    (once : document.KeysOnce) (build : ofJson document = .ok b)
    (read : (Reader.nullable BuildStatus.ofJson) status = .ok (some s)) :
    ofJson (document.set "status" status) = .ok { b with status := some s } := by
  obtain ⟨hmetadata, hspec, -⟩ := (ofJson_iff object once).mp build
  rw [ofJson_iff (by simpa using object) (once.set _ _), Json.get?_set_self object,
    Json.get?_set_of_ne _ _ (by decide), Json.get?_set_of_ne _ _ (by decide)]
  exact ⟨hmetadata, hspec, read⟩

/-- **The build of an annotated document** is the one that was there, with that annotation. -/
theorem ofJson_noteDocument {metadata : Json} (h : document.Noteable metadata)
    (build : ofJson document = .ok b) (key value : String) :
    ∃ table : Table String,
      ofJson (noteDocument document key value) =
          .ok { b with metadata := { b.metadata with annotations := some table } } ∧
        ∀ other, table.get? other = if other = key then some value else b.metadata.note? other := by
  have object := Json.isObject_of_get? h.holds
  obtain ⟨hmetadata, -, -⟩ := (ofJson_iff object h.once).mp build
  rw [h.holds] at hmetadata
  obtain ⟨table, read, hget⟩ := h.metadata_noteDocument hmetadata key value
  refine ⟨table, ?_, hget⟩
  rw [h.noteDocument_eq]
  exact ofJson_set_metadata object h.once build read

end Build

end RegistryBridge
