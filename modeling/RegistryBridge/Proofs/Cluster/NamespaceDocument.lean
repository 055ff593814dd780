import RegistryBridge.ClusterApi.Client
import RegistryBridge.Proofs.Cluster.Annotations
import RegistryBridge.Proofs.Json.Merge
/-!
# Namespaces read from edited documents

A namespace is read part by part. The patch that sets the finalizers of an object is merged into its
metadata, and nothing else of the namespace is changed.

## Main results

* `Namespace.ofJson_iff`: what stands where.
* `Metadata.ofJson_set_finalizers`: metadata with other finalizers.
* `Namespace.ofJson_merged_finalizers`: the namespace once its finalizers have been patched.
-/

namespace RegistryBridge

open Json (Field Record Reader)

variable {document : Json}

namespace Metadata

variable {m : Metadata}

/-- **Metadata with other finalizers** are read as they were, with those finalizers. -/
theorem ofJson_set_finalizers (object : document.isObject = true) (once : document.KeysOnce)
    (read : ofJson document = .ok m) (finalizers : List String) :
    ofJson (document.set "finalizers" (Json.texts finalizers)) =
      .ok { m with finalizers := some finalizers } := by
  have entry : (Field.optional "finalizers" (Reader.list Reader.text)).fromEntry
      (some (Json.texts finalizers)) = .ok (some finalizers) := by
    have texts : Reader.list Reader.text (Json.texts finalizers) = .ok finalizers :=
      Json.list_map Reader.text_text finalizers
    have something : Json.texts finalizers ≠ .null := nofun
    exact Json.nullable_eq_ok_iff.mpr (.inr ⟨something, finalizers, texts, rfl⟩)
  obtain ⟨h₁, h₂, h₃, h₄, -, others⟩ := build_iff.mp ((ofJson_iff object once).mp read)
  rw [ofJson_iff (by simpa using object) (once.set _ _), build_iff]
  -- Every field but the fifth is read from the entry that it was read from before.
  simp only [Json.get?_set object, String.reduceEq, reduceIte]
  exact ⟨h₁, h₂, h₃, h₄, entry, others⟩

end Metadata

namespace Namespace

variable {n : Namespace}

theorem isObject_of_ofJson (read : ofJson document = .ok n) : document.isObject = true := by
  cases document with
  | object => rfl
  | _ => cases read

/-- **A namespace** is read part by part. -/
theorem ofJson_iff (object : document.isObject = true) (once : document.KeysOnce) :
    ofJson document = .ok n ↔
      (Field.withDefault "apiVersion" (Resource.readExactly "v1") ()).fromEntry
        (document.get? "apiVersion") = .ok () ∧
      (Field.withDefault "kind" (Resource.readExactly "Namespace") ()).fromEntry
        (document.get? "kind") = .ok () ∧
      (Field.nullAs "metadata" Metadata.ofJson {}).fromEntry (document.get? "metadata") =
        .ok n.metadata ∧
      (Field.optional "spec" readSpec).fromEntry (document.get? "spec") = .ok n.spec ∧
      (Field.optional "status" readStatus).fromEntry (document.get? "status") = .ok n.status := by
  have lawful := ((Record.lawful_of fun (_ _ : Unit) => Namespace.mk).field
      (.withDefault "apiVersion" (Resource.readExactly "v1") ()))
    |>.field (.withDefault "kind" (Resource.readExactly "Namespace") ())
    |>.field (.nullAs "metadata" Metadata.ofJson {})
    |>.field (.optional "spec" readSpec)
    |>.field (.optional "status" readStatus)
  rw [ofJson, Resource.standard, lawful.readResource_iff object once, Record.build_eq_iff_exists]
  simp only [Record.exists_build_field, Record.exists_build_of]
  constructor
  · rintro ⟨_, version, _, kind, metadata, hmetadata, spec, hspec, status, hstatus, rfl⟩
    exact ⟨version, kind, hmetadata, hspec, hstatus⟩
  · rintro ⟨version, kind, hmetadata, hspec, hstatus⟩
    exact ⟨_, version, _, kind, _, hmetadata, _, hspec, _, hstatus, rfl⟩

/-- The metadata of a namespace are read from an object, the empty one if there is none. -/
theorem metadata_of_ofJson (once : document.KeysOnce) (read : ofJson document = .ok n) :
    Metadata.ofJson (document.childOrEmpty "metadata") = .ok n.metadata := by
  obtain ⟨-, -, metadata, -⟩ := (ofJson_iff (isObject_of_ofJson read) once).mp read
  have nothing : Metadata.ofJson (.object []) = .ok {} := rfl
  unfold Json.childOrEmpty
  cases held : document.get? "metadata" with
  | none =>
    rw [held] at metadata
    exact nothing.trans metadata
  | some child =>
    rw [held] at metadata
    cases child with
    | null => exact nothing.trans metadata
    | object fields => exact metadata
    | _ => cases metadata

/-- **Other metadata** leave the rest of a namespace as it is. -/
theorem ofJson_set_metadata {metadata : Json} {m : Metadata} (once : document.KeysOnce)
    (read : ofJson document = .ok n) (other : metadata.isObject = true)
    (readOther : Metadata.ofJson metadata = .ok m) :
    ofJson (document.set "metadata" metadata) = .ok { n with metadata := m } := by
  have object := isObject_of_ofJson read
  have entry : (Field.nullAs "metadata" Metadata.ofJson {}).fromEntry (some metadata) = .ok m := by
    cases metadata with
    | object => exact readOther
    | _ => cases other
  obtain ⟨version, kind, -, others⟩ := (ofJson_iff object once).mp read
  rw [ofJson_iff (by simpa using object) (once.set _ _)]
  simp only [Json.get?_set object, String.reduceEq, reduceIte]
  exact ⟨version, kind, entry, others⟩

/-- **The namespace once its finalizers have been patched** is the one that is stored when they are
edited: it has those that the patch sets, and is otherwise as it was. -/
theorem ofJson_merged_finalizers (once : document.KeysOnce)
    (within : (document.childOrEmpty "metadata").KeysOnce) (read : ofJson document = .ok n)
    (finalizers : List String) :
    ofJson ((ClusterApi.finalizersPatch finalizers).mergedInto document) =
      .ok (ClusterStore.refinalized n finalizers) := by
  have object : (document.childOrEmpty "metadata").isObject = true := Json.isObject_childOrEmpty ..
  have metadata := Metadata.ofJson_set_finalizers object within (metadata_of_ofJson once read)
    finalizers
  have merged : (ClusterApi.finalizersPatch finalizers).mergedInto document =
      document.set "metadata"
        ((document.childOrEmpty "metadata").set "finalizers" (Json.texts finalizers)) :=
    Json.mergedInto_under (isObject_of_ofJson read) _ _ rfl nofun
  rw [merged]
  exact ofJson_set_metadata once read (by simpa using object) metadata

end Namespace

end RegistryBridge
