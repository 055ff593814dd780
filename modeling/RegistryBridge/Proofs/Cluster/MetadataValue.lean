import RegistryBridge.Proofs.Cluster.Annotations
import RegistryBridge.Proofs.Json.ByValue
/-!
# Metadata go by their value

Metadata that are read from a document and from its normal form are written alike: they differ at most
in what is kept of them as it was, which is who set which fields. And metadata whose document can be
read again are still so with other annotations.

## Main results

* `Metadata.byValue_ofJson`: metadata are read by the value of a document.
* `Metadata.exists_ofJson_annotated`: metadata with other annotations are read again.
-/

namespace RegistryBridge

open Json (Field Record Reader)

/-! ## Tables of texts -/

theorem insertField_map_textEntry (table : Table String) (key value : String) :
    Json.insertField key (.text value) (table.map textEntry) =
      (table.insert key value).map textEntry := by
  induction table with
  | nil => rfl
  | cons entry rest ih =>
    obtain ⟨k, v⟩ := entry
    rw [List.map_cons, textEntry, Json.insertField, Table.insert]
    split
    · rfl
    · split
      · rfl
      · rw [ih]
        rfl

theorem normalFields_map_textEntry (entries : List (String × String)) (table : Table String) :
    Json.normalFields (entries.map textEntry) (table.map textEntry) =
      (entries.foldl (fun table entry => table.insert entry.1 entry.2) table).map textEntry := by
  induction entries generalizing table with
  | nil => rfl
  | cons entry rest ih =>
    obtain ⟨key, value⟩ := entry
    show Json.normalFields (rest.map textEntry)
      (Json.insertField key (.text value) (table.map textEntry)) = _
    rw [insertField_map_textEntry, ih]
    rfl

/-- **The normal form of an object of texts** is the table that is read from it. -/
theorem normal_object_texts (entries : List (String × String)) :
    (Json.object (entries.map textEntry)).normal =
      .object ((Table.ofList entries).map textEntry) :=
  congrArg Json.object (normalFields_map_textEntry entries [])

theorem Table.ofList_ofList (entries : List (String × String)) :
    Table.ofList (Table.ofList entries) = Table.ofList entries := by
  have again := Json.normal_normal (.object (entries.map textEntry))
  rw [normal_object_texts, normal_object_texts] at again
  have injective : Function.Injective textEntry := by
    rintro ⟨key, value⟩ ⟨key', value'⟩ same
    simpa [textEntry] using same
  exact List.map_injective_iff.mpr injective (Json.object.inj again)

theorem byValue_readTexts : Reader.ByValue readTexts Eq := by
  intro document table read
  obtain ⟨entries, rfl, rfl⟩ := readTexts_eq_ok_iff.mp read
  rw [normal_object_texts]
  exact ⟨_, readTexts_eq_ok_iff.mpr ⟨_, rfl, Table.ofList_ofList entries⟩, rfl⟩

/-- What is written for a table of texts can be read in normal form. -/
theorem exists_readTexts_writeTexts (table : Table String) :
    ∃ table', readTexts (writeTexts table).normal = .ok table' := by
  obtain ⟨table', read, -⟩ := byValue_readTexts _ _ (readTexts_eq_ok_iff.mpr ⟨table, rfl, rfl⟩)
  exact ⟨table', read⟩

/-! ## Parts of metadata -/

/-- Entries that are written alike have the same normal form. -/
theorem map_optionalEntry_congr {α : Type} (write : α → Json) {value other : Option α}
    (same : Option.Rel (fun a b => (write b).normal = (write a).normal) value other)
    (name : String) :
    (optionalEntry name write other).map (fun entry => (entry.1, entry.2.normal)) =
      (optionalEntry name write value).map fun entry => (entry.1, entry.2.normal) := by
  cases same with
  | none => rfl
  | some same => exact congrArg (fun document => some (name, document)) same

theorem Instant.byValue_ofJson : Reader.ByValue Instant.ofJson Eq :=
  Reader.byValue_of_normal fun document _ h => by
    cases document with
    | text => rfl
    | _ => cases h

theorem byValue_readInt64 : Reader.ByValue readInt64 Eq :=
  Reader.byValue_integer _ _ _

theorem OwnerReference.byValue_ofJson : Reader.ByValue OwnerReference.ofJson Eq := by
  refine Record.ByValue.readResource ?_ ?_ _
  · refine .field ?_ (Reader.byValue_text.nullAs "uid" "")
    refine .field ?_ (Reader.byValue_text.nullAs "name" "")
    refine .field ?_ (Reader.byValue_text.nullAs "kind" "")
    refine .field ?_ (Reader.byValue_bool.optional_eq "controller")
    refine .field ?_ (Reader.byValue_bool.optional_eq "blockOwnerDeletion")
    refine .field ?_ (Reader.byValue_text.nullAs "apiVersion" "")
    refine Record.byValue_of ?_
    rintro _ _ rfl _ _ rfl _ _ rfl _ _ rfl _ _ rfl _ _ rfl
    rfl
  · repeat' apply Record.Lawful.field
    exact Record.lawful_of _

namespace ManagedFields

theorem byValue_ofJson :
    Reader.ByValue ofJson fun f f' => f'.toJson.normal = f.toJson.normal := by
  refine Record.ByValue.readResource ?_ ?_ _
  · refine .field ?_ (Instant.byValue_ofJson.optional_eq "time")
    refine .field ?_ (Reader.byValue_text.optional_eq "subresource")
    refine .field ?_ (Reader.byValue_text.optional_eq "operation")
    refine .field ?_ (Reader.byValue_text.optional_eq "manager")
    refine .field ?_ (Reader.byValue_anything.optional "fieldsV1")
    refine .field ?_ (Reader.byValue_text.optional_eq "fieldsType")
    refine .field ?_ (Reader.byValue_text.optional_eq "apiVersion")
    refine Record.byValue_of ?_
    rintro _ _ rfl _ _ rfl fields fields' kept _ _ rfl _ _ rfl _ _ rfl _ _ rfl
    refine Json.normal_record_congr ?_
    -- Only what is kept as it was has been brought into normal form.
    have written := map_optionalEntry_congr id kept "fieldsV1"
    simp only [List.map_cons, List.map_nil, written]
  · repeat' apply Record.Lawful.field
    exact Record.lawful_of _

end ManagedFields

namespace Metadata

variable {document : Json} {m : Metadata}

/-- **Metadata are read by the value of a document**, and so they are written alike. -/
theorem byValue_ofJson :
    Reader.ByValue ofJson fun m m' => m'.toJson.normal = m.toJson.normal := by
  refine Record.ByValue.readResource ?_ lawful_record _
  refine .field ?_ (Reader.byValue_text.optional_eq "uid")
  refine .field ?_ (Reader.byValue_text.optional_eq "selfLink")
  refine .field ?_ (Reader.byValue_text.optional_eq "resourceVersion")
  refine .field ?_ (OwnerReference.byValue_ofJson.list_eq.optional_eq "ownerReferences")
  refine .field ?_ (Reader.byValue_text.optional_eq "namespace")
  refine .field ?_ (Reader.byValue_text.optional_eq "name")
  refine .field ?_ (ManagedFields.byValue_ofJson.list_written.optional "managedFields")
  refine .field ?_ (byValue_readTexts.optional_eq "labels")
  refine .field ?_ (byValue_readInt64.optional_eq "generation")
  refine .field ?_ (Reader.byValue_text.optional_eq "generateName")
  refine .field ?_ (Reader.byValue_text.list_eq.optional_eq "finalizers")
  refine .field ?_ (Instant.byValue_ofJson.optional_eq "deletionTimestamp")
  refine .field ?_ (byValue_readInt64.optional_eq "deletionGracePeriodSeconds")
  refine .field ?_ (Instant.byValue_ofJson.optional_eq "creationTimestamp")
  refine .field ?_ (byValue_readTexts.optional_eq "annotations")
  refine Record.byValue_of ?_
  rintro _ _ rfl _ _ rfl _ _ rfl _ _ rfl _ _ rfl _ _ rfl _ _ rfl _ _ rfl managed managed' alike
    _ _ rfl _ _ rfl _ _ rfl _ _ rfl _ _ rfl _ _ rfl
  refine Json.normal_record_congr ?_
  have written := map_optionalEntry_congr _ alike "managedFields"
  simp only [List.map_cons, List.map_nil, written]

/-- Other annotations change no other entry. -/
theorem get?_toJson_annotated (m : Metadata) (annotations : Option (Table String)) {key : String}
    (other : key ≠ "annotations") :
    ({ m with annotations } : Metadata).toJson.get? key = m.toJson.get? key := by
  have skip : ∀ (annotations : Option (Table String)) (entries : List (Option (String × Json))),
      (Json.record (optionalEntry "annotations" writeTexts annotations :: entries)).get? key =
        (Json.record entries).get? key := by
    intro annotations entries
    cases annotations with
    | none => rfl
    | some table => exact (Json.lookup_cons _ _ _ _).trans (if_neg other)
  exact (skip annotations _).trans (skip m.annotations _).symm

/-- **Metadata that are read again** are still so with other annotations. -/
theorem exists_ofJson_annotated {m' : Metadata} (read : ofJson m.toJson.normal = .ok m')
    (table : Table String) :
    ∃ m'', ofJson ({ m with annotations := some table } : Metadata).toJson.normal = .ok m'' := by
  obtain ⟨table', texts⟩ := exists_readTexts_writeTexts table
  have object : m.toJson.normal.isObject = true := rfl
  have once := Json.keysOnce_normal m.toJson
  have edited := ofJson_set_annotations object once read texts
  -- What is written with the other annotations holds what those metadata hold with them set.
  have same : ({ m with annotations := some table } : Metadata).toJson.normal.get? =
      (m.toJson.normal.set "annotations" (writeTexts table).normal).get? := by
    funext key
    rw [Json.get?_set object, Json.get?_normal (keysOnce_toJson _)]
    by_cases named : key = "annotations"
    · rw [if_pos named, named, get?_annotations_toJson]
      rfl
    · rw [if_neg named, get?_toJson_annotated m _ named, Json.get?_normal (keysOnce_toJson m)]
  rw [ofJson_iff (by simpa using object) (once.set _ _), ← same] at edited
  exact ⟨_, (ofJson_iff rfl (Json.keysOnce_normal _)).mpr edited⟩

end Metadata

end RegistryBridge
