import RegistryBridge.Proofs.Json.Written
import RegistryBridge.World.Cluster
/-!
# Setting annotations in documents

An annotation is set in the document of an object, and only later read with the rest of it. What is
read then is the object that was there before, with that annotation.

## Main definitions

* `Json.Noteable`: a document in which annotations can be set.

## Main results

* `readTexts_set`: an object of texts with one of them set.
* `Metadata.build_iff`: metadata are looked up entry by entry.
* `Metadata.ofJson_set_annotations`: metadata with other annotations.
* `Json.Noteable.metadata_noteDocument`: what an annotated document holds as metadata.
-/

namespace RegistryBridge

open Json (Field Record Reader)

/-! ## Tables read from objects -/

theorem Table.get?_foldl_insert {α : Type} {entries : List (String × α)}
    (once : (entries.map Prod.fst).Nodup) (table : Table α) (key : String) :
    Table.get? (entries.foldl (fun table entry => table.insert entry.1 entry.2) table) key =
      (List.lookup key entries).or (table.get? key) := by
  induction entries generalizing table with
  | nil => rfl
  | cons entry rest ih =>
    obtain ⟨k, v⟩ := entry
    obtain ⟨absent, once⟩ := List.nodup_cons.mp once
    rw [List.foldl_cons, ih once, Table.get?_insert, Json.lookup_cons]
    by_cases hk : key = k
    · subst hk
      simp [Json.lookup_of_not_mem absent]
    · simp [hk]

/-- A table of entries with every key once holds them. -/
theorem Table.get?_ofList {α : Type} {entries : List (String × α)}
    (once : (entries.map Prod.fst).Nodup) (key : String) :
    (Table.ofList entries).get? key = List.lookup key entries := by
  rw [Table.ofList, Table.get?_foldl_insert once]
  simp

theorem readText_eq_ok_iff {document : Json} {s : String} :
    Reader.text document = .ok s ↔ document = .text s := by
  cases document <;> simp [Reader.text]

/-- The entry of a text. -/
def textEntry (entry : String × String) : String × Json :=
  (entry.1, .text entry.2)

theorem entries_map_textEntry (entries : List (String × String)) :
    Reader.entries Reader.text (entries.map textEntry) = .ok entries := by
  induction entries with
  | nil => rfl
  | cons entry rest ih =>
    obtain ⟨key, s⟩ := entry
    simp [Reader.entries, Reader.text, textEntry, ih]

theorem eq_map_textEntry {fields : List (String × Json)} {entries : List (String × String)}
    (h : Reader.entries Reader.text fields = .ok entries) : fields = entries.map textEntry := by
  induction fields generalizing entries with
  | nil =>
    obtain rfl := Except.ok.inj h
    rfl
  | cons field rest ih =>
    obtain ⟨key, document⟩ := field
    unfold Reader.entries at h
    split at h
    · cases h
    · rename_i s read
      split at h
      · cases h
      · rename_i more later
        obtain rfl := Except.ok.inj h
        rw [List.map_cons, ← ih later, readText_eq_ok_iff.mp read]
        rfl

theorem fst_map_textEntry (entries : List (String × String)) :
    (entries.map textEntry).map Prod.fst = entries.map Prod.fst := by
  rw [List.map_map]
  rfl

theorem lookup_map_textEntry (entries : List (String × String)) (key : String) :
    List.lookup key (entries.map textEntry) = (List.lookup key entries).map .text := by
  induction entries with
  | nil => rfl
  | cons entry rest ih =>
    obtain ⟨k, s⟩ := entry
    rw [List.map_cons, textEntry, Json.lookup_cons, Json.lookup_cons, ih]
    split <;> rfl

/-- **A table of texts** is read from an object that holds each of them as a text. -/
theorem readTexts_eq_ok_iff {document : Json} {table : Table String} :
    readTexts document = .ok table ↔
      ∃ entries, document = .object (entries.map textEntry) ∧ Table.ofList entries = table := by
  constructor
  · intro read
    cases document with
    | object fields =>
      unfold readTexts Reader.table at read
      cases entered : Reader.entries Reader.text fields with
      | error e => simp [entered, Except.map] at read
      | ok entries =>
        simp only [entered, Except.map, Except.ok.injEq] at read
        exact ⟨entries, congrArg Json.object (eq_map_textEntry entered), read⟩
    | _ => cases read
  · rintro ⟨entries, rfl, rfl⟩
    simp [readTexts, Reader.table, entries_map_textEntry, Except.map]

theorem isObject_of_readTexts {document : Json} {table : Table String}
    (read : readTexts document = .ok table) : document.isObject = true := by
  obtain ⟨entries, rfl, -⟩ := readTexts_eq_ok_iff.mp read
  rfl

theorem ne_null_of_readTexts {document : Json} {table : Table String}
    (read : readTexts document = .ok table) : document ≠ .null := by
  rintro rfl
  cases isObject_of_readTexts read

/-- What a table of texts holds, the object holds as texts. -/
theorem get?_of_readTexts {document : Json} {table : Table String} (once : document.KeysOnce)
    (read : readTexts document = .ok table) (key : String) :
    document.get? key = (table.get? key).map .text := by
  obtain ⟨entries, rfl, rfl⟩ := readTexts_eq_ok_iff.mp read
  have once : (entries.map Prod.fst).Nodup := by
    rw [← fst_map_textEntry]
    exact once
  rw [Table.get?_ofList once]
  exact lookup_map_textEntry entries key

theorem exists_setField_textEntry (entries : List (String × String)) (key value : String) :
    ∃ entries' : List (String × String),
      Json.setField (entries.map textEntry) key (.text value) = entries'.map textEntry := by
  induction entries with
  | nil => exact ⟨[(key, value)], rfl⟩
  | cons entry rest ih =>
    obtain ⟨entries', h⟩ := ih
    rw [List.map_cons, textEntry, Json.setField]
    split
    · exact ⟨(key, value) :: rest, rfl⟩
    · exact ⟨entry :: entries', congrArg (textEntry entry :: ·) h⟩

/-- **Texts with one of them set** are read as the table with that text. -/
theorem readTexts_set {document : Json} {table : Table String} (once : document.KeysOnce)
    (read : readTexts document = .ok table) (key value : String) :
    ∃ table', readTexts (document.set key (.text value)) = .ok table' ∧
      ∀ other, table'.get? other = if other = key then some value else table.get? other := by
  obtain ⟨entries, rfl, -⟩ := readTexts_eq_ok_iff.mp read
  obtain ⟨entries', h⟩ := exists_setField_textEntry entries key value
  have read' : readTexts (Json.set (.object (entries.map textEntry)) key (.text value)) =
      .ok (Table.ofList entries') :=
    readTexts_eq_ok_iff.mpr ⟨entries', congrArg Json.object h, rfl⟩
  refine ⟨Table.ofList entries', read', fun other => ?_⟩
  -- Both tables are known by what the objects hold, and there `set` is understood.
  have after := get?_of_readTexts (once.set key (.text value)) read' other
  rw [Json.get?_set rfl, get?_of_readTexts once read other] at after
  have text_injective : Function.Injective Json.text := fun _ _ => Json.text.inj
  refine Option.map_injective text_injective (after.symm.trans ?_)
  split <;> rfl

/-! ## Metadata -/

namespace Metadata

variable {document : Json} {m : Metadata}

theorem lawful_record : record.Lawful := by
  unfold record
  repeat' apply Record.Lawful.field
  exact Record.lawful_of _

theorem ofJson_iff (object : document.isObject = true) (once : document.KeysOnce) :
    ofJson document = .ok m ↔ record.build document.get? = .ok m :=
  lawful_record.readResource_iff object once

/-- **Metadata are looked up entry by entry**, each under its own key. -/
theorem build_iff {get : String → Option Json} :
    record.build get = .ok m ↔
      (Field.optional "annotations" readTexts).fromEntry (get "annotations") = .ok m.annotations ∧
      (Field.optional "creationTimestamp" Instant.ofJson).fromEntry (get "creationTimestamp") =
        .ok m.creationTimestamp ∧
      (Field.optional "deletionGracePeriodSeconds" readInt64).fromEntry
        (get "deletionGracePeriodSeconds") = .ok m.deletionGracePeriodSeconds ∧
      (Field.optional "deletionTimestamp" Instant.ofJson).fromEntry (get "deletionTimestamp") =
        .ok m.deletionTimestamp ∧
      (Field.optional "finalizers" (Reader.list Reader.text)).fromEntry (get "finalizers") =
        .ok m.finalizers ∧
      (Field.optional "generateName" Reader.text).fromEntry (get "generateName") =
        .ok m.generateName ∧
      (Field.optional "generation" readInt64).fromEntry (get "generation") = .ok m.generation ∧
      (Field.optional "labels" readTexts).fromEntry (get "labels") = .ok m.labels ∧
      (Field.optional "managedFields" (Reader.list ManagedFields.ofJson)).fromEntry
        (get "managedFields") = .ok m.managedFields ∧
      (Field.optional "name" Reader.text).fromEntry (get "name") = .ok m.name ∧
      (Field.optional "namespace" Reader.text).fromEntry (get "namespace") = .ok m.ns ∧
      (Field.optional "ownerReferences" (Reader.list OwnerReference.ofJson)).fromEntry
        (get "ownerReferences") = .ok m.ownerReferences ∧
      (Field.optional "resourceVersion" Reader.text).fromEntry (get "resourceVersion") =
        .ok m.resourceVersion ∧
      (Field.optional "selfLink" Reader.text).fromEntry (get "selfLink") = .ok m.selfLink ∧
      (Field.optional "uid" Reader.text).fromEntry (get "uid") = .ok m.uid := by
  rw [Record.build_eq_iff_exists]
  simp only [record, Record.exists_build_field, Record.exists_build_of]
  constructor
  · rintro ⟨_, h₁, _, h₂, _, h₃, _, h₄, _, h₅, _, h₆, _, h₇, _, h₈, _, h₉, _, h₁₀, _, h₁₁, _, h₁₂,
      _, h₁₃, _, h₁₄, _, h₁₅, rfl⟩
    exact ⟨h₁, h₂, h₃, h₄, h₅, h₆, h₇, h₈, h₉, h₁₀, h₁₁, h₁₂, h₁₃, h₁₄, h₁₅⟩
  · rintro ⟨h₁, h₂, h₃, h₄, h₅, h₆, h₇, h₈, h₉, h₁₀, h₁₁, h₁₂, h₁₃, h₁₄, h₁₅⟩
    exact ⟨_, h₁, _, h₂, _, h₃, _, h₄, _, h₅, _, h₆, _, h₇, _, h₈, _, h₉, _, h₁₀, _, h₁₁, _, h₁₂,
      _, h₁₃, _, h₁₄, _, h₁₅, rfl⟩

/-- The annotations that metadata hold, null standing for none. -/
theorem annotations_of_ofJson (object : document.isObject = true) (once : document.KeysOnce)
    (read : ofJson document = .ok m) :
    (Field.optional "annotations" readTexts).fromEntry (document.get? "annotations") =
      .ok m.annotations :=
  (build_iff.mp ((ofJson_iff object once).mp read)).1

/-- **Metadata have annotations** where an object stands for them, however often their key was
written. -/
theorem isSome_annotations (read : ofJson document = .ok m) :
    m.annotations.isSome = (document.normal.get? "annotations").any Json.isObject := by
  cases document with
  | object fields =>
    have entry := (build_iff.mp (Record.build_of_readResource read)).1
    rw [Json.get?_normal_object]
    cases held : List.lookup "annotations" fields.reverse with
    | none =>
      rw [held] at entry
      have none : m.annotations = none := (Except.ok.inj entry).symm
      rw [none]
      rfl
    | some annotations =>
      rw [held, Field.fromEntry_optional] at entry
      rcases Json.nullable_eq_ok_iff.mp entry with ⟨rfl, none⟩ | ⟨-, table, texts, some⟩
      · rw [none]
        rfl
      · have object := isObject_of_readTexts texts
        rw [some, Option.map_some, Option.any_some, Json.isObject_normal, object]
        rfl
  | _ => cases read

/-- **Metadata with other annotations** are read as they were, with those annotations. -/
theorem ofJson_set_annotations {annotations : Json} {table : Table String}
    (object : document.isObject = true) (once : document.KeysOnce) (read : ofJson document = .ok m)
    (noted : readTexts annotations = .ok table) :
    ofJson (document.set "annotations" annotations) =
      .ok { m with annotations := some table } := by
  have entry : (Field.optional "annotations" readTexts).fromEntry (some annotations) =
      .ok (some table) :=
    Json.nullable_eq_ok_iff.mpr (.inr ⟨ne_null_of_readTexts noted, table, noted, rfl⟩)
  obtain ⟨-, others⟩ := build_iff.mp ((ofJson_iff object once).mp read)
  rw [ofJson_iff (by simpa using object) (once.set _ _), build_iff]
  -- Every field but the first is read from the entry that it was read from before.
  simp only [Json.get?_set object, String.reduceEq, reduceIte]
  exact ⟨entry, others⟩

/-- Metadata are written under the names that they are read from. -/
theorem keyed_toJson (m : Metadata) : ∃ entries,
    m.toJson = Json.record (optionalEntry "annotations" writeTexts m.annotations :: entries) ∧
    Json.Keyed record.names (optionalEntry "annotations" writeTexts m.annotations :: entries) := by
  refine ⟨_, rfl, ?_⟩
  repeat' constructor
  all_goals apply Json.keyed_optionalEntry

theorem nodup_names : record.names.Nodup := by
  decide

theorem keysOnce_toJson (m : Metadata) : m.toJson.KeysOnce := by
  obtain ⟨entries, written, keyed⟩ := m.keyed_toJson
  rw [written]
  exact nodup_names.sublist keyed.sublist

theorem get?_annotations_toJson (m : Metadata) :
    m.toJson.get? "annotations" = m.annotations.map writeTexts := by
  obtain ⟨entries, written, keyed⟩ := m.keyed_toJson
  have first : (Json.record (optionalEntry "annotations" writeTexts m.annotations :: entries)).get?
      "annotations" = (optionalEntry "annotations" writeTexts m.annotations).map Prod.snd :=
    keyed.get?_head nodup_names
  rw [written, first, optionalEntry, Option.map_map]
  rfl

/-- Metadata read from what has been written have annotations when those had that were written. -/
theorem isSome_annotations_of_toJson {m m' : Metadata} (read : ofJson m.toJson.normal = .ok m') :
    m'.annotations.isSome = m.annotations.isSome := by
  rw [isSome_annotations read, Json.normal_normal, Json.get?_normal m.keysOnce_toJson,
    get?_annotations_toJson]
  cases m.annotations <;> rfl

end Metadata

/-! ## Documents of objects -/

namespace Json

variable {document metadata : Json} {m : Metadata}

/-- **A document in which annotations can be set**, with its metadata: it holds every key once, and
so do the metadata and the annotations. -/
structure Noteable (document metadata : Json) : Prop where
  once : document.KeysOnce
  holds : document.get? "metadata" = some metadata
  object : metadata.isObject = true
  within : metadata.KeysOnce
  annotations : (metadata.childOrEmpty "annotations").KeysOnce

theorem childOrEmpty_of_get? {child : Json} {key : String} (h : document.get? key = some child)
    (object : child.isObject = true) : document.childOrEmpty key = child := by
  unfold childOrEmpty
  cases child with
  | object => rw [h]
  | _ => cases object

theorem childOrEmpty_of_not_object {key : String} (h : (document.get? key).any isObject = false) :
    document.childOrEmpty key = .object [] := by
  unfold childOrEmpty
  split
  · rename_i fields there
    rw [there] at h
    cases h
  · rfl

/-- The metadata of an object whose annotation is set. -/
def noted (metadata : Json) (key value : String) : Json :=
  metadata.set "annotations" ((metadata.childOrEmpty "annotations").set key (.text value))

theorem isObject_childOrEmpty (document : Json) (key : String) :
    (document.childOrEmpty key).isObject = true := by
  unfold childOrEmpty
  split <;> rfl

theorem get?_noted (object : metadata.isObject = true) (key value : String) :
    (metadata.noted key value).get? "annotations" =
      some ((metadata.childOrEmpty "annotations").set key (.text value)) :=
  get?_set_self object _ _

theorem childOrEmpty_noted (object : metadata.isObject = true) (key value : String) :
    (metadata.noted key value).childOrEmpty "annotations" =
      (metadata.childOrEmpty "annotations").set key (.text value) :=
  childOrEmpty_of_get? (get?_noted object key value)
    ((isObject_set ..).trans (isObject_childOrEmpty ..))

theorem Noteable.noteDocument_eq (h : document.Noteable metadata) (key value : String) :
    noteDocument document key value = document.set "metadata" (metadata.noted key value) := by
  unfold noteDocument
  rw [childOrEmpty_of_get? h.holds h.object]
  rfl

/-- A document stays one in which annotations can be set. -/
theorem Noteable.note (h : document.Noteable metadata) (key value : String) :
    (noteDocument document key value).Noteable (metadata.noted key value) := by
  have object : (metadata.noted key value).isObject = true := by
    rw [noted, isObject_set]
    exact h.object
  rw [h.noteDocument_eq]
  exact
    { once := h.once.set _ _
      holds := get?_set_self (isObject_of_get? h.holds) _ _
      object
      within := h.within.set _ _
      annotations := childOrEmpty_noted h.object key value ▸ h.annotations.set _ _ }

/-- Another entry of the document may be set. -/
theorem Noteable.set (h : document.Noteable metadata) {key : String} (hne : key ≠ "metadata")
    (value : Json) : (document.set key value).Noteable metadata :=
  { h with
    once := h.once.set _ _
    holds := (get?_set_of_ne _ _ (Ne.symm hne)).trans h.holds }

/-- Metadata that hold no annotations. -/
theorem Noteable.childOrEmpty_eq_empty (h : document.Noteable metadata)
    (read : Metadata.ofJson metadata = .ok m) (none : m.annotations = none) :
    metadata.childOrEmpty "annotations" = .object [] := by
  have entry := Metadata.annotations_of_ofJson h.object h.within read
  rw [none] at entry
  unfold childOrEmpty
  split
  · rename_i fields there
    rw [there, Field.fromEntry_optional] at entry
    rcases nullable_eq_ok_iff.mp entry with ⟨null, -⟩ | ⟨-, table, -, some⟩
    · cases null
    · cases some
  · rfl

/-- Metadata that hold annotations. -/
theorem Noteable.exists_annotations {table : Table String} (h : document.Noteable metadata)
    (read : Metadata.ofJson metadata = .ok m) (some : m.annotations = some table) :
    ∃ annotations, metadata.get? "annotations" = .some annotations ∧
      annotations.isObject = true ∧ RegistryBridge.readTexts annotations = .ok table := by
  have entry := Metadata.annotations_of_ofJson h.object h.within read
  rw [some] at entry
  cases there : metadata.get? "annotations" with
  | none =>
    rw [there, Field.fromEntry_none _ rfl] at entry
    cases entry
  | some annotations =>
    rw [there, Field.fromEntry_optional] at entry
    rcases nullable_eq_ok_iff.mp entry with ⟨-, none⟩ | ⟨-, table', texts, same⟩
    · cases none
    · obtain rfl := Option.some.inj same
      exact ⟨annotations, rfl, isObject_of_readTexts texts, texts⟩

/-- What the annotations of metadata are read as, none where there are none. -/
theorem Noteable.readTexts (h : document.Noteable metadata)
    (read : Metadata.ofJson metadata = .ok m) :
    RegistryBridge.readTexts (metadata.childOrEmpty "annotations") =
      .ok (m.annotations.getD []) := by
  cases held : m.annotations with
  | none =>
    rw [h.childOrEmpty_eq_empty read held]
    rfl
  | some table =>
    obtain ⟨annotations, there, object, texts⟩ := h.exists_annotations read held
    rw [childOrEmpty_of_get? there object]
    exact texts

/-- **The metadata of an annotated document** are those that were there, with that annotation. -/
theorem Noteable.metadata_noteDocument (h : document.Noteable metadata)
    (read : Metadata.ofJson metadata = .ok m) (key value : String) :
    ∃ table : Table String,
      Metadata.ofJson (metadata.noted key value) = .ok { m with annotations := some table } ∧
        ∀ other, table.get? other = if other = key then some value else m.note? other := by
  obtain ⟨table, texts, hget⟩ := readTexts_set h.annotations (h.readTexts read) key value
  refine ⟨table, Metadata.ofJson_set_annotations h.object h.within read texts, fun other => ?_⟩
  rw [hget, Metadata.note?]
  cases m.annotations <;> rfl

end Json

end RegistryBridge
