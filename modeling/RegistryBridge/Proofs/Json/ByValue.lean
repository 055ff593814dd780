import Mathlib.Data.List.Forall2
import RegistryBridge.Proofs.Json.Record
/-!
# Readers that go by the value of a document

In what order the entries of an object were written is no part of its value, nor is an entry that a
later one of its key has replaced. A reader that goes by the value makes of the normal form of a
document what it makes of the document, up to what is kept of its parts as they are.

## Main definitions

* `Json.Reader.ByValue`, `Json.Field.ByValue`, `Json.Record.ByValue`

## Main results

* `Json.Reader.ByValue.list`, `Json.Reader.ByValue.optional`: how such readers are put together.
* `Json.Record.ByValue.readResource`: a record of such fields is read by its value.
-/

namespace RegistryBridge.Json

variable {α β : Type} {alike : α → α → Prop}

/-- **A reader that goes by the value of a document.** -/
def Reader.ByValue (read : Reader α) (alike : α → α → Prop) : Prop :=
  ∀ document value, read document = .ok value →
    ∃ other, read document.normal = .ok other ∧ alike value other

/-- A field that goes by the value of the entry that there is for it. -/
def Field.ByValue (field : Field α) (alike : α → α → Prop) : Prop :=
  ∀ entry value, field.fromEntry entry = .ok value →
    ∃ other, field.fromEntry (entry.map normal) = .ok other ∧ alike value other

/-- A record that goes by the values of its entries. -/
def Record.ByValue (record : Record α) (alike : α → α → Prop) : Prop :=
  ∀ get value, record.build get = .ok value →
    ∃ other, record.build (fun key => (get key).map normal) = .ok other ∧ alike value other

@[simp] theorem normal_eq_null_iff {document : Json} : document.normal = .null ↔ document = .null := by
  cases document <;> simp [normal]

namespace Reader

variable {read : Reader α}

/-- What reads nothing but documents in normal form. -/
theorem byValue_of_normal
    (plain : ∀ document value, read document = .ok value → document.normal = document) :
    ByValue read Eq := by
  intro document value h
  rw [plain document value h]
  exact ⟨value, h, rfl⟩

theorem byValue_text : ByValue Reader.text Eq :=
  byValue_of_normal fun document _ h => by
    cases document with
    | text => rfl
    | _ => cases h

theorem byValue_bool : ByValue Reader.bool Eq :=
  byValue_of_normal fun document _ h => by
    cases document with
    | bool => rfl
    | _ => cases h

theorem byValue_integer (name : String) (low high : Int) : ByValue (Reader.integer name low high) Eq :=
  byValue_of_normal fun document _ h => by
    cases document with
    | number => rfl
    | _ => cases h

theorem byValue_anything :
    ByValue Reader.anything fun document other => other.normal = document.normal := by
  rintro document _ ⟨⟩
  exact ⟨document.normal, rfl, document.normal_normal⟩

/-- A list goes by its items. -/
theorem ByValue.list (h : ByValue read alike) : ByValue (Reader.list read) (List.Forall₂ alike) := by
  have each : ∀ {documents : List Json} {values : List α}, items read documents = .ok values →
      ∃ others, items read (normalItems documents) = .ok others ∧
        List.Forall₂ alike values others := by
    intro documents
    induction documents with
    | nil =>
      rintro _ ⟨⟩
      exact ⟨[], rfl, .nil⟩
    | cons document rest ih =>
      intro values read_all
      unfold items at read_all
      split at read_all
      · cases read_all
      · rename_i value first
        split at read_all
        · cases read_all
        · rename_i more later
          obtain rfl := Except.ok.inj read_all
          obtain ⟨other, first', same⟩ := h document value first
          obtain ⟨others, later', alikes⟩ := ih later
          refine ⟨other :: others, ?_, .cons same alikes⟩
          simp only [normalItems, items, first', later']
  intro document values read_list
  cases document with
  | list documents => exact each read_list
  | _ => cases read_list

theorem ByValue.list_eq (h : ByValue read Eq) : ByValue (Reader.list read) Eq := by
  intro document values read_list
  obtain ⟨others, read_others, same⟩ := h.list document values read_list
  exact ⟨others, read_others, List.forall₂_eq_eq_eq ▸ same⟩

/-- A list is written alike when its items are. -/
theorem ByValue.list_written {write : α → Json}
    (h : ByValue read fun value other => (write other).normal = (write value).normal) :
    ByValue (Reader.list read) fun values others =>
      (Json.list (others.map write)).normal = (Json.list (values.map write)).normal := by
  intro document values read_list
  obtain ⟨others, read_others, alikes⟩ := h.list document values read_list
  refine ⟨others, read_others, congrArg Json.list ?_⟩
  clear read_list read_others
  induction alikes with
  | nil => rfl
  | cons same _ ih => rw [List.map_cons, List.map_cons, normalItems, normalItems, same, ih]

theorem ByValue.nullable (h : ByValue read alike) :
    ByValue (Reader.nullable read) (Option.Rel alike) := by
  intro document value read_value
  rcases nullable_eq_ok_iff.mp read_value with ⟨rfl, rfl⟩ | ⟨something, a, read_a, rfl⟩
  · exact ⟨none, rfl, .none⟩
  · obtain ⟨other, read_other, same⟩ := h document a read_a
    refine ⟨some other, nullable_eq_ok_iff.mpr (.inr ⟨?_, other, read_other, rfl⟩), .some same⟩
    exact fun null => something (normal_eq_null_iff.mp null)

/-- A field that may be missing or null. -/
theorem ByValue.optional (h : ByValue read alike) (name : String) :
    (Field.optional name read).ByValue (Option.Rel alike) := by
  intro entry value held
  cases entry with
  | none =>
    obtain rfl := Except.ok.inj held
    exact ⟨none, rfl, .none⟩
  | some document => exact h.nullable document value held

theorem ByValue.optional_eq (h : ByValue read Eq) (name : String) :
    (Field.optional name read).ByValue Eq := by
  intro entry value held
  obtain ⟨other, read_other, same⟩ := h.optional name entry value held
  refine ⟨other, read_other, ?_⟩
  cases same with
  | none => rfl
  | some same => rw [same]

/-- A field for which null and absence both stand for a default. -/
theorem ByValue.nullAs (h : ByValue read Eq) (name : String) (default : α) :
    (Field.nullAs name read default).ByValue Eq := by
  intro entry value held
  cases entry with
  | none => exact ⟨value, held, rfl⟩
  | some document =>
    cases document with
    | null => exact ⟨value, held, rfl⟩
    | _ => exact h _ value held

end Reader

namespace Record

variable {record : Record α}

theorem byValue_of {value : α} (h : alike value value) : (Record.of value).ByValue alike := by
  intro get _ built
  obtain rfl := build_of_iff.mp built
  exact ⟨value, build_of_iff.mpr rfl, h⟩

/-- **A record goes by the values of its entries** when each of its fields does. -/
theorem ByValue.field {record : Record (β → α)} {next : Field β} {same : β → β → Prop}
    (h : record.ByValue fun make make' => ∀ part part', same part part' →
      alike (make part) (make' part'))
    (last : next.ByValue same) : (record.field next).ByValue alike := by
  intro get value built
  obtain ⟨make, part, front, held, rfl⟩ := build_field_iff.mp built
  obtain ⟨make', front', makes⟩ := h get make front
  obtain ⟨part', held', parts⟩ := last _ part held
  exact ⟨make' part', build_field_iff.mpr ⟨make', part', front', held', rfl⟩, makes _ _ parts⟩

/-- **A record that only an object can be** is read by the value of that object. -/
theorem ByValue.readResource (h : record.ByValue alike) (lawful : record.Lawful) (name : String) :
    Reader.ByValue (record.readResource name) alike := by
  intro document value read
  cases document with
  | object fields =>
    -- Of each key the last entry is looked up, and that is the one that the normal form has.
    obtain ⟨other, built, same⟩ := h _ value (build_of_readResource read)
    refine ⟨other, (lawful.readResource_iff rfl (keysOnce_normal _)).mpr ?_, same⟩
    rw [show (Json.object fields).normal.get? =
      fun key => (List.lookup key fields.reverse).map normal from funext (get?_normal_object fields)]
    exact built
  | _ => cases read

end Record

/-! ## Written records -/

/-- What is written in normal form goes by the normal forms of the entries. -/
theorem normalFields_congr {fields fields' : List (String × Json)}
    (same : fields.map (fun entry => (entry.1, entry.2.normal)) =
      fields'.map fun entry => (entry.1, entry.2.normal)) (sorted : List (String × Json)) :
    normalFields fields sorted = normalFields fields' sorted := by
  induction fields generalizing fields' sorted with
  | nil =>
    obtain rfl := List.map_eq_nil_iff.mp same.symm
    rfl
  | cons entry rest ih =>
    cases fields' with
    | nil => cases same
    | cons entry' rest' =>
      obtain ⟨first, later⟩ := List.cons.inj same
      obtain ⟨key, value⟩ := Prod.mk.inj first
      rw [normalFields, normalFields, key, value]
      exact ih later _

theorem normal_record_congr {entries entries' : List (Option (String × Json))}
    (same : entries.map (Option.map fun entry => (entry.1, entry.2.normal)) =
      entries'.map (Option.map fun entry => (entry.1, entry.2.normal))) :
    (record entries).normal = (record entries').normal := by
  have present : ∀ entries : List (Option (String × Json)),
      (entries.filterMap id).map (fun entry => (entry.1, entry.2.normal)) =
        (entries.map (Option.map fun entry => (entry.1, entry.2.normal))).filterMap id := by
    intro entries
    rw [List.filterMap_map, List.map_filterMap]
    rfl
  have fields := normalFields_congr ((present entries).trans ((congrArg _ same).trans
    (present entries').symm)) []
  exact congrArg Json.object fields

end RegistryBridge.Json
