import RegistryBridge.Cluster.ImageStream
import RegistryBridge.Proofs.Json.ReadBack
import RegistryBridge.Proofs.Json.Record
/-!
# Records read back from what has been written

A record is written entry by entry, in the order in which its fields are declared: some entries are
always there, others only when they hold something. What has been left out is read as what it stands
for. So a record is read back if each of its fields is.

## Main definitions

* `Json.Field.Returns`, `Json.Record.Returns`: what is written is read back, field by field.
* `Json.Returned`: a document that is read back, and has no entries but those that are declared.

## Main results

* `Json.Field.returns_required` and its kind: one rule for each way in which a field is written.
* `Json.Record.Returns.returned`: a record is read back if each of its fields is.
* `Json.numberless_record_some` and its kind: records that are written without numbers.
* `Json.nesting_record_some` and its kind: how deep a record is nested.
-/

namespace RegistryBridge.Json

variable {α β : Type} {key name : String} {write : α → Json} {read : Reader α}
  {entries : List (Option (String × Json))} {document : Json} {value : α}

theorem keyed_optionalEntry (key : String) (write : α → Json) (value : Option α) :
    ∀ e ∈ optionalEntry key write value, e.1 = key := by
  cases value with
  | none => exact nofun
  | some v =>
    rintro _ ⟨⟩
    rfl

theorem items_map (back : ∀ v, read (write v) = .ok v) (values : List α) :
    Reader.items read (values.map write) = .ok values := by
  induction values with
  | nil => rfl
  | cons v vs ih => simp [Reader.items, back, ih]

theorem list_map (back : ∀ v, read (write v) = .ok v) (values : List α) :
    Reader.list read (.list (values.map write)) = .ok values :=
  items_map back values

/-! ## What is read back -/

theorem Reader.text_text (t : String) : Reader.text (.text t) = .ok t := rfl

theorem Reader.bool_bool (b : Bool) : Reader.bool (.bool b) = .ok b := rfl

/-- **A document that is read back**: an object that has some of the entries that are declared, in the
order of their declaration and each of them once. -/
structure Returned (read : Reader α) (names : List String) (document : Json) (value : α) : Prop where
  back : read document = .ok value
  known : ∃ fields, document = .object fields ∧ (fields.map Prod.fst).Sublist names

theorem Returned.ne_null {names : List String} (h : Returned read names document value) :
    document ≠ .null := by
  obtain ⟨fields, rfl, -⟩ := h.known
  exact nofun

namespace Field

/-- **What is written for a field is read back**: an entry of its name, or none. -/
structure Returns (field : Field α) (entry : Option (String × Json)) (value : α) : Prop where
  own : ∀ e ∈ entry, e.1 = field.name
  back : field.fromEntry (entry.map Prod.snd) = .ok value

/-- A field is read back from an entry that can be read. -/
theorem returns_some (field : Field α) (back : field.read document = .ok value) :
    field.Returns (some (field.name, document)) value where
  own := by
    rintro _ ⟨⟩
    rfl
  back := back

theorem returns_required (name : String) (back : read document = .ok value) :
    (required name read).Returns (some (name, document)) value :=
  returns_some (required name read) back

theorem returns_withDefault (name : String) (default : α) (back : read document = .ok value) :
    (withDefault name read default).Returns (some (name, document)) value :=
  returns_some (withDefault name read default) back

theorem returns_nullAs (name : String) (default : α) (back : read document = .ok value)
    (something : document ≠ .null) :
    (nullAs name read default).Returns (some (name, document)) value := by
  refine returns_some (nullAs name read default) ?_
  cases document with
  | null => exact absurd rfl something
  | _ => exact back

/-- What may be missing is left out when it is, and what is written for it is not null. -/
theorem returns_optional (name : String) {value : Option α}
    (back : ∀ v ∈ value, read (write v) = .ok v) (something : ∀ v ∈ value, write v ≠ .null) :
    (optional name read).Returns (RegistryBridge.optionalEntry name write value) value where
  own := keyed_optionalEntry name write value
  back := by
    cases value with
    | none => rfl
    | some v => exact nullable_eq_ok_iff.mpr (.inr ⟨something v rfl, v, back v rfl, rfl⟩)

theorem returns_optionalText (name : String) (value : Option String) :
    (optional name Reader.text).Returns (RegistryBridge.optionalEntry name .text value) value :=
  returns_optional name (fun t _ => Reader.text_text t) fun _ _ => nofun

theorem returns_optionalJson (name : String) {value : Option Json} (something : value ≠ some .null) :
    (optional name Reader.anything).Returns (RegistryBridge.optionalEntry name id value) value :=
  returns_optional name (fun _ _ => rfl) fun _ has null => something (has.trans (congrArg some null))

/-- A list is left out when it is empty. -/
theorem returns_list (name : String) (back : ∀ v, read (write v) = .ok v) (values : List α) :
    (withDefault name (Reader.list read) []).Returns (listEntry name write values) values := by
  cases values with
  | nil => exact ⟨nofun, rfl⟩
  | cons v vs => exact returns_withDefault name [] (list_map back (v :: vs))

theorem returns_listOfJson (name : String) (values : List Json) :
    (withDefault name (Reader.list Reader.anything) []).Returns (listEntry name id values) values :=
  returns_list name (fun _ => rfl) values

/-- A text that may be missing is written as null when it is. -/
theorem returns_ofText? (name : String) (value : Option String) :
    (optional name Reader.text).Returns (some (name, ofText? value)) value := by
  cases value with
  | none => exact returns_some (optional name Reader.text) rfl
  | some t => exact returns_some (optional name Reader.text) rfl

/-- A text is left out when it is empty. -/
theorem returns_textUnlessEmpty (name t : String) :
    (withDefault name Reader.text "").Returns (if t = "" then none else some (name, .text t)) t := by
  split
  · rename_i empty
    exact ⟨nofun, congrArg Except.ok empty.symm⟩
  · exact returns_withDefault name "" (Reader.text_text t)

end Field

namespace Record

/-- **What is written for a record is read back**, field by field. -/
inductive Returns : {α : Type} → Record α → List (Option (String × Json)) → α → Prop
  | of {α : Type} (value : α) : Returns (.of value) [] value
  | field {α β : Type} {record : Record (β → α)} {entries : List (Option (String × Json))}
      {make : β → α} {next : Field β} {entry : Option (String × Json)} {part : β}
      (front : Returns record entries make) (last : next.Returns entry part) :
      Returns (record.field next) (entries ++ [entry]) (make part)

variable {record : Record α}

theorem Returns.lawful (h : record.Returns entries value) : record.Lawful := by
  induction h with
  | of value => exact lawful_of value
  | field front last ih => exact ih.field _

/-- What is written stands under the names of the fields, in order. -/
theorem Returns.sublist (h : record.Returns entries value) :
    ((entries.filterMap id).map Prod.fst).Sublist record.names := by
  induction h with
  | of value => exact .refl _
  | @field α β record entries make next entry part front last ih =>
    rw [List.filterMap_append, List.map_append]
    refine ih.append ?_
    cases entry with
    | none => exact List.nil_sublist _
    | some e => simp [last.own e rfl]

/-- Every field finds what has been written for it, whatever entries of other names stand behind. -/
theorem Returns.build (h : record.Returns entries value) (once : record.names.Nodup)
    (behind : List (String × Json)) (apart : ∀ e ∈ behind, e.1 ∉ record.names) :
    record.build (fun key => List.lookup key (entries.filterMap id ++ behind)) = .ok value := by
  -- The entries of the later fields are among those that stand behind.
  induction h generalizing behind with
  | of value => rfl
  | @field α β record entries make next entry part front last ih =>
    have names : (record.field next).names = record.names ++ [next.name] := rfl
    rw [names] at once apart
    obtain ⟨once, -, new⟩ := List.nodup_append.mp once
    have unnamed : next.name ∉ record.names := fun mem => new _ mem _ (by simp) rfl
    have other : ∀ e ∈ entry, e.1 ∉ record.names := fun e mem => (last.own e mem).symm ▸ unnamed
    have split : (entries ++ [entry]).filterMap id ++ behind =
        entries.filterMap id ++ (entry.toList ++ behind) := by
      cases entry <;> simp
    refine build_field_iff.mpr ⟨make, part, ?_, ?_, rfl⟩
    · rw [split]
      refine ih once _ fun e mem => ?_
      rcases List.mem_append.mp mem with here | later
      · exact other e (by simpa using here)
      · exact fun named => apart e later (List.mem_append_left _ named)
    · have front : List.lookup next.name (entries.filterMap id) = none :=
        lookup_of_not_mem fun mem => unnamed (front.sublist.subset mem)
      have back : List.lookup next.name behind = none := by
        refine lookup_of_not_mem fun mem => ?_
        obtain ⟨e, mem, same⟩ := List.mem_map.mp mem
        exact apart e mem (by simp [same])
      rw [split, List.lookup_append, front, List.lookup_append, back]
      refine (congrArg _ ?_).trans last.back
      cases entry with
      | none => rfl
      | some e =>
        rw [Option.none_or, Option.or_none]
        exact (lookup_cons e.1 e.2 [] _).trans (if_pos (last.own e rfl).symm)

theorem Returns.build_record (h : record.Returns entries value) (once : record.names.Nodup) :
    record.build (Json.record entries).get? = .ok value := by
  have built := h.build once [] nofun
  rwa [List.append_nil] at built

theorem Returns.keysOnce (h : record.Returns entries value) (once : record.names.Nodup) :
    (Json.record entries).KeysOnce :=
  once.sublist h.sublist

/-- **A record is read back** if each of its fields is. -/
theorem Returns.returned (h : record.Returns entries value) (once : record.names.Nodup) :
    Returned (record.read name) record.names (Json.record entries) value where
  back := (h.lawful.read_iff rfl (h.keysOnce once)).mpr (h.build_record once)
  known := ⟨_, rfl, h.sublist⟩

/-- The same for a record that only an object can be. -/
theorem Returns.resourceReturned (h : record.Returns entries value) (once : record.names.Nodup) :
    Returned (record.readResource name) record.names (Json.record entries) value where
  back := (h.lawful.readResource_iff rfl (h.keysOnce once)).mpr (h.build_record once)
  known := ⟨_, rfl, h.sublist⟩

end Record

/-! ## What is written without numbers -/

@[simp] theorem numberless_record_nil : (record []).Numberless := trivial

@[simp] theorem numberless_record_some (value : Json) :
    (record (some (key, value) :: entries)).Numberless ↔
      value.Numberless ∧ (record entries).Numberless := Iff.rfl

theorem numberlessItems_map (plain : ∀ v, (write v).Numberless) (values : List α) :
    NumberlessItems (values.map write) := by
  induction values with
  | nil => trivial
  | cons v vs ih => exact ⟨plain v, ih⟩

theorem numberless_record_optionalEntry (plain : ∀ v, (write v).Numberless) (value : Option α) :
    (record (optionalEntry key write value :: entries)).Numberless ↔ (record entries).Numberless := by
  cases value with
  | none => rfl
  | some v => exact and_iff_right (plain v)

theorem numberless_record_listEntry (plain : ∀ v, (write v).Numberless) (values : List α) :
    (record (listEntry key write values :: entries)).Numberless ↔ (record entries).Numberless := by
  cases values with
  | nil => rfl
  | cons v vs => exact and_iff_right (numberlessItems_map plain (v :: vs))

/-! ## How deep what is written is nested -/

variable {levels : Nat}

@[simp] theorem nesting_record_nil : nesting (record []) = 1 := rfl

@[simp] theorem nesting_record_some (value : Json) :
    nesting (record (some (key, value) :: entries)) ≤ levels ↔
      nesting value < levels ∧ nesting (record entries) ≤ levels := by
  have deep : nesting (record (some (key, value) :: entries)) =
      max (nesting value) (nestingFields (entries.filterMap id)) + 1 := rfl
  have rest : nesting (record entries) = nestingFields (entries.filterMap id) + 1 := rfl
  omega

theorem nestingItems_map_le (shallow : ∀ v, nesting (write v) ≤ levels) (values : List α) :
    nestingItems (values.map write) ≤ levels := by
  induction values with
  | nil => exact Nat.zero_le _
  | cons v vs ih => exact Nat.max_le.mpr ⟨shallow v, ih⟩

theorem nesting_record_optionalEntry (shallow : ∀ v, nesting (write v) < levels)
    (value : Option α) :
    nesting (record (optionalEntry key write value :: entries)) ≤ levels ↔
      nesting (record entries) ≤ levels := by
  cases value with
  | none => rfl
  | some v => exact (nesting_record_some (write v)).trans (and_iff_right (shallow v))

theorem nesting_record_listEntry (shallow : ∀ v, nesting (write v) + 1 < levels)
    (values : List α) :
    nesting (record (listEntry key write values :: entries)) ≤ levels ↔
      nesting (record entries) ≤ levels := by
  cases values with
  | nil => rfl
  | cons v vs =>
    have items : nestingItems ((v :: vs).map write) ≤ levels - 2 :=
      nestingItems_map_le (fun v => by have := shallow v; omega) _
    have list : nesting (.list ((v :: vs).map write)) < levels := by
      have := shallow v
      rw [nesting]
      omega
    exact (nesting_record_some _).trans (and_iff_right list)

end RegistryBridge.Json
