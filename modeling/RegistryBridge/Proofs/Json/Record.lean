import RegistryBridge.Json.Reader
import RegistryBridge.Proofs.Json.Fields
/-!
# Reading records

A record is read from an object by visiting its entries and then looking up the fields. In an object
that has every key once the visit adds nothing: what is looked up decides.

## Main definitions

* `Json.Record.Lawful`: what has been looked up has also been checked.

## Main results

* `Json.Record.lawful_of`, `Json.Record.Lawful.field`: records are lawful by construction.
* `Json.Record.Lawful.read_iff`, `Json.Record.Lawful.readResource_iff`
* `Json.nullable_eq_ok_iff`: what may be null.
* `Json.Record.build_field_iff`: a record is looked up field by field.
-/

namespace RegistryBridge.Json

namespace Field

variable {α : Type} (field : Field α)

@[simp] theorem fromEntry_some (document : Json) :
    field.fromEntry (some document) = field.read document := rfl

theorem fromEntry_optional (name : String) (read : Reader α) (document : Json) :
    (optional name read).fromEntry (some document) = Reader.nullable read document := rfl

theorem fromEntry_none {value : α} (h : field.absent = some value) :
    field.fromEntry none = .ok value := by
  simp [fromEntry, h]

/-- A value that does not stand for a missing entry has been read from one. -/
theorem exists_of_fromEntry {entry : Option Json} {default value : α}
    (absent : field.absent = some default) (h : field.fromEntry entry = .ok value)
    (hne : value ≠ default) : ∃ document, entry = some document := by
  cases entry with
  | none =>
    rw [fromEntry_none field absent] at h
    exact absurd (Except.ok.inj h).symm hne
  | some document => exact ⟨document, rfl⟩

end Field

/-- Null is nothing, and any other document is read. -/
theorem nullable_eq_ok_iff {α : Type} {read : Reader α} {document : Json} {value : Option α} :
    Reader.nullable read document = .ok value ↔
      (document = .null ∧ value = none) ∨
        (document ≠ .null ∧ ∃ a, read document = .ok a ∧ value = some a) := by
  have other : document ≠ .null → Reader.nullable read document = (read document).map some := by
    intro hne
    cases document with
    | null => exact absurd rfl hne
    | _ => rfl
  by_cases null : document = .null
  · subst null
    simp [Reader.nullable, eq_comm]
  · rw [other null]
    cases read document <;> simp [null, Except.map, eq_comm]

namespace Record

variable {α β : Type} {record : Record α} {fields : List (String × Json)}

/-- **What has been looked up has also been checked.** -/
def Lawful (record : Record α) : Prop :=
  ∀ get value, record.build get = .ok value →
    ∀ key document, get key = some document → record.check key document = .ok ()

theorem lawful_of (value : α) : (Record.of value).Lawful :=
  fun _ _ _ _ _ _ => rfl

@[simp] theorem build_of_iff {value value' : α} {get : String → Option Json} :
    (Record.of value).build get = .ok value' ↔ value = value' := by
  simp [Record.of]

/-- **A record is looked up field by field.** -/
theorem build_field_iff {record : Record (β → α)} {next : Field β} {get : String → Option Json}
    {value : α} :
    (record.field next).build get = .ok value ↔
      ∃ make part, record.build get = .ok make ∧ next.fromEntry (get next.name) = .ok part ∧
        make part = value := by
  unfold field
  dsimp only
  cases record.build get with
  | error e => simp [bind, Except.bind]
  | ok make =>
    cases next.fromEntry (get next.name) with
    | error e => simp [bind, Except.bind]
    | ok part => simp [bind, Except.bind, pure, Except.pure]

/-- What is said of a record's value is said of its fields, one after the other. -/
theorem exists_build_field {record : Record (β → α)} {next : Field β} {get : String → Option Json}
    {P : α → Prop} :
    (∃ value, (record.field next).build get = .ok value ∧ P value) ↔
      ∃ make, record.build get = .ok make ∧
        ∃ part, next.fromEntry (get next.name) = .ok part ∧ P (make part) := by
  constructor
  · rintro ⟨_, built, h⟩
    obtain ⟨make, part, front, last, rfl⟩ := build_field_iff.mp built
    exact ⟨make, front, part, last, h⟩
  · rintro ⟨make, front, part, last, h⟩
    exact ⟨_, build_field_iff.mpr ⟨make, part, front, last, rfl⟩, h⟩

theorem exists_build_of {value : α} {get : String → Option Json} {P : α → Prop} :
    (∃ value', (Record.of value).build get = .ok value' ∧ P value') ↔ P value := by
  simp [build_of_iff]

theorem build_eq_iff_exists {get : String → Option Json} {value : α} :
    record.build get = .ok value ↔ ∃ value', record.build get = .ok value' ∧ value' = value := by
  simp

theorem Lawful.field {record : Record (β → α)} (lawful : record.Lawful) (next : Field β) :
    (record.field next).Lawful := by
  intro get value built key document held
  obtain ⟨make, part, front, last, rfl⟩ := build_field_iff.mp built
  -- The fields in front have checked the entry; it may also be the one of this field.
  have checked := lawful get make front key document held
  simp only [Record.field, checked, bind, Except.bind]
  split
  · rename_i same
    rw [← same, held, Field.fromEntry_some] at last
    simp [last, pure, Except.pure]
  · rfl

/-- A visit of entries that are all good, each key once, is good. -/
theorem checkAll_eq_ok {seen : List String} (once : (fields.map Prod.fst).Nodup)
    (new : ∀ entry ∈ fields, entry.1 ∉ seen)
    (good : ∀ entry ∈ fields, record.check entry.1 entry.2 = .ok ()) :
    record.checkAll seen fields = .ok () := by
  -- The keys that were seen are those of the entries before: none of them comes again.
  induction fields generalizing seen with
  | nil => rfl
  | cons entry rest ih =>
    obtain ⟨key, document⟩ := entry
    obtain ⟨absent, once⟩ := List.nodup_cons.mp once
    have unseen : seen.contains key = false := by
      simpa using new (key, document) (List.mem_cons_self ..)
    have checked := good (key, document) (List.mem_cons_self ..)
    unfold checkAll
    simp only [unseen, checked, Bool.false_eq_true, if_false]
    refine ih once (fun other mem => ?_) fun other mem => good other (List.mem_cons_of_mem _ mem)
    have old := new other (List.mem_cons_of_mem _ mem)
    split
    · rw [List.mem_cons, not_or]
      refine ⟨?_, old⟩
      rintro rfl
      exact absent (List.mem_map.mpr ⟨other, mem, rfl⟩)
    · exact old

theorem lookup_of_mem {entry : String × Json} (once : (fields.map Prod.fst).Nodup)
    (mem : entry ∈ fields) : List.lookup entry.1 fields = some entry.2 := by
  induction fields with
  | nil => cases mem
  | cons first rest ih =>
    obtain ⟨absent, once⟩ := List.nodup_cons.mp once
    rw [lookup_cons]
    rcases List.mem_cons.mp mem with rfl | mem
    · rw [if_pos rfl]
    · rw [if_neg, ih once mem]
      intro same
      exact absent (List.mem_map.mpr ⟨entry, mem, same⟩)

/-- What can be looked up is found good by a visit. -/
theorem Lawful.checkAll (lawful : record.Lawful) (once : (fields.map Prod.fst).Nodup) {value : α}
    (built : record.build (fun key => List.lookup key fields) = .ok value) :
    record.checkAll [] fields = .ok () :=
  checkAll_eq_ok once (by simp) fun entry mem =>
    lawful _ _ built entry.1 entry.2 (lookup_of_mem once mem)

theorem lastEntries_eq (once : (fields.map Prod.fst).Nodup) : lastEntries fields = fields := by
  induction fields with
  | nil => rfl
  | cons entry rest ih =>
    obtain ⟨absent, once⟩ := List.nodup_cons.mp once
    have new : (rest.any fun other => other.1 == entry.1) = false := by
      rw [List.any_eq_false]
      intro other mem same
      exact absent (List.mem_map.mpr ⟨other, mem, by simpa using same⟩)
    show (if (lastEntries rest).any (·.1 == entry.1) then lastEntries rest
      else entry :: lastEntries rest) = entry :: rest
    rw [ih once, new]
    rfl

/-- Of the entries of a key the last one is left. -/
theorem lookup_lastEntries (fields : List (String × Json)) (key : String) :
    List.lookup key (lastEntries fields) = List.lookup key fields.reverse := by
  induction fields with
  | nil => rfl
  | cons entry rest ih =>
    obtain ⟨k, v⟩ := entry
    rw [lookup_reverse_cons, ← ih]
    show List.lookup key (if (lastEntries rest).any (·.1 == k) then lastEntries rest
      else (k, v) :: lastEntries rest) = _
    split
    · rename_i later
      by_cases hk : key = k
      · -- A later entry of the key stands, and this one is not looked at.
        subst hk
        cases held : List.lookup key (lastEntries rest) with
        | some document => rfl
        | none =>
          obtain ⟨other, mem, same⟩ := List.any_eq_true.mp later
          have differs := List.lookup_eq_none_iff.mp held other mem
          simp [eq_of_beq same] at differs
      · simp [hk]
    · rename_i last
      rw [lookup_cons]
      by_cases hk : key = k
      · subst hk
        have absent : List.lookup key (lastEntries rest) = none := by
          refine lookup_of_not_mem fun mem => last ?_
          obtain ⟨other, mem, same⟩ := List.mem_map.mp mem
          exact List.any_eq_true.mpr ⟨other, mem, by simp [same]⟩
        simp [absent]
      · simp [hk]

variable {document : Json} {name : String} {value : α}

/-- What has been read from an object can be looked up in it, from behind. -/
theorem build_of_readResource (read : record.readResource name (.object fields) = .ok value) :
    record.build (fun key => List.lookup key fields.reverse) = .ok value := by
  have same : (fun key => List.lookup key (lastEntries fields)) =
      fun key => List.lookup key fields.reverse := funext (lookup_lastEntries fields)
  simp only [readResource] at read
  cases visit : record.checkAll [] (lastEntries fields) with
  | error e =>
    rw [visit] at read
    cases read
  | ok _ =>
    rw [visit, same] at read
    exact read

/-- **A record is what is looked up** in an object that has every key once. -/
theorem Lawful.read_iff (lawful : record.Lawful) (object : document.isObject = true)
    (once : document.KeysOnce) :
    record.read name document = .ok value ↔ record.build document.get? = .ok value := by
  cases document with
  | object fields =>
    show (record.checkAll [] fields >>= fun _ => record.build fun key => List.lookup key fields) =
      .ok value ↔ record.build (fun key => List.lookup key fields) = .ok value
    cases visit : record.checkAll [] fields with
    | error e =>
      refine ⟨nofun, fun built => ?_⟩
      rw [lawful.checkAll once built] at visit
      cases visit
    | ok _ => rfl
  | _ => cases object

/-- The same for a record that only an object can be. -/
theorem Lawful.readResource_iff (lawful : record.Lawful) (object : document.isObject = true)
    (once : document.KeysOnce) :
    record.readResource name document = .ok value ↔ record.build document.get? = .ok value := by
  have read : record.read name document = .ok value ↔ record.build document.get? = .ok value :=
    lawful.read_iff object once
  rw [← read]
  cases document with
  | object fields =>
    have last : lastEntries fields = fields := lastEntries_eq once
    simp only [readResource, Record.read, last]
  | _ => cases object

end Record

end RegistryBridge.Json
