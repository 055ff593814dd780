import RegistryBridge.Json.Basic
import RegistryBridge.Table
/-!
# The entries of an object

What an object holds under every key after an entry is stored or removed, and when a document is
brought into normal form. A normal document has every key of an object once.

## Main definitions

* `Json.KeysOnce`: an object that has every key once.
* `Json.Keyed`: entries of a record under names of their own.

## Main results

* `Json.get?_set`, `Json.get?_remove`, `Json.get?_normal`
* `Json.keysOnce_of_normal`, `Json.normal_get?`: normal documents, and what stands in them.
* `Json.normal_normal`: the normal form of a document is normal.
* `Json.normal_object_iff`: when an object is normal.
* `Json.normal_set`, `Json.normal_remove`: entries replaced and removed in a normal object.
-/

namespace RegistryBridge.Json

variable {document value child : Json} {fields : List (String × Json)} {key other : String}

/-- **An object that has every key once**; any other document has none twice. -/
def KeysOnce : Json → Prop
  | .object fields => (fields.map Prod.fst).Nodup
  | _ => True

/-! ## Stored and removed entries -/

theorem lookup_cons {α : Type} (k : String) (v : α) (rest : List (String × α)) (key : String) :
    List.lookup key ((k, v) :: rest) = if key = k then some v else List.lookup key rest :=
  Table.get?_cons k v rest key

theorem lookup_of_not_mem {α : Type} {entries : List (String × α)}
    (absent : key ∉ entries.map Prod.fst) : List.lookup key entries = none := by
  rw [List.lookup_eq_none_iff]
  intro entry mem
  rw [bne_iff_ne]
  rintro rfl
  exact absent (List.mem_map.mpr ⟨entry, mem, rfl⟩)

theorem lookup_setField (fields : List (String × Json)) (key : String) (value : Json)
    (other : String) :
    List.lookup other (setField fields key value) =
      if other = key then some value else List.lookup other fields := by
  induction fields with
  | nil => rw [setField, lookup_cons]
  | cons entry rest ih =>
    obtain ⟨k, v⟩ := entry
    unfold setField
    by_cases hk : k = key
    · subst hk
      rw [if_pos rfl, lookup_cons, lookup_cons]
      split <;> rfl
    · rw [if_neg hk, lookup_cons, lookup_cons, ih]
      by_cases ho : other = k
      · subst ho
        simp [hk]
      · simp [ho]

theorem lookup_filter (fields : List (String × Json)) (keeps : String → Bool) (key : String) :
    List.lookup key (fields.filter fun entry => keeps entry.1) =
      if keeps key then List.lookup key fields else none := by
  induction fields with
  | nil => simp
  | cons entry rest ih =>
    obtain ⟨k, v⟩ := entry
    rw [List.filter_cons, lookup_cons]
    by_cases hk : key = k
    · subst hk
      cases kept : keeps key <;> simp [ih, kept]
    · rw [if_neg hk, ← ih]
      split
      · rw [lookup_cons, if_neg hk]
      · rfl

theorem lookup_filter_ne (fields : List (String × Json)) (key other : String) :
    List.lookup other (fields.filter fun entry => entry.1 ≠ key) =
      if other = key then none else List.lookup other fields :=
  Table.get?_erase fields key other

theorem setField_setField (fields : List (String × Json)) (key : String) (value value' : Json) :
    setField (setField fields key value) key value' = setField fields key value' := by
  induction fields with
  | nil => simp [setField]
  | cons entry rest ih =>
    obtain ⟨k, v⟩ := entry
    by_cases hk : k = key
    · simp [setField, hk]
    · simp [setField, hk, ih]

theorem setField_of_lookup (h : List.lookup key fields = some value) :
    setField fields key value = fields := by
  induction fields with
  | nil => cases h
  | cons entry rest ih =>
    obtain ⟨k, v⟩ := entry
    rw [lookup_cons] at h
    unfold setField
    by_cases hk : k = key
    · subst hk
      rw [if_pos rfl] at h ⊢
      rw [Option.some.inj h]
    · rw [if_neg hk, ih]
      rwa [if_neg (Ne.symm hk)] at h

theorem fst_setField (fields : List (String × Json)) (key : String) (value : Json) :
    (setField fields key value).map Prod.fst =
      if key ∈ fields.map Prod.fst then fields.map Prod.fst else fields.map Prod.fst ++ [key] := by
  induction fields with
  | nil => rfl
  | cons entry rest ih =>
    obtain ⟨k, v⟩ := entry
    unfold setField
    by_cases hk : k = key
    · simp [hk]
    · rw [if_neg hk, List.map_cons, ih]
      by_cases mem : key ∈ rest.map Prod.fst
      · simp [mem]
      · simp [mem, Ne.symm hk]

theorem get?_set (h : document.isObject = true) (key : String) (value : Json) (other : String) :
    (document.set key value).get? other =
      if other = key then some value else document.get? other := by
  cases document with
  | object fields => exact lookup_setField fields key value other
  | _ => cases h

@[simp] theorem get?_set_self (h : document.isObject = true) (key : String) (value : Json) :
    (document.set key value).get? key = some value := by
  rw [get?_set h, if_pos rfl]

theorem get?_set_of_ne (key : String) (value : Json) (hne : other ≠ key) :
    (document.set key value).get? other = document.get? other := by
  cases document with
  | object fields => exact (lookup_setField fields key value other).trans (if_neg hne)
  | _ => rfl

theorem get?_remove (document : Json) (key other : String) :
    (document.remove key).get? other = if other = key then none else document.get? other := by
  cases document with
  | object fields => exact lookup_filter_ne fields key other
  | _ => simp [remove, get?]

@[simp] theorem isObject_set (document : Json) (key : String) (value : Json) :
    (document.set key value).isObject = document.isObject := by
  cases document <;> rfl

@[simp] theorem isObject_remove (document : Json) (key : String) :
    (document.remove key).isObject = document.isObject := by
  cases document <;> rfl

theorem isObject_of_get? (h : document.get? key = some value) : document.isObject = true := by
  cases document with
  | object => rfl
  | _ => cases h

theorem set_set (document : Json) (key : String) (value value' : Json) :
    (document.set key value).set key value' = document.set key value' := by
  cases document with
  | object fields => exact congrArg Json.object (setField_setField fields key value value')
  | _ => rfl

theorem set_of_get? (h : document.get? key = some value) : document.set key value = document := by
  cases document with
  | object fields => exact congrArg Json.object (setField_of_lookup h)
  | _ => cases h

theorem KeysOnce.set (h : document.KeysOnce) (key : String) (value : Json) :
    (document.set key value).KeysOnce := by
  cases document with
  | object fields =>
    show ((setField fields key value).map Prod.fst).Nodup
    rw [fst_setField]
    split
    · exact h
    · rename_i new
      refine List.nodup_append.mpr ⟨h, by simp, ?_⟩
      rintro k mem _ last rfl
      rw [List.mem_singleton] at last
      exact new (last ▸ mem)
  | _ => trivial

theorem KeysOnce.remove (h : document.KeysOnce) (key : String) :
    (document.remove key).KeysOnce := by
  cases document with
  | object fields => exact List.Nodup.sublist (List.filter_sublist.map Prod.fst) h
  | _ => trivial

/-! ## Normal documents -/

theorem insertField_eq (key : String) (value : Json) (fields : List (String × Json)) :
    insertField key value fields = Table.insert fields key value := by
  induction fields with
  | nil => rfl
  | cons entry rest ih =>
    unfold insertField Table.insert
    rw [ih]

@[simp] theorem isObject_normal (document : Json) :
    document.normal.isObject = document.isObject := by
  cases document <;> rfl

/-- Keys in increasing order. -/
def Increasing (fields : List (String × Json)) : Prop :=
  fields.Pairwise fun entry later => entry.1 < later.1

theorem mem_insertField {entry : String × Json} (h : entry ∈ insertField key value fields) :
    entry = (key, value) ∨ entry ∈ fields := by
  induction fields with
  | nil => exact .inl (List.mem_singleton.mp h)
  | cons first rest ih =>
    unfold insertField at h
    split at h
    · rcases List.mem_cons.mp h with rfl | mem
      · exact .inl rfl
      · exact .inr (List.mem_cons_of_mem _ mem)
    · split at h
      · rcases List.mem_cons.mp h with rfl | mem
        · exact .inl rfl
        · exact .inr mem
      · rcases List.mem_cons.mp h with rfl | mem
        · exact .inr (List.mem_cons_self ..)
        · exact (ih mem).imp_right (List.mem_cons_of_mem _)

theorem Increasing.insertField (h : Increasing fields) (key : String) (value : Json) :
    Increasing (Json.insertField key value fields) := by
  induction fields with
  | nil => exact List.pairwise_singleton _ _
  | cons first rest ih =>
    obtain ⟨above, later⟩ := List.pairwise_cons.mp h
    unfold Json.insertField
    split
    · rename_i same
      exact List.pairwise_cons.mpr ⟨same ▸ above, later⟩
    · rename_i other
      split
      · rename_i below
        refine List.pairwise_cons.mpr ⟨fun entry mem => ?_, h⟩
        rcases List.mem_cons.mp mem with rfl | mem
        · exact below
        · exact String.lt_trans below (above entry mem)
      · rename_i notBelow
        -- The order of texts is total, so the key comes later than the first one.
        have behind : first.1 < key := by
          refine String.not_le.mp fun le => other (String.le_antisymm le ?_)
          exact String.not_lt.mp notBelow
        refine List.pairwise_cons.mpr ⟨fun entry mem => ?_, ih later⟩
        rcases mem_insertField mem with rfl | mem
        · exact behind
        · exact above entry mem

theorem Increasing.normalFields {sorted : List (String × Json)} (h : Increasing sorted)
    (fields : List (String × Json)) : Increasing (normalFields fields sorted) := by
  induction fields generalizing sorted with
  | nil => exact h
  | cons entry rest ih => exact ih (h.insertField entry.1 entry.2.normal)

/-- A normal document has every key once. -/
theorem keysOnce_normal (document : Json) : document.normal.KeysOnce := by
  cases document with
  | object fields =>
    have increasing : Increasing (normalFields fields []) := Increasing.normalFields .nil fields
    exact List.pairwise_map.mpr (increasing.imp fun h => String.ne_of_lt h)
  | _ => trivial

theorem keysOnce_of_normal (h : document.normal = document) : document.KeysOnce :=
  h ▸ keysOnce_normal document

/-- What is stored last under a key stands first when the entries are taken from behind. -/
theorem lookup_reverse_cons {α : Type} (k : String) (v : α) (rest : List (String × α))
    (key : String) :
    List.lookup key ((k, v) :: rest).reverse =
      (List.lookup key rest.reverse).or (if key = k then some v else none) := by
  rw [List.reverse_cons, List.lookup_append, lookup_cons]
  rfl

/-- Where every key stands once, it does not matter from which end the entries are taken. -/
theorem lookup_reverse {α : Type} {entries : List (String × α)}
    (once : (entries.map Prod.fst).Nodup) (key : String) :
    List.lookup key entries.reverse = List.lookup key entries := by
  induction entries with
  | nil => rfl
  | cons entry rest ih =>
    obtain ⟨k, v⟩ := entry
    obtain ⟨new, once⟩ := List.nodup_cons.mp once
    rw [lookup_reverse_cons, ih once, lookup_cons]
    by_cases hk : key = k
    · subst hk
      simp [lookup_of_not_mem new]
    · simp [hk]

theorem lookup_normalFields (fields sorted : List (String × Json)) (key : String) :
    List.lookup key (normalFields fields sorted) =
      ((List.lookup key fields.reverse).map normal).or (List.lookup key sorted) := by
  -- The entries are inserted from the front, so what is inserted already is any list.
  induction fields generalizing sorted with
  | nil => rfl
  | cons entry rest ih =>
    obtain ⟨k, v⟩ := entry
    have inserted : List.lookup key (insertField k v.normal sorted) =
        if key = k then some v.normal else List.lookup key sorted := by
      rw [insertField_eq]
      exact Table.get?_insert sorted k key v.normal
    unfold normalFields
    rw [ih, inserted, lookup_reverse_cons]
    by_cases hk : key = k
    · subst hk
      cases List.lookup key rest.reverse <;> simp
    · simp [hk]

/-- What an object holds in normal form: of every key the last entry. -/
theorem get?_normal_object (fields : List (String × Json)) (key : String) :
    (Json.object fields).normal.get? key = (List.lookup key fields.reverse).map normal := by
  show List.lookup key (normalFields fields []) = _
  rw [lookup_normalFields]
  simp

/-- **What a document holds in normal form**: the same, in normal form. -/
theorem get?_normal (once : document.KeysOnce) (key : String) :
    document.normal.get? key = (document.get? key).map normal := by
  cases document with
  | object fields => rw [get?_normal_object, lookup_reverse once, get?]
  | _ => rfl

/-- What stands in a normal document is normal. -/
theorem normal_get? (h : document.normal = document) (holds : document.get? key = some child) :
    child.normal = child := by
  have normal := get?_normal (keysOnce_of_normal h) key
  rw [h, holds] at normal
  exact (Option.some.inj normal).symm

/-- A last key is inserted at the end. -/
theorem insertField_of_last {sorted : List (String × Json)}
    (last : ∀ entry ∈ sorted, entry.1 < key) :
    insertField key value sorted = sorted ++ [(key, value)] := by
  induction sorted with
  | nil => rfl
  | cons first rest ih =>
    have before : first.1 < key := last first (List.mem_cons_self ..)
    have above : ¬ key < first.1 := fun h => String.lt_irrefl _ (String.lt_trans before h)
    unfold insertField
    rw [if_neg (String.ne_of_lt before).symm, if_neg above,
      ih fun entry mem => last entry (List.mem_cons_of_mem _ mem)]
    rfl

/-- Sorted entries of normal values are left as they are. -/
theorem normalFields_of_increasing {sorted : List (String × Json)}
    (increasing : Increasing (sorted ++ fields))
    (values : ∀ entry ∈ fields, entry.2.normal = entry.2) :
    normalFields fields sorted = sorted ++ fields := by
  induction fields generalizing sorted with
  | nil => simp [normalFields]
  | cons entry rest ih =>
    have last : ∀ before ∈ sorted, before.1 < entry.1 := fun before mem =>
      (List.pairwise_append.mp increasing).2.2 before mem entry (List.mem_cons_self ..)
    rw [normalFields, values entry (List.mem_cons_self ..), insertField_of_last last, ih]
    · simp
    · simpa using increasing
    · exact fun other mem => values other (List.mem_cons_of_mem _ mem)

mutual

/-- **The normal form of a document is normal.** -/
theorem normal_normal (document : Json) : document.normal.normal = document.normal := by
  match document with
  | .null | .bool _ | .number _ | .text _ => rfl
  | .list items =>
    simp only [normal]
    rw [normalItems_normalItems items]
  | .object fields =>
    simp only [normal]
    have values : ∀ entry ∈ normalFields fields [], entry.2.normal = entry.2 :=
      normal_of_mem_normalFields fields nofun
    have increasing : Increasing ([] ++ normalFields fields []) :=
      Increasing.normalFields .nil fields
    rw [normalFields_of_increasing increasing values]
    rfl

theorem normalItems_normalItems (items : List Json) :
    normalItems (normalItems items) = normalItems items := by
  match items with
  | [] => rfl
  | x :: xs => rw [normalItems, normalItems, normal_normal x, normalItems_normalItems xs]

theorem normal_of_mem_normalFields (fields : List (String × Json)) {sorted : List (String × Json)}
    (values : ∀ entry ∈ sorted, entry.2.normal = entry.2) :
    ∀ entry ∈ normalFields fields sorted, entry.2.normal = entry.2 := by
  match fields with
  | [] => exact values
  | (key, value) :: rest =>
    refine normal_of_mem_normalFields rest fun entry mem => ?_
    rcases mem_insertField mem with rfl | mem
    · exact normal_normal value
    · exact values entry mem

end

/-- **An object is normal** when its keys increase and its values are normal. -/
theorem normal_object_iff : (Json.object fields).normal = .object fields ↔
    Increasing fields ∧ ∀ entry ∈ fields, entry.2.normal = entry.2 := by
  constructor
  · intro same
    have same : normalFields fields [] = fields := Json.object.inj same
    rw [← same]
    exact ⟨.normalFields .nil fields, normal_of_mem_normalFields fields nofun⟩
  · rintro ⟨increasing, values⟩
    have same : normalFields fields [] = fields := normalFields_of_increasing increasing values
    exact congrArg Json.object same

theorem mem_setField {entry : String × Json} (h : entry ∈ setField fields key value) :
    entry = (key, value) ∨ entry ∈ fields := by
  induction fields with
  | nil => exact .inl (List.mem_singleton.mp h)
  | cons first rest ih =>
    unfold setField at h
    split at h
    · exact (List.mem_cons.mp h).imp_right (List.mem_cons_of_mem _)
    · rcases List.mem_cons.mp h with rfl | mem
      · exact .inr (List.mem_cons_self ..)
      · exact (ih mem).imp_right (List.mem_cons_of_mem _)

/-- **A normal object stays normal** when a normal value is stored in the place of another one. -/
theorem normal_set (h : document.normal = document) (there : document.get? key = some child)
    (normal : value.normal = value) : (document.set key value).normal = document.set key value := by
  cases document with
  | object fields =>
    obtain ⟨increasing, values⟩ := normal_object_iff.mp h
    have mem : key ∈ fields.map Prod.fst := Decidable.byContradiction fun absent =>
      nomatch there.symm.trans (lookup_of_not_mem absent)
    refine normal_object_iff.mpr ⟨?_, fun entry inside => ?_⟩
    · -- The keys are those that were there.
      have keys := fst_setField fields key value
      rw [if_pos mem] at keys
      unfold Increasing at increasing ⊢
      rw [← List.pairwise_map (f := Prod.fst) (R := (· < ·))] at increasing ⊢
      rwa [keys]
    · rcases mem_setField inside with rfl | old
      · exact normal
      · exact values entry old
  | _ => cases there

theorem normal_remove (h : document.normal = document) (key : String) :
    (document.remove key).normal = document.remove key := by
  cases document with
  | object fields =>
    obtain ⟨increasing, values⟩ := normal_object_iff.mp h
    exact normal_object_iff.mpr ⟨increasing.sublist List.filter_sublist, fun entry mem =>
      values entry (List.mem_filter.mp mem).1⟩
  | _ => exact h

/-! ## Written records -/

/-- Entries that stand under names of their own, as far as they are present. -/
def Keyed : List String → List (Option (String × Json)) → Prop
  | [], [] => True
  | name :: names, entry :: entries => (∀ e ∈ entry, e.1 = name) ∧ Keyed names entries
  | _, _ => False

theorem Keyed.sublist {names : List String} {entries : List (Option (String × Json))}
    (h : Keyed names entries) : ((entries.filterMap id).map Prod.fst).Sublist names := by
  induction entries generalizing names with
  | nil => exact List.nil_sublist _
  | cons entry entries ih =>
    cases names with
    | nil => exact h.elim
    | cons name names =>
      cases entry with
      | none => exact (ih h.2).cons name
      | some e =>
        have named : e.1 = name := h.1 e rfl
        show (e.1 :: (entries.filterMap id).map Prod.fst).Sublist (name :: names)
        rw [named]
        exact (ih h.2).cons_cons name

/-- The entry of the first name. -/
theorem Keyed.get?_head {name : String} {names : List String} {entry : Option (String × Json)}
    {entries : List (Option (String × Json))} (h : Keyed (name :: names) (entry :: entries))
    (once : (name :: names).Nodup) :
    (record (entry :: entries)).get? name = entry.map Prod.snd := by
  cases entry with
  | none =>
    exact lookup_of_not_mem fun mem => (List.nodup_cons.mp once).1 (h.2.sublist.subset mem)
  | some e =>
    have named : e.1 = name := h.1 e rfl
    show List.lookup name (e :: entries.filterMap id) = some e.2
    rw [lookup_cons, if_pos named.symm]

end RegistryBridge.Json
