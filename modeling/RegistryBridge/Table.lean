/-!
# Tables keyed by text

A table is a list of entries in increasing order of key. It is how a labelled collection of the
cluster is kept (annotations, secret data) and how the stores of objects are kept: two tables hold
the same entries exactly when they are equal.

## Main definitions

* `Table`, `Table.get?`, `Table.insert`, `Table.erase`, `Table.ofList`

## Main results

* `Table.get?_insert`, `Table.get?_erase`: what a write and a removal do to every key.
-/

namespace RegistryBridge

/-- Entries keyed by text, in increasing order of key when built by `Table.insert`. -/
abbrev Table (α : Type) := List (String × α)

namespace Table

variable {α : Type}

/-- The value stored under a key. -/
def get? (table : Table α) (key : String) : Option α :=
  List.lookup key table

/-- Whether a key is present. -/
def contains (table : Table α) (key : String) : Bool :=
  (table.get? key).isSome

/-- Store a value under a key, replacing the one that was there. -/
def insert (table : Table α) (key : String) (value : α) : Table α :=
  match table with
  | [] => [(key, value)]
  | (k, v) :: rest =>
    if key = k then (key, value) :: rest
    else if key < k then (key, value) :: (k, v) :: rest
    else (k, v) :: insert rest key value

/-- Remove a key. -/
def erase (table : Table α) (key : String) : Table α :=
  table.filter fun entry => entry.1 ≠ key

/-- The table of a list of entries; of two entries with one key the later stands. -/
def ofList (entries : List (String × α)) : Table α :=
  entries.foldl (fun table entry => table.insert entry.1 entry.2) []

/-- The keys, in increasing order. -/
def keys (table : Table α) : List String :=
  table.map (·.1)

@[simp] theorem get?_nil (key : String) : get? ([] : Table α) key = none := rfl

theorem get?_cons (k : String) (v : α) (rest : Table α) (key : String) :
    get? ((k, v) :: rest) key = if key = k then some v else get? rest key := by
  unfold get?
  by_cases h : key = k
  · subst h; simp
  · have hb : (key == k) = false := beq_false_of_ne h
    rw [List.lookup_cons, hb, if_neg h]

@[simp] theorem get?_insert_self (table : Table α) (key : String) (value : α) :
    (table.insert key value).get? key = some value := by
  induction table with
  | nil => simp [insert, get?_cons]
  | cons entry rest ih =>
    obtain ⟨k, v⟩ := entry
    unfold insert
    by_cases h : key = k
    · simp [h, get?_cons]
    · by_cases hlt : key < k
      · simp [h, hlt, get?_cons]
      · simp [h, hlt, get?_cons, ih]

theorem get?_insert_of_ne (table : Table α) {key other : String} (value : α) (hne : other ≠ key) :
    (table.insert key value).get? other = table.get? other := by
  induction table with
  | nil => simp [insert, get?_cons, hne]
  | cons entry rest ih =>
    obtain ⟨k, v⟩ := entry
    unfold insert
    by_cases h : key = k
    · subst h; simp [get?_cons, hne]
    · by_cases hlt : key < k
      · simp [h, hlt, get?_cons, hne]
      · simp [h, hlt, get?_cons, ih]

/-- **What a write does to every key.** -/
theorem get?_insert (table : Table α) (key other : String) (value : α) :
    (table.insert key value).get? other = if other = key then some value else table.get? other := by
  by_cases h : other = key
  · subst h; simp
  · simp [h, get?_insert_of_ne]

/-- **What a removal does to every key.** -/
theorem get?_erase (table : Table α) (key other : String) :
    (table.erase key).get? other = if other = key then none else table.get? other := by
  induction table with
  | nil => simp [erase]
  | cons entry rest ih =>
    obtain ⟨k, v⟩ := entry
    unfold erase at ih ⊢
    by_cases h : k = key
    · subst h
      by_cases ho : other = k <;> simp_all [get?_cons]
    · by_cases ho : other = k
      · subst ho; simp [h, get?_cons]
      · by_cases hk : other = key <;> simp_all [get?_cons]

end Table

end RegistryBridge
