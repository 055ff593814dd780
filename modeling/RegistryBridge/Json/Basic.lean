import RegistryBridge.Json.Number
/-!
# JSON documents

A document is kept as a tree whose objects are lists of entries, in the order in which they were
written. A *normal* document has every object in increasing order of key and without repeated keys;
`Json.normal` brings any document into that form, the last of two entries with one key standing.

## Main definitions

* `Json` with its decidable equality
* `Json.get?`, `Json.set`, `Json.remove`: the entries of an object.
* `Json.normal`
-/

namespace RegistryBridge

/-- A JSON document. -/
inductive Json where
  | null
  | bool (value : Bool)
  | number (value : Json.Number)
  | text (value : String)
  | list (items : List Json)
  | object (fields : List (String × Json))
  deriving Repr, Inhabited

namespace Json

mutual

/-- Whether two documents are equal. -/
def same : Json → Json → Bool
  | .null, .null => true
  | .bool a, .bool b => a == b
  | .number a, .number b => a == b
  | .text a, .text b => a == b
  | .list xs, .list ys => sameItems xs ys
  | .object xs, .object ys => sameFields xs ys
  | _, _ => false

/-- Whether two lists of documents are equal. -/
def sameItems : List Json → List Json → Bool
  | [], [] => true
  | x :: xs, y :: ys => same x y && sameItems xs ys
  | _, _ => false

/-- Whether two lists of entries are equal. -/
def sameFields : List (String × Json) → List (String × Json) → Bool
  | [], [] => true
  | (k, x) :: xs, (l, y) :: ys => k == l && same x y && sameFields xs ys
  | _, _ => false

end

mutual

theorem same_iff (a b : Json) : same a b = true ↔ a = b := by
  cases a <;> cases b <;> simp [same]
  · exact sameItems_iff ..
  · exact sameFields_iff ..

theorem sameItems_iff (xs ys : List Json) : sameItems xs ys = true ↔ xs = ys := by
  cases xs <;> cases ys <;> simp [sameItems]
  exact and_congr (same_iff ..) (sameItems_iff ..)

theorem sameFields_iff (xs ys : List (String × Json)) : sameFields xs ys = true ↔ xs = ys := by
  match xs, ys with
  | [], [] => simp [sameFields]
  | [], _ :: _ => simp [sameFields]
  | _ :: _, [] => simp [sameFields]
  | (k, x) :: xs, (l, y) :: ys =>
    simp only [sameFields, Bool.and_eq_true, beq_iff_eq, List.cons.injEq, Prod.mk.injEq]
    exact and_congr (and_congr Iff.rfl (same_iff ..)) (sameFields_iff ..)

end

instance : DecidableEq Json := fun a b =>
  decidable_of_iff (same a b = true) (same_iff a b)

/-- The value of an object's first entry of that key. -/
def get? : Json → String → Option Json
  | .object fields, key => List.lookup key fields
  | _, _ => none

/-- Whether the document is an object. -/
def isObject : Json → Bool
  | .object _ => true
  | _ => false

/-- Entries with a value stored under a key: in the place of the entry of that key, else at the
end. -/
def setField : List (String × Json) → String → Json → List (String × Json)
  | [], key, value => [(key, value)]
  | (k, v) :: rest, key, value =>
    if k = key then (key, value) :: rest else (k, v) :: setField rest key value

/-- An object with a value stored under a key; any other document is unchanged. -/
def set : Json → String → Json → Json
  | .object fields, key, value => .object (setField fields key value)
  | other, _, _ => other

/-- An object without a key; any other document is unchanged. -/
def remove : Json → String → Json
  | .object fields, key => .object (fields.filter fun entry => entry.1 ≠ key)
  | other, _ => other

/-- Entries in increasing order of key with one more stored among them. -/
def insertField (key : String) (value : Json) : List (String × Json) → List (String × Json)
  | [] => [(key, value)]
  | (k, v) :: rest =>
    if key = k then (key, value) :: rest
    else if key < k then (key, value) :: (k, v) :: rest
    else (k, v) :: insertField key value rest

mutual

/-- The document with every object in increasing order of key; of two entries with one key the later
stands. -/
def normal : Json → Json
  | .list items => .list (normalItems items)
  | .object fields => .object (normalFields fields [])
  | other => other

/-- A list of documents, each normal. -/
def normalItems : List Json → List Json
  | [] => []
  | x :: xs => normal x :: normalItems xs

/-- Entries stored one after the other into sorted ones. -/
def normalFields : List (String × Json) → List (String × Json) → List (String × Json)
  | [], sorted => sorted
  | (k, x) :: rest, sorted => normalFields rest (insertField k (normal x) sorted)

end

/-- An object of the entries that are present. -/
def record (fields : List (Option (String × Json))) : Json :=
  .object (fields.filterMap id)

/-- A natural number as a document. -/
def ofNat (n : Nat) : Json :=
  .number (.int n)

/-- An integer as a document. -/
def ofInt (n : Int) : Json :=
  .number (.int n)

/-- A text that may be missing, as text or null. -/
def ofText? : Option String → Json
  | some s => .text s
  | none => .null

/-- A list of texts. -/
def texts (xs : List String) : Json :=
  .list (xs.map .text)

end Json

end RegistryBridge
