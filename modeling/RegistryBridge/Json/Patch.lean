import RegistryBridge.Json.Basic
/-!
# Patches of documents

A patch is a list of operations, each at a path of keys. The operations are those of RFC 6902 that
set, replace and remove a value. In a list a key is a position.

## Main definitions

* `Json.PatchOperation`, `Json.Patch.applied?`
* `Json.pointer`: the text of a path.
-/

namespace RegistryBridge.Json

/-- One edit of a document. -/
inductive PatchOperation where
  | add (path : List String) (value : Json)
  | replace (path : List String) (value : Json)
  | remove (path : List String)
  deriving DecidableEq, Repr

/-- The position that a key of a list names: a number without zeros in front. -/
def position? (key : String) : Option Nat :=
  if key = "0" ∨ (key ≠ "" ∧ key.toList.all Char.isDigit ∧ key.toList.head? ≠ some '0') then
    some (key.toList.foldl (fun n c => 10 * n + (c.toNat - 48)) 0)
  else none

/-- The value under one key. -/
def child? (document : Json) (key : String) : Option Json :=
  match document with
  | .object _ => document.get? key
  | .list items => (position? key).bind fun i => items[i]?
  | _ => none

/-- The document with another value under a key that it has. -/
def withChild (document : Json) (key : String) (value : Json) : Json :=
  match document with
  | .object _ => document.set key value
  | .list items =>
    match position? key with
    | some i => .list (items.set i value)
    | none => document
  | other => other

/-- The document with the value at a path edited. -/
def editAt? (edit : Json → Option Json) : List String → Json → Option Json
  | [], document => edit document
  | key :: path, document => do
    let child ← document.child? key
    return document.withChild key (← editAt? edit path child)

/-- The document with a value stored under a key; in a list the value is inserted. -/
def addChild? (key : String) (value : Json) (document : Json) : Option Json :=
  match document with
  | .object _ => some (document.set key value)
  | .list items =>
    if key = "-" then some (.list (items ++ [value]))
    else
      match position? key with
      | some i => if i ≤ items.length then some (.list (items.insertIdx i value)) else none
      | none => none
  | _ => none

/-- The document without the value under a key. -/
def removeChild? (key : String) (document : Json) : Option Json := do
  let _ ← document.child? key
  match document with
  | .list items => (position? key).map fun i => .list (items.eraseIdx i)
  | other => some (other.remove key)

/-- A path as its front and its last key. -/
def lastKey? (path : List String) : Option (List String × String) :=
  path.getLast?.map fun key => (path.dropLast, key)

namespace PatchOperation

/-- The document behind one edit, if the edit applies. -/
def applied? : PatchOperation → Json → Option Json
  | add path value, document =>
    match lastKey? path with
    | none => some value
    | some (front, key) => editAt? (addChild? key value) front document
  | replace path value, document => editAt? (fun _ => some value) path document
  | remove path, document => do
    let (front, key) ← lastKey? path
    editAt? (removeChild? key) front document

end PatchOperation

/-- The document behind some edits, if all of them apply. -/
def Patch.applied? (patch : List PatchOperation) (document : Json) : Option Json :=
  patch.foldlM (fun document operation => operation.applied? document) document

/-- A key as it stands in the text of a path. -/
def pointerKey (key : String) : List Char :=
  key.toList.flatMap fun c => if c = '~' then ['~', '0'] else if c = '/' then ['~', '1'] else [c]

/-- The text of a path. -/
def pointer (path : List String) : String :=
  String.ofList (path.flatMap fun key => '/' :: pointerKey key)

/-- Writes an edit. -/
def PatchOperation.toJson : PatchOperation → Json
  | add path value =>
    .object [("op", .text "add"), ("path", .text (pointer path)), ("value", value)]
  | replace path value =>
    .object [("op", .text "replace"), ("path", .text (pointer path)), ("value", value)]
  | remove path => .object [("op", .text "remove"), ("path", .text (pointer path))]

end RegistryBridge.Json
