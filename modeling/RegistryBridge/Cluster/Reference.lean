import RegistryBridge.Json.Reader
/-!
# References from one object of the cluster to another

## Main definitions

* `ObjectReference`: any object, by whatever of its coordinates are known.
* `LocalReference`: an object of the same namespace, by name.
-/

namespace RegistryBridge

open Json (Field Record Reader)

/-- The coordinates of an object, as far as they are known. -/
structure ObjectReference where
  apiVersion : Option String := none
  fieldPath : Option String := none
  kind : Option String := none
  name : Option String := none
  ns : Option String := none
  resourceVersion : Option String := none
  uid : Option String := none
  deriving DecidableEq, Repr, Inhabited

/-- The name of an object in the namespace of the one that refers to it. -/
structure LocalReference where
  name : String
  deriving DecidableEq, Repr, Inhabited

/-- An entry that is written only when there is a value. -/
def optionalEntry {α : Type} (key : String) (write : α → Json) (value : Option α) :
    Option (String × Json) :=
  value.map fun v => (key, write v)

namespace ObjectReference

/-- How a reference is read. -/
def record : Record ObjectReference :=
  (Record.of ObjectReference.mk)
    |>.field (.optional "apiVersion" Reader.text)
    |>.field (.optional "fieldPath" Reader.text)
    |>.field (.optional "kind" Reader.text)
    |>.field (.optional "name" Reader.text)
    |>.field (.optional "namespace" Reader.text)
    |>.field (.optional "resourceVersion" Reader.text)
    |>.field (.optional "uid" Reader.text)

/-- Reads a reference. -/
def ofJson : Reader ObjectReference :=
  record.readResource "ObjectReference"

/-- Writes a reference. -/
def toJson (r : ObjectReference) : Json :=
  Json.record [
    optionalEntry "apiVersion" .text r.apiVersion,
    optionalEntry "fieldPath" .text r.fieldPath,
    optionalEntry "kind" .text r.kind,
    optionalEntry "name" .text r.name,
    optionalEntry "namespace" .text r.ns,
    optionalEntry "resourceVersion" .text r.resourceVersion,
    optionalEntry "uid" .text r.uid]

end ObjectReference

namespace LocalReference

/-- Reads a local reference; a missing name is the empty one. -/
def ofJson : Reader LocalReference :=
  ((Record.of LocalReference.mk).field (.nullAs "name" Reader.text "")).readResource
    "LocalObjectReference"

/-- Writes a local reference. -/
def toJson (r : LocalReference) : Json :=
  .object [("name", .text r.name)]

end LocalReference

end RegistryBridge
