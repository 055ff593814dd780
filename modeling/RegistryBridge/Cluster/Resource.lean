import RegistryBridge.Cluster.Metadata
/-!
# Kinds of objects

A kind of object has a group and version, a name, a plural under which the cluster serves it, and a
document form. What all objects share is read off the kind and the metadata.

## Main definitions

* `Resource`
* `Resource.reference`: the coordinates by which events speak of an object.
* `Resource.standard`: how the kinds of the Kubernetes v1 schema are read.
-/

namespace RegistryBridge

open Json (Field Record Reader)

/-- A kind of objects of the cluster. -/
class Resource (α : Type) where
  apiVersion : String
  kind : String
  plural : String
  metadata : α → Metadata
  read : Reader α
  write : α → Json

namespace Resource

variable {α : Type} [Resource α]

/-- The coordinates of an object: kind, name, namespace and identity, as far as it has them. -/
def reference (object : α) : ObjectReference :=
  let m := metadata object
  { apiVersion := some (apiVersion α)
    kind := some (kind α)
    name := m.name
    ns := m.ns
    uid := m.uid }

/-- The document of an object: the kind in front of the object's own entries. -/
def document (apiVersion kind : String) (entries : List (Option (String × Json))) : Json :=
  Json.record (some ("apiVersion", .text apiVersion) :: some ("kind", .text kind) :: entries)

/-- Reads a text that must be a given one. -/
def readExactly (value : String) : Reader Unit
  | .text s =>
    if s = value then .ok () else .error (.wrongValue (.text s) (.exactly value))
  | other => .error (.wrongType other.found .text)

/-- The first two fields of a kind of the Kubernetes v1 schema: they may be missing, but not
wrong. -/
def standard {β : Type} (apiVersion kind : String) (make : β) : Record β :=
  (Record.of fun (_ _ : Unit) => make)
    |>.field (.withDefault "apiVersion" (readExactly apiVersion) ())
    |>.field (.withDefault "kind" (readExactly kind) ())

end Resource

end RegistryBridge
