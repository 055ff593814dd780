import RegistryBridge.Text.Pieces
/-!
# Destinations of images

A destination is a tag of an image stream of some namespace, written `namespace/name:tag`.

## Main definitions

* `Destination`, `Destination.text`, `Destination.image`
* `Destination.parse`: reads a whole destination.
* `Destination.ofOutput`: reads the name and tag in a given namespace.
-/

namespace RegistryBridge

/-- A tag of an image stream. -/
structure Destination where
  ns : String
  name : String
  tag : String
  deriving DecidableEq, Repr, Inhabited

/-- Why a text is not a destination: it has the wrong number of pieces, of the whole or of its second
half. -/
inductive DestinationError where
  | components (value : String) (actual : Nat)
  | nameTag (value : String) (actual : Nat)
  deriving DecidableEq, Repr, Inhabited

namespace DestinationError

/-- The wording of an error. -/
def message : DestinationError → String
  | .components .. => "Unexpected number of ImageStream Annotation Components"
  | .nameTag .. => "Unexpected number of ImageStream Name Components"

/-- The text that was read. -/
def value : DestinationError → String
  | .components value _ => value
  | .nameTag value _ => value

/-- The number of pieces that were found. -/
def actual : DestinationError → Nat
  | .components _ actual => actual
  | .nameTag _ actual => actual

/-- The number of pieces that there should be. -/
def expected (_ : DestinationError) : Nat := 2

end DestinationError

namespace Destination

/-- **Reads a name and tag** of a stream in a given namespace. -/
def ofOutput (ns nameTag : String) : Except DestinationError Destination :=
  match Text.splitAt ':' nameTag with
  | [name, tag] =>
    if ns = "" ∨ name = "" ∨ tag = "" then .error (.nameTag nameTag 2)
    else .ok ⟨ns, name, tag⟩
  | pieces => .error (.nameTag nameTag pieces.length)

/-- **Reads a destination.** -/
def parse (value : String) : Except DestinationError Destination :=
  match Text.splitAt '/' value with
  | [ns, nameTag] => ofOutput ns nameTag
  | pieces => .error (.components value pieces.length)

/-- The name and tag. -/
def nameTag (d : Destination) : String :=
  d.name ++ ":" ++ d.tag

/-- **The text of a destination.** -/
def text (d : Destination) : String :=
  d.ns ++ "/" ++ d.nameTag

/-- The image in the registry that is imported into the destination. -/
def image (d : Destination) (host organization : String) : String :=
  host ++ "/" ++ organization ++ "/" ++ d.nameTag

end Destination

end RegistryBridge
