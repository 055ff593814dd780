import RegistryBridge.Cluster.Resource
import RegistryBridge.Text.Base64
/-!
# Secrets

## Main definitions

* `Secret`, read and written by the Kubernetes v1 schema: its data are bytes, in Base64 on the wire.
-/

namespace RegistryBridge

open Json (Field Record Reader)

/-- Bytes are compared one by one. -/
instance decidableEqBytes : DecidableEq ByteArray := ByteArray.instDecidableEq

/-- A secret of the cluster. -/
structure Secret where
  data : Option (Table ByteArray) := none
  immutable : Option Bool := none
  metadata : Metadata
  stringData : Option (Table String) := none
  kind : Option String := none
  deriving DecidableEq, Inhabited

namespace Secret

/-- Reads bytes from their Base64 text; null stands for none. -/
def readBytes : Reader ByteArray
  | .null => .ok .empty
  | .text s =>
    match Base64.decode? s with
    | some bytes => .ok bytes
    | none => .error (.malformed (Base64.flaw s).message)
  | other => .error (.wrongType other.found .bytes)

/-- Reads the data of a secret. -/
def readData : Reader (Table ByteArray) :=
  fun document => (Reader.table readBytes document).map Table.ofList

/-- Writes the data of a secret. -/
def writeData (table : Table ByteArray) : Json :=
  .object (table.map fun entry => (entry.1, .text (Base64.encode entry.2)))

/-- Reads a secret. -/
def ofJson : Reader Secret :=
  ((Resource.standard "v1" "Secret" Secret.mk)
    |>.field (.optional "data" readData)
    |>.field (.optional "immutable" Reader.bool)
    |>.field (.nullAs "metadata" Metadata.ofJson {})
    |>.field (.optional "stringData" readTexts)
    |>.field (.optional "type" Reader.text)).readResource "Secret"

/-- Writes a secret. -/
def toJson (s : Secret) : Json :=
  Resource.document "v1" "Secret" [
    optionalEntry "data" writeData s.data,
    optionalEntry "immutable" .bool s.immutable,
    some ("metadata", s.metadata.toJson),
    optionalEntry "stringData" writeTexts s.stringData,
    optionalEntry "type" .text s.kind]

end Secret

instance : Resource Secret where
  apiVersion := "v1"
  kind := "Secret"
  plural := "secrets"
  metadata := Secret.metadata
  read := Secret.ofJson
  write := Secret.toJson

end RegistryBridge
