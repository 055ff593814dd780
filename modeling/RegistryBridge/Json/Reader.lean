import RegistryBridge.Json.Basic
import RegistryBridge.Text.Quoted
/-!
# Typed readers of documents

A reader takes a document to a value of a type or to the cause why it is not one. Records are read
field by field: the entries of an object are visited in the order in which they stand and the first
bad value is the error; only when every value is good does a missing field count, the first one in
order of declaration. A record can also be written as a list of its fields by position.

## Main definitions

* `DecodeError` and its wording `DecodeError.message`
* `Reader`, with readers for texts, flags, lists, tables and variants
* `Field`, `Record`, `Record.read`, `Record.readResource`
-/

namespace RegistryBridge.Json

/-- What stands where something else was expected. -/
inductive Found where
  | null
  | bool (value : Bool)
  | number (value : Number)
  | text (value : String)
  | list
  | object
  deriving DecidableEq, Repr

/-- What was expected. -/
inductive Expected where
  | text
  | bool
  | integer (name : String)
  | list
  | table
  | unit
  | singleKey
  | variant
  | record (name : String)
  | resource (name : String)
  | exactly (value : String)
  | bytes
  | time
  deriving DecidableEq, Repr

/-- Why a document is not a value of a type. -/
inductive DecodeError where
  | wrongType (found : Found) (expected : Expected)
  | wrongValue (found : Found) (expected : Expected)
  | tooShort (length : Nat) (record : String) (fields : Nat)
  | tooLong (length : Nat)
  | missingField (name : String)
  | repeatedField (name : String)
  | unknownVariant (name : String) (allowed : List String)
  | malformed (reason : String)
  deriving DecidableEq, Repr

/-- How messages name what was found. -/
def Found.describe : Found → String
  | .null => "null"
  | .bool value => "boolean `" ++ (if value then "true" else "false") ++ "`"
  | .number (.int value) => "integer `" ++ toString value ++ "`"
  | .number (.decimal negative digits exponent) =>
    "floating point `" ++ Number.positional negative digits exponent ++ "`"
  | .text value => "string " ++ Text.quoted value
  | .list => "sequence"
  | .object => "map"

/-- How messages name what was expected. -/
def Expected.describe : Expected → String
  | .text => "a string"
  | .bool => "a boolean"
  | .integer name => name
  | .list => "a sequence"
  | .table => "a map"
  | .unit => "unit"
  | .singleKey => "map with a single key"
  | .variant => "string or map"
  | .record name => "struct " ++ name
  | .resource name => name
  | .exactly value => value
  | .bytes => "a base64-encoded string"
  | .time => "an RFC 3339 formatted date and time string"

/-- The wording of a decoding error. -/
def DecodeError.message : DecodeError → String
  | .wrongType found expected =>
    "invalid type: " ++ found.describe ++ ", expected " ++ expected.describe
  | .wrongValue found expected =>
    "invalid value: " ++ found.describe ++ ", expected " ++ expected.describe
  | .tooShort length record fields =>
    "invalid length " ++ toString length ++ ", expected struct " ++ record ++ " with " ++
      toString fields ++ (if fields = 1 then " element" else " elements")
  | .tooLong length =>
    "invalid length " ++ toString length ++ ", expected fewer elements in array"
  | .missingField name => "missing field `" ++ name ++ "`"
  | .repeatedField name => "duplicate field `" ++ name ++ "`"
  | .unknownVariant name allowed =>
    let names := allowed.map fun v => "`" ++ v ++ "`"
    "unknown variant `" ++ name ++ "`, expected " ++
      (match names with
      | [only] => only
      | [a, b] => a ++ " or " ++ b
      | _ => "one of " ++ Text.join ", " names)
  | .malformed reason => reason

/-- What a document is, for a message. -/
def found : Json → Found
  | .null => .null
  | .bool value => .bool value
  | .number value => .number value
  | .text value => .text value
  | .list _ => .list
  | .object _ => .object

/-- Takes documents to values of a type. -/
abbrev Reader (α : Type) := Json → Except DecodeError α

namespace Reader

variable {α β : Type}

/-- Any document, as it is. -/
def anything : Reader Json :=
  fun document => .ok document

/-- A text. -/
def text : Reader String
  | .text value => .ok value
  | other => .error (.wrongType other.found .text)

/-- A flag. -/
def bool : Reader Bool
  | .bool value => .ok value
  | other => .error (.wrongType other.found .bool)

/-- A whole number between two bounds. -/
def integer (name : String) (low high : Int) : Reader Int
  | .number (.int value) =>
    if low ≤ value ∧ value ≤ high then .ok value
    else .error (.wrongValue (.number (.int value)) (.integer name))
  | other => .error (.wrongType other.found (.integer name))

/-- Null for nothing, any other document by the reader. -/
def nullable (read : Reader α) : Reader (Option α)
  | .null => .ok none
  | other => (read other).map some

/-- Null for a default, any other document by the reader. -/
def nullAs (default : α) (read : Reader α) : Reader α
  | .null => .ok default
  | other => read other

/-- Every item of a list in order. -/
def items (read : Reader α) : List Json → Except DecodeError (List α)
  | [] => .ok []
  | x :: xs =>
    match read x with
    | .error e => .error e
    | .ok a =>
      match items read xs with
      | .error e => .error e
      | .ok as => .ok (a :: as)

/-- A list. -/
def list (read : Reader α) : Reader (List α)
  | .list xs => items read xs
  | other => .error (.wrongType other.found .list)

/-- Every value of some entries in order. -/
def entries (read : Reader α) : List (String × Json) → Except DecodeError (List (String × α))
  | [] => .ok []
  | (k, x) :: rest =>
    match read x with
    | .error e => .error e
    | .ok a =>
      match entries read rest with
      | .error e => .error e
      | .ok as => .ok ((k, a) :: as)

/-- An object of values of one kind, as sorted entries. -/
def table (read : Reader α) : Reader (List (String × α))
  | .object fields => entries read fields
  | other => .error (.wrongType other.found .table)

/-- One of several named variants: its name, or an object of its name and null. -/
def variant (named : String → Option α) (allowed : List String) : Reader α
  | .text name =>
    match named name with
    | some value => .ok value
    | none => .error (.unknownVariant name allowed)
  | .object [(name, content)] =>
    match named name with
    | some value =>
      match content with
      | .null => .ok value
      | other => .error (.wrongType other.found .unit)
    | none => .error (.unknownVariant name allowed)
  | .object _ => .error (.wrongValue .object .singleKey)
  | other => .error (.wrongType other.found .variant)

end Reader

/-- How one field of a record is read. -/
structure Field (α : Type) where
  name : String
  read : Reader α
  /-- What stands for the field when an object lacks it. -/
  absent : Option α
  /-- What stands for the field when a list is too short to hold it. -/
  short : Option α

namespace Field

variable {α : Type}

/-- A field that must be there. -/
def required (name : String) (read : Reader α) : Field α :=
  ⟨name, read, none, none⟩

/-- A field that may be missing or null. -/
def optional (name : String) (read : Reader α) : Field (Option α) :=
  ⟨name, Reader.nullable read, some none, some none⟩

/-- A field that an object may lack or hold as null, but that a list must hold. -/
def optionalEntry (name : String) (read : Reader α) : Field (Option α) :=
  ⟨name, Reader.nullable read, some none, none⟩

/-- A field that may be missing, but not null. -/
def withDefault (name : String) (read : Reader α) (default : α) : Field α :=
  ⟨name, read, some default, some default⟩

/-- A field for which null and absence both stand for a default. -/
def nullAs (name : String) (read : Reader α) (default : α) : Field α :=
  ⟨name, Reader.nullAs default read, some default, some default⟩

/-- The field's value from the entry that an object has for it, if any. -/
def fromEntry (field : Field α) : Option Json → Except DecodeError α
  | some value => field.read value
  | none =>
    match field.absent with
    | some value => .ok value
    | none => .error (.missingField field.name)

end Field

/-- How the fields of a record are read into one value. -/
structure Record (α : Type) where
  /-- The names of the fields, in order of declaration. -/
  names : List String
  /-- The error of one entry's value, whatever the rest holds. -/
  check : String → Json → Except DecodeError Unit
  /-- The value, from what an object has under each name. -/
  build : (String → Option Json) → Except DecodeError α
  /-- The value and the items behind it, by position; nothing when the items run short. -/
  place : List Json → Except DecodeError (Option (α × List Json))

namespace Record

variable {α β : Type}

/-- A record without fields. -/
def of (value : α) : Record α where
  names := []
  check _ _ := .ok ()
  build _ := .ok value
  place items := .ok (some (value, items))

/-- A record with one field more. -/
def field (record : Record (β → α)) (next : Field β) : Record α where
  names := record.names ++ [next.name]
  check key value := do
    record.check key value
    if key = next.name then
      let _ ← next.read value
  build get := do
    let f ← record.build get
    let b ← next.fromEntry (get next.name)
    return f b
  place items := do
    match ← record.place items with
    | none => return none
    | some (f, item :: rest) =>
      let b ← next.read item
      return some (f b, rest)
    | some (f, []) => return next.short.map fun b => (f b, [])

/-- Visits entries in the order in which they stand. -/
def checkAll (record : Record α) (seen : List String) :
    List (String × Json) → Except DecodeError Unit
  | [] => .ok ()
  | (key, value) :: rest =>
    if seen.contains key then .error (.repeatedField key)
    else
      match record.check key value with
      | .error e => .error e
      | .ok _ => checkAll record (if record.names.contains key then key :: seen else seen) rest

/-- **Reads a record** from an object or from a list of its fields. -/
def read (record : Record α) (name : String) : Reader α
  | .object fields => do
    record.checkAll [] fields
    record.build fun key => List.lookup key fields
  | .list items => do
    match ← record.place items with
    | some (value, []) => return value
    | some (_, _ :: _) => throw (.tooLong items.length)
    | none => throw (.tooShort items.length name record.names.length)
  | other => .error (.wrongType other.found (.record name))

/-- Entries without those that a later one of the same key replaces. -/
def lastEntries (fields : List (String × Json)) : List (String × Json) :=
  fields.foldr (fun entry later => if later.any (·.1 == entry.1) then later else entry :: later) []

/-- **Reads a record that only an object can be.** Of two entries with one name the later stands. -/
def readResource (record : Record α) (name : String) : Reader α
  | .object fields => do
    record.checkAll [] (lastEntries fields)
    record.build fun key => List.lookup key (lastEntries fields)
  | other => .error (.wrongType other.found (.resource name))

end Record

end RegistryBridge.Json
