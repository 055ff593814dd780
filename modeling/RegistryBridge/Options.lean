import RegistryBridge.Settings
import RegistryBridge.Text.Pieces
/-!
# The command line

An option is a word of its own, and its value is the next word or what follows an equals sign. Options
may stand in any order; the last of two settings counts.

## Main definitions

* `Options`, `Options.ofArguments`
* `OptionsError`, `OptionsError.message`
-/

namespace RegistryBridge

/-- What the command line asks for. -/
structure Options where
  /-- Only print the definition of the integration resource. -/
  definition : Bool := false
  certificate : String := Settings.certificateFile
  key : String := Settings.keyFile
  /-- Let the webhook listen without encryption. -/
  plain : Bool := false
  deriving DecidableEq, Repr, Inhabited

/-- What is wrong with a command line. -/
inductive OptionsError where
  | unknown (word : String)
  | missingValue (name : String)
  | unexpectedValue (name : String)
  deriving DecidableEq, Repr, Inhabited

/-- The wording of an error. -/
def OptionsError.message : OptionsError → String
  | .unknown word => "error: unexpected argument '" ++ word ++ "' found"
  | .missingValue name => "error: a value is required for '" ++ name ++ "' but none was supplied"
  | .unexpectedValue name => "error: unexpected value for '" ++ name ++ "' found; no more were expected"

namespace Options

/-- The option that prints the definition. -/
def definitionOption : String := "--crd"

/-- The option that sets the certificate. -/
def certificateOption : String := "--webhook-cert-file"

/-- The option that sets the certificate's key. -/
def keyOption : String := "--webhook-key-file"

/-- The option that lets the webhook listen without encryption. -/
def plainOption : String := "--webhook-ssl-disable"

/-- The options without a value. -/
def withFlag (o : Options) (name : String) : Option Options :=
  if name = definitionOption then some { o with definition := true }
  else if name = plainOption then some { o with plain := true }
  else none

/-- The options with a value. -/
def withValue (o : Options) (name value : String) : Option Options :=
  if name = certificateOption then some { o with certificate := value }
  else if name = keyOption then some { o with key := value }
  else none

/-- A word as its name and what follows its first equals sign. -/
def nameAndValue (word : String) : String × Option String :=
  match Text.splitAt '=' word with
  | name :: first :: rest => (name, some (Text.join "=" (first :: rest)))
  | _ => (word, none)

/-- Reads words into options. -/
def read (o : Options) : List String → Except OptionsError Options
  | [] => .ok o
  | word :: rest =>
    match nameAndValue word with
    | (name, some value) =>
      match o.withValue name value with
      | some o => read o rest
      | none =>
        if (o.withFlag name).isSome then .error (.unexpectedValue name) else .error (.unknown name)
    | (name, none) =>
      match o.withFlag name with
      | some o => read o rest
      | none =>
        if (o.withValue name "").isNone then .error (.unknown name)
        else
          match rest with
          | [] => .error (.missingValue name)
          | value :: rest => read ((o.withValue name value).getD o) rest

/-- **Reads a command line.** -/
def ofArguments (words : List String) : Except OptionsError Options :=
  read {} words

end Options

end RegistryBridge
