/-!
# What can go wrong with the registry

## Main definitions

* `RegistryError`, `RegistryError.message`
-/

namespace RegistryBridge

/-- Why a call to the registry has no answer. -/
inductive RegistryError where
  | transport (operation message : String)
  | undecodable (operation message : String)
  | invalidUrl (url message : String)
  | unexpectedStatus (operation : String) (status expected : Nat)
  deriving DecidableEq, Repr

namespace RegistryError

/-- The wording of an error. -/
def message : RegistryError → String
  | .transport operation message => operation ++ " failed: " ++ message
  | .undecodable operation message =>
    operation ++ " returned an undecodable body: " ++ message
  | .invalidUrl url message => "invalid registry URL '" ++ url ++ "': " ++ message
  | .unexpectedStatus operation status expected =>
    operation ++ " returned HTTP " ++ toString status ++ ", expected " ++ toString expected

/-- The status that was answered, where that is the error. -/
def status? : RegistryError → Option Nat
  | .unexpectedStatus _ status _ => some status
  | _ => none

end RegistryError

end RegistryBridge
