import RegistryBridge.Error
import RegistryBridge.Url.Parser
/-!
# Where the registry is

An integration gives the registry as a host, or as an address of which host and port count. It is read
twice: for the name of the registry in image references, and for the address that its interface is
called at. Each reading has its own test for what it cannot use.

## Main definitions

* `Registry.address`: the address that is meant.
* `Registry.host`: the registry's name in image references.
* `Registry.base`: the address of its interface.
-/

namespace RegistryBridge.Registry

/-- Whether a text names a scheme and two slashes somewhere. -/
def hasScheme (s : String) : Bool :=
  Text.occursIn [':', '/', '/'] s.toList

/-- The address that is meant: the web's secure scheme unless one is given. -/
def address (hostname : String) : Except UrlError Url :=
  Url.parse (if hasScheme hostname then hostname else "https://" ++ hostname)

/-- **The name of the registry in image references**: its host, and its port when that is not the
default one of the scheme. -/
def host (hostname : String) : Except OperationError String :=
  match address hostname with
  | .error e =>
    .error (.configuration ("invalid registry hostname '" ++ hostname ++ "': " ++ e.message))
  | .ok url =>
    match url.host.filter fun host => host.text ≠ "" with
    | none => .error (.configuration ("registry hostname '" ++ hostname ++ "' has no host"))
    | some host => .ok (Url.authority host url.port)

/-- **The address of the registry's interface**: one that has a host and can carry a path. -/
def base (hostname : String) : Except RegistryError Url :=
  match address hostname with
  | .error e => .error (.invalidUrl hostname e.message)
  | .ok url =>
    if url.isOpaque || url.host.isNone then .error (.invalidUrl hostname "missing host") else .ok url

end RegistryBridge.Registry
