import RegistryBridge.Url.Host
/-!
# Addresses of services

An address names a scheme, a host with a port unless the scheme has it by default, a path, and
perhaps a user, a query and a fragment.

## Main definitions

* `Url`, `Url.text`, `Url.authority`
* `Url.isSpecial`, `Url.defaultPort?`: the schemes of the web and their ports.
* `Url.isOpaque`: an address that cannot carry a path.
* `Url.withPath`: the same service under another path.
-/

namespace RegistryBridge

/-- The path of an address: segments behind a slash each, or free text where there is no host. -/
inductive UrlPath where
  | segments (list : List String)
  | free (text : String)
  deriving DecidableEq, Repr, Inhabited

/-- An address. -/
structure Url where
  scheme : String
  user : String := ""
  password : String := ""
  host : Option Host := none
  port : Option Nat := none
  path : UrlPath := .segments []
  query : Option String := none
  fragment : Option String := none
  deriving DecidableEq, Repr, Inhabited

namespace Url

/-- The port of a scheme when none is given. -/
def defaultPort? : String → Option Nat
  | "http" => some 80
  | "https" => some 443
  | "ws" => some 80
  | "wss" => some 443
  | "ftp" => some 21
  | _ => none

/-- Whether a scheme belongs to the web or names files: the reverse solidus divides the paths of its
addresses as well, and a path is never empty. -/
def isSpecial (scheme : String) : Bool :=
  scheme == "file" || (defaultPort? scheme).isSome

/-- Host and port, the port only when it is not the default one. -/
def authority (host : Host) (port : Option Nat) : String :=
  match port with
  | some port => host.text ++ ":" ++ toString port
  | none => host.text

/-- User and password as they stand in front of the host. -/
def userText (url : Url) : String :=
  if url.user = "" ∧ url.password = "" then ""
  else if url.password = "" then url.user ++ "@"
  else url.user ++ ":" ++ url.password ++ "@"

/-- The text of a path. -/
def pathText : UrlPath → String
  | .segments list => String.join (list.map ("/" ++ ·))
  | .free text => text

/-- The host with all that belongs to it, behind two slashes. They stand even where the host is empty,
unless there is free text. -/
def site (url : Url) : String :=
  match url.host, url.path with
  | some host, _ => "//" ++ url.userText ++ authority host url.port
  | none, .segments _ => "//"
  | none, .free _ => ""

/-- A part behind the sign that it begins with, if there is one. -/
def marked (mark : String) : Option String → String
  | some part => mark ++ part
  | none => ""

/-- What stands behind the colon of the scheme. -/
def behindScheme (url : Url) : String :=
  url.site ++ pathText url.path ++ marked "?" url.query ++ marked "#" url.fragment

/-- **The text of an address.** -/
def text (url : Url) : String :=
  url.scheme ++ ":" ++ url.behindScheme

/-- **Whether an address cannot carry a path**: no slash follows the colon of its scheme. -/
def isOpaque (url : Url) : Bool :=
  url.behindScheme.toList.head? != some '/'

/-! ## Paths -/

/-- Whether a segment stands for this directory. -/
def isDot (segment : String) : Bool :=
  [".", "%2e", "%2E"].contains segment

/-- Whether a segment stands for the directory above. -/
def isDots (segment : String) : Bool :=
  ["..", "%2e%2e", "%2e%2E", "%2E%2e", "%2E%2E", "%2e.", "%2E.", ".%2e", ".%2E"].contains segment

/-- Segments freed of their dots, given those so far. A dot at the end leaves an empty segment. -/
def undotted : List String → List String → List String
  | done, [] => done
  | done, [last] =>
    if isDots last then done.dropLast ++ [""]
    else if isDot last then done ++ [""]
    else done ++ [last]
  | done, s :: rest =>
    if isDots s then undotted done.dropLast rest
    else if isDot s then undotted done rest
    else undotted (done ++ [s]) rest

/-- One segment as it stands in a path. -/
def segment (scheme segment : String) : String :=
  let set := if isSpecial scheme then Percent.specialSegment else Percent.segment
  String.ofList (Percent.encode set
    (segment.toList.filter fun c => c ≠ '\t' ∧ c ≠ '\n' ∧ c ≠ '\r'))

/-- One more segment behind others. A segment that stands for this directory or the one above is left
out, and the first one follows the slash that is always there. -/
def addSegment (scheme : String) (done : List String) (s : String) : List String :=
  if s = "." ∨ s = ".." then done
  else undotted (if done = [""] then [] else done) [segment scheme s]

/-- **The same service under the path of some segments.** The path ends with a slash where there are
none, unless it was empty and may stay so. -/
def withPath (url : Url) (segments : List String) : Url :=
  let start := if isSpecial url.scheme = false ∧ url.path = .segments [] then [] else [""]
  { url with path := .segments (segments.foldl (addSegment url.scheme) start) }

end Url

end RegistryBridge
