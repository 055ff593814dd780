import RegistryBridge.Url.Basic
/-!
# Reading an address

An address is read the way browsers do: blanks at its ends and line breaks within are dropped, any
slashes may stand before the host of a scheme of the web, and a path is freed of its dots.

## Main definitions

* `Url.parse`
-/

namespace RegistryBridge.Url

/-- The characters that count: without control characters and blanks at the ends, and without tabs
and line breaks. -/
def cleaned (s : String) : List Char :=
  let ends (cs : List Char) := cs.dropWhile fun c => c.toNat ≤ 0x20
  (ends (ends s.toList).reverse).reverse.filter fun c => c ≠ '\t' ∧ c ≠ '\n' ∧ c ≠ '\r'

/-- Whether a character may stand in a scheme. -/
def inScheme (c : Char) : Bool :=
  c.isAlphanum || c = '+' || c = '-' || c = '.'

/-- The scheme in lower case, and what follows its colon. -/
def scheme? (cs : List Char) : Option (String × List Char) :=
  let scheme := cs.takeWhile inScheme
  match scheme, cs.drop scheme.length with
  | c :: _, ':' :: rest =>
    if c.isAlpha then some (String.ofList (scheme.map Char.toLower), rest) else none
  | _, _ => none

/-- Whether a character ends the part of an address that names user, host and port. -/
def endsAuthority (special : Bool) (c : Char) : Bool :=
  c = '/' || c = '?' || c = '#' || (special && c = '\\')

/-- Characters up to the first that has a property, and the rest. -/
def cutAt (p : Char → Bool) (cs : List Char) : List Char × List Char :=
  let front := cs.takeWhile fun c => !p c
  (front, cs.drop front.length)

/-- User and password, encoded, and what follows the last `@`. -/
def userOf (authority : List Char) : String × String × List Char :=
  let host := (authority.reverse.takeWhile (· ≠ '@')).reverse
  let info := authority.take (authority.length - host.length - 1)
  let (user, rest) := cutAt (· = ':') info
  let shown (cs : List Char) := String.ofList (Percent.encode Percent.userInfo cs)
  (shown user, shown (rest.drop 1), host)

/-- Whether a host must be named: a scheme of the web has one, and so has a user or a port. -/
def needsHost (special : Bool) (authority rest : List Char) : Bool :=
  let (user, password, site) := userOf authority
  special || user != "" || password != "" || site.head? == some ':' ||
    (authority == ['@'] && rest != [])

/-- The host in front, which a colon outside brackets ends, and the rest. -/
def hostOf (inBrackets : Bool) : List Char → List Char × List Char
  | [] => ([], [])
  | c :: rest =>
    if c = ':' ∧ ¬ inBrackets then ([], c :: rest)
    else
      let (host, port) := hostOf (if c = '[' then true else if c = ']' then false else inBrackets) rest
      (c :: host, port)

/-- The port behind a colon, none when it is the default one. -/
def portOf (scheme : String) : List Char → Except UrlError (Option Nat)
  | [] => .ok none
  | cs =>
    let n := Host.number 10 cs
    if ¬ cs.all Char.isDigit ∨ 65535 < n then .error .invalidPort
    else if defaultPort? scheme = some n then .ok none
    else .ok (some n)

/-- What stands between the slashes of a path, encoded. -/
def encodedPieces (cs : List Char) : List String :=
  (Text.pieces '/' cs).map fun piece => String.ofList (Percent.encode Percent.path piece)

/-- A path with every reverse solidus that divides it as a slash. -/
def slashed (special : Bool) (cs : List Char) : List Char :=
  cs.map fun c => if special && c = '\\' then '/' else c

/-- The path of an address that has a host. -/
def pathOf (special : Bool) (cs : List Char) : List String :=
  match cs with
  | [] => if special then [""] else []
  | c :: rest =>
    undotted []
      (encodedPieces (slashed special (if endsAuthority special c then rest else c :: rest)))

/-- Path, query and fragment in their own texts. -/
def partsOf (cs : List Char) : List Char × Option (List Char) × Option (List Char) :=
  let (front, fragment) := cutAt (· = '#') cs
  let (path, query) := cutAt (· = '?') front
  let behind (part : List Char) := if part.isEmpty then none else some (part.drop 1)
  (path, behind query, behind fragment)

/-- An address with its query and fragment as they are shown. -/
def withTail (url : Url) (query fragment : Option (List Char)) : Url :=
  let set := if isSpecial url.scheme then Percent.specialQuery else Percent.query
  { url with
    query := query.map fun cs => String.ofList (Percent.encode set cs)
    fragment := fragment.map fun cs => String.ofList (Percent.encode Percent.fragment cs) }

/-- An address with the path, query and fragment that follow its host and port. -/
def withRest (url : Url) (cs : List Char) : Url :=
  let (path, query, fragment) := partsOf cs
  withTail { url with path := .segments (pathOf (isSpecial url.scheme) path) } query fragment

/-- The host that is named, which may be none unless one is needed. -/
def hostNamed (special needed : Bool) (cs : List Char) : Except UrlError (Option Host) :=
  if cs.isEmpty ∧ needed then .error .emptyHost
  else if special then (Host.parse cs).map some
  else Host.parseFree cs

/-- What follows the two slashes. -/
def withAuthority (scheme : String) (cs : List Char) : Except UrlError Url :=
  let special := isSpecial scheme
  let (authority, rest) := cutAt (endsAuthority special) cs
  let (user, password, site) := userOf authority
  let (hostText, behind) := hostOf false site
  let (portText, more) := cutAt (· = '\\') behind
  match hostNamed special (needsHost special authority rest) hostText with
  | .error e => .error e
  | .ok host =>
    match portOf scheme (portText.drop 1) with
    | .error e => .error e
    | .ok port => .ok (withRest { scheme, user, password, host, port } (more ++ rest))

/-- Whether a segment names a drive: a letter and a colon or a bar. -/
def isDrive (cs : List Char) : Bool :=
  match cs with
  | [letter, mark] => letter.isAlpha && (mark = ':' || mark = '|')
  | _ => false

/-- Whether the path of a file begins with a drive, when it is freed of its dots. -/
def onDrive : List String → List String → Bool
  | _, [] => false
  | done, s :: rest =>
    if isDots s then onDrive done.dropLast rest
    else if isDot s then onDrive done rest
    else (done.isEmpty && isDrive s.toList) || onDrive (done ++ [s]) rest

/-- The host of a file, and what follows it. The local host is no host, nor is a drive. -/
def fileSite (cs : List Char) : Except UrlError (Option Host × List Char) :=
  match cs with
  | '/' :: '/' :: rest =>
    let (name, path) := cutAt (· = '/') rest
    if name.isEmpty then .ok (none, path)
    else if isDrive name then .ok (none, '/' :: rest)
    else
      match Host.parse name with
      | .error e => .error e
      | .ok host => .ok (if host = .name "localhost" then none else some host, path)
  | _ => .ok (none, cs)

/-- The path of a file from its pieces, with no empty ones in front. -/
def filePath (pieces : List String) : List String :=
  let kept := (undotted [] pieces).dropWhile (· = "")
  if kept.isEmpty then [""] else kept

/-- The address of a file. It has no host before a drive. -/
def ofFile (cs : List Char) : Except UrlError Url :=
  let (before, query, fragment) := partsOf cs
  match fileSite (slashed true before) with
  | .error e => .error e
  | .ok (host, path) =>
    let pieces := encodedPieces (path.drop (if path.head? = some '/' then 1 else 0))
    let host := if onDrive [] pieces then none else host
    .ok (withTail { scheme := "file", host, path := .segments (filePath pieces) } query fragment)

/-- **Reads an address.** -/
def parse (s : String) : Except UrlError Url :=
  match scheme? (cleaned s) with
  | none => .error .relative
  | some (scheme, rest) =>
    if scheme = "file" then ofFile rest
    else if isSpecial scheme then
      withAuthority scheme (rest.dropWhile fun c => c = '/' || c = '\\')
    else
      match rest with
      | '/' :: '/' :: authority => withAuthority scheme authority
      | _ =>
        let (path, query, fragment) := partsOf rest
        .ok (withTail
          { scheme, path := .free (String.ofList (Percent.encode Percent.always path)) } query
          fragment)

end RegistryBridge.Url
