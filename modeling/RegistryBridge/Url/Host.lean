import RegistryBridge.Domain.Name
import RegistryBridge.Url.Percent
/-!
# Hosts

The host of an address is a domain name in plain form, an address of version 4, which may be written
with fewer parts or to other bases, or an address of version 6 in brackets. The host of a scheme that
is not one of the web's own is any text without delimiters.

## Main definitions

* `Host`, `Host.text`, `Host.parse`, `Host.parseFree`
* `UrlError` with its wording
-/

namespace RegistryBridge

/-- Why a text is not an address. -/
inductive UrlError where
  | emptyHost
  | invalidPort
  | invalidIpv4
  | invalidIpv6
  | invalidName
  | invalidCharacter
  | relative
  deriving DecidableEq, Repr

/-- The wording of an error. -/
def UrlError.message : UrlError → String
  | .emptyHost => "empty host"
  | .invalidPort => "invalid port number"
  | .invalidIpv4 => "invalid IPv4 address"
  | .invalidIpv6 => "invalid IPv6 address"
  | .invalidName => "invalid international domain name"
  | .invalidCharacter => "invalid domain character"
  | .relative => "relative URL without a base"

/-- The host of an address. -/
inductive Host where
  | name (text : String)
  | ipv4 (value : Nat)
  | ipv6 (pieces : List Nat)
  deriving DecidableEq, Repr, Inhabited

namespace Host

/-! ## Addresses of version 4 -/

/-- The value of digits to a base. -/
def number (base : Nat) (cs : List Char) : Nat :=
  cs.foldl (fun n c => base * n + (Percent.value? c).getD 0) 0

/-- Whether every character is a digit to a base. -/
def isNumber (base : Nat) (cs : List Char) : Bool :=
  cs.all fun c =>
    match Percent.value? c with
    | some v => v < base
    | none => false

/-- One part of an address of version 4: decimal, octal behind `0`, hexadecimal behind `0x`. -/
def part? (cs : List Char) : Option Nat :=
  let read (base : Nat) (ds : List Char) : Option Nat :=
    if isNumber base ds then some (number base ds) else none
  match cs with
  | [] => none
  | '0' :: 'x' :: rest => read 16 rest
  | '0' :: 'X' :: rest => read 16 rest
  | '0' :: d :: rest => read 8 (d :: rest)
  | _ => read 10 cs

/-- The parts of a name, without the empty one behind a final full stop. -/
def dotted (cs : List Char) : List (List Char) :=
  let parts := Text.pieces '.' cs
  if parts.getLast? = some [] ∧ 1 < parts.length then parts.dropLast else parts

/-- Whether a name is meant as an address of version 4: its last part is a number. -/
def endsInNumber (cs : List Char) : Bool :=
  match (dotted cs).getLast? with
  | some last => (last ≠ [] && last.all Char.isDigit) || (part? last).isSome
  | none => false

/-- An address of version 4: the last part fills whatever the others leave. -/
def ipv4Of? (cs : List Char) : Option Nat := do
  let parts := dotted cs
  if 4 < parts.length then none
  let numbers ← parts.mapM part?
  let last ← numbers.getLast?
  let front := numbers.dropLast
  if front.all (· ≤ 255) ∧ last < Nat.pow 256 (4 - front.length) then
    some (front.foldl (fun n part => 256 * n + part) 0 * Nat.pow 256 (4 - front.length) + last)
  else none

/-! ## Addresses of version 6 -/

/-- One group of an address of version 6: up to four hexadecimal digits. -/
def group? (cs : List Char) : Option Nat :=
  if cs ≠ [] ∧ cs.length ≤ 4 ∧ isNumber 16 cs then some (number 16 cs) else none

/-- One part of the tail in the form of version 4: no zero in front. -/
def tailPart? (cs : List Char) : Option Nat :=
  let n := number 10 cs
  if cs ≠ [] ∧ cs.all Char.isDigit ∧ n ≤ 255 ∧ (cs.length = 1 ∨ cs.head? ≠ some '0') then some n
  else none

/-- The last group or two: hexadecimal, or in the form of version 4. -/
def tail? (cs : List Char) : Option (List Nat) :=
  if cs.contains '.' then do
    match ← (Text.pieces '.' cs).mapM tailPart? with
    | [a, b, c, d] => some [256 * a + b, 256 * c + d]
    | _ => none
  else (group? cs).map fun n => [n]

/-- Groups divided by colons; the last of them may have the form of version 4 when it is the last of
the address. -/
def groups? (ending : Bool) (cs : List Char) : Option (List Nat) :=
  if cs = [] then some []
  else do
    let parts := Text.pieces ':' cs
    let front ← parts.dropLast.mapM group?
    let last ← parts.getLast?
    let back ← if ending then tail? last else (group? last).map fun n => [n]
    return front ++ back

/-- The characters before and behind the first pair of colons. -/
def cut? : List Char → Option (List Char × List Char)
  | ':' :: ':' :: rest => some ([], rest)
  | c :: rest => (cut? rest).map fun (before, behind) => (c :: before, behind)
  | [] => none

/-- The eight groups of an address of version 6; a pair of colons stands for one or more zeros. -/
def ipv6Of? (cs : List Char) : Option (List Nat) :=
  match cut? cs with
  | some (before, behind) => do
    let front ← groups? false before
    let back ← groups? true behind
    if front.length + back.length < 8 then
      some (front ++ List.replicate (8 - front.length - back.length) 0 ++ back)
    else none
  | none => do
    let all ← groups? true cs
    if all.length = 8 then some all else none

/-- How many zeros stand in front. -/
def zerosAhead (pieces : List Nat) : Nat :=
  (pieces.takeWhile (· == 0)).length

/-- Where the first of the longest runs of zeros begins, and its length. -/
def longestZeros : Nat → List Nat → Nat × Nat
  | _, [] => (0, 0)
  | start, p :: rest =>
    let here := zerosAhead (p :: rest)
    let later := longestZeros (start + 1) rest
    if later.2 ≤ here then (start, here) else later

/-- Groups in hexadecimal, divided by colons. -/
def groupsText (pieces : List Nat) : String :=
  Text.join ":" (pieces.map Text.hexText)

/-- An address of version 6 without brackets; the longest run of two zeros or more is left out. -/
def ipv6Text (pieces : List Nat) : String :=
  let (start, size) := longestZeros 0 pieces
  if 2 ≤ size then
    groupsText (pieces.take start) ++ "::" ++ groupsText (pieces.drop (start + size))
  else groupsText pieces

/-! ## Hosts -/

/-- **The text of a host.** -/
def text : Host → String
  | .name s => s
  | .ipv4 n =>
    Text.join "." ([n / 16777216, n / 65536 % 256, n / 256 % 256, n % 256].map toString)
  | .ipv6 pieces => "[" ++ ipv6Text pieces ++ "]"

/-- The address of version 6 that stands in brackets. -/
def bracketed (cs : List Char) : Except UrlError Host :=
  if cs.getLast? = some ']' then
    match ipv6Of? (cs.drop 1).dropLast with
    | some pieces => .ok (.ipv6 pieces)
    | none => .error .invalidIpv6
  else .error .invalidIpv6

/-- **Reads the host of a scheme of the web.** -/
def parse (cs : List Char) : Except UrlError Host :=
  if cs.head? = some '[' then bracketed cs
  else
    match String.fromUTF8? ⟨(Percent.decode cs).toArray⟩ with
    | none => .error .invalidName
    | some s =>
      match Domain.plain? (s.toList.map Char.toNat) with
      | none => .error .invalidName
      | some plain =>
        let plain := plain.map Char.ofNat
        if plain.isEmpty then .error .emptyHost
        else if endsInNumber plain then
          match ipv4Of? plain with
          | some n => .ok (.ipv4 n)
          | none => .error .invalidIpv4
        else .ok (.name (String.ofList plain))

/-- Characters that would end a host. -/
def isDelimiter (c : Char) : Bool :=
  ['\x00', '\t', '\n', '\r', ' ', '#', '/', ':', '<', '>', '?', '@', '[', '\\', ']', '^',
    '|'].contains c

/-- **Reads the host of any other scheme**: a text without delimiters, or nothing. -/
def parseFree (cs : List Char) : Except UrlError (Option Host) :=
  if cs.head? = some '[' then (bracketed cs).map some
  else if cs.any isDelimiter then .error .invalidCharacter
  else if cs.isEmpty then .ok none
  else .ok (some (.name (String.ofList (Percent.encode Percent.always cs))))

end Host

end RegistryBridge
