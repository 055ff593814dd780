import RegistryBridge.Text.Quoted
/-!
# Percent-encoding

A character that has no place in some part of an address is written as its bytes in UTF-8, each as a
percent sign and two hexadecimal digits. Every part of an address has its own set of such characters;
whatever is not plain ASCII is always encoded.

## Main definitions

* `Percent.encode`, `Percent.decode`
* `Percent.fragment`, `Percent.path`, `Percent.userInfo`, `Percent.segment`, `Percent.query`,
  `Percent.specialQuery`: what each part encodes.
-/

namespace RegistryBridge.Percent

/-- Control characters and everything outside ASCII, which every part encodes. -/
def always (c : Char) : Bool :=
  c.toNat < 0x20 || 0x7F ≤ c.toNat

/-- What a fragment encodes. -/
def fragment (c : Char) : Bool :=
  always c || [' ', '"', '<', '>', '`'].contains c

/-- What a path encodes. -/
def path (c : Char) : Bool :=
  fragment c || ['#', '?', '\x7b', '\x7d'].contains c

/-- What the user's name and password encode. -/
def userInfo (c : Char) : Bool :=
  path c || ['/', ':', ';', '=', '@', '[', '\\', ']', '^', '|'].contains c

/-- What one segment of a path encodes so that it stays one segment. -/
def segment (c : Char) : Bool :=
  path c || ['/', '%'].contains c

/-- What one segment encodes where the reverse solidus divides segments too. -/
def specialSegment (c : Char) : Bool :=
  segment c || c = '\\'

/-- What a query encodes. -/
def query (c : Char) : Bool :=
  always c || [' ', '"', '#', '<', '>'].contains c

/-- What a query encodes where the apostrophe may end it. -/
def specialQuery (c : Char) : Bool :=
  query c || c = '\''

/-- A hexadecimal digit in upper case. -/
def digit (n : Nat) : Char :=
  if n < 10 then Char.ofNat (48 + n) else Char.ofNat (55 + n)

/-- A byte as a percent sign and two digits. -/
def byte (b : UInt8) : List Char :=
  ['%', digit (b.toNat / 16), digit (b.toNat % 16)]

/-- Characters with those of a set encoded. -/
def encode (set : Char → Bool) (cs : List Char) : List Char :=
  cs.flatMap fun c => if set c then (String.utf8EncodeChar c).flatMap byte else [c]

/-- The value of a hexadecimal digit in either case. -/
def value? (c : Char) : Option Nat :=
  if '0' ≤ c ∧ c ≤ '9' then some (c.toNat - 48)
  else if 'a' ≤ c ∧ c ≤ 'f' then some (c.toNat - 87)
  else if 'A' ≤ c ∧ c ≤ 'F' then some (c.toNat - 55)
  else none

/-- The byte that two characters stand for, if they are digits. -/
def byteOf? (a b : Char) : Option UInt8 := do
  return UInt8.ofNat (16 * (← value? a) + (← value? b))

/-- **The bytes of characters**, every encoded byte read back. A percent sign that two digits do not
follow stands for itself. -/
def decode : List Char → List UInt8
  | '%' :: a :: b :: rest =>
    match byteOf? a b with
    | some x => x :: decode rest
    | none => 0x25 :: decode (a :: b :: rest)
  | c :: rest => String.utf8EncodeChar c ++ decode rest
  | [] => []

end RegistryBridge.Percent
