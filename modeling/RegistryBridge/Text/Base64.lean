/-!
# Base64

Bytes as text over the standard alphabet, with padding. Only the canonical text of some bytes reads
back: the padding must be complete and the bits that it leaves over must be zero.

## Main definitions

* `Base64.encode`, `Base64.decode?`
* `Base64.Flaw`, `Base64.flaw`: what is wrong with a text that does not read back.
-/

namespace RegistryBridge.Base64

/-- The letter of six bits. -/
def letter (n : Nat) : Char :=
  if n < 26 then Char.ofNat (65 + n)
  else if n < 52 then Char.ofNat (71 + n)
  else if n < 62 then Char.ofNat (n - 4)
  else if n = 62 then '+'
  else '/'

/-- The six bits of a letter. -/
def value? (c : Char) : Option Nat :=
  let n := c.toNat
  if 65 ≤ n ∧ n ≤ 90 then some (n - 65)
  else if 97 ≤ n ∧ n ≤ 122 then some (n - 71)
  else if 48 ≤ n ∧ n ≤ 57 then some (n + 4)
  else if c = '+' then some 62
  else if c = '/' then some 63
  else none

/-- The letters of bytes: four for every three. -/
def letters : List UInt8 → List Char
  | [] => []
  | [a] =>
    [letter (a.toNat / 4), letter (a.toNat % 4 * 16), '=', '=']
  | [a, b] =>
    [letter (a.toNat / 4), letter (a.toNat % 4 * 16 + b.toNat / 16), letter (b.toNat % 16 * 4), '=']
  | a :: b :: c :: rest =>
    letter (a.toNat / 4) :: letter (a.toNat % 4 * 16 + b.toNat / 16) ::
      letter (b.toNat % 16 * 4 + c.toNat / 64) :: letter (c.toNat % 64) :: letters rest

/-- The bytes of letters, if they are the canonical letters of some bytes. -/
def bytes? : List Char → Option (List UInt8)
  | [] => some []
  | [a, b, '=', '='] => do
    let x ← value? a
    let y ← value? b
    if y % 16 = 0 then some [UInt8.ofNat (x * 4 + y / 16)] else none
  | [a, b, c, '='] => do
    let x ← value? a
    let y ← value? b
    let z ← value? c
    if z % 4 = 0 then
      some [UInt8.ofNat (x * 4 + y / 16), UInt8.ofNat (y % 16 * 16 + z / 4)]
    else none
  | a :: b :: c :: d :: rest => do
    let x ← value? a
    let y ← value? b
    let z ← value? c
    let w ← value? d
    let tail ← bytes? rest
    some (UInt8.ofNat (x * 4 + y / 16) :: UInt8.ofNat (y % 16 * 16 + z / 4) ::
      UInt8.ofNat (z % 4 * 64 + w) :: tail)
  | _ => none

/-- **The text of bytes.** -/
def encode (bytes : ByteArray) : String :=
  String.ofList (letters bytes.data.toList)

/-- **The bytes of a text**, if the text is canonical. -/
def decode? (s : String) : Option ByteArray :=
  (bytes? s.toList).map fun bytes => ⟨bytes.toArray⟩

/-- What is wrong with a text. Offsets and symbols are those of its bytes. -/
inductive Flaw where
  | symbol (byte offset : Nat)
  | length (count : Nat)
  | lastSymbol (byte offset : Nat)
  | padding
  deriving DecidableEq, Repr, Inhabited

/-- The wording of a flaw. -/
def Flaw.message : Flaw → String
  | symbol byte offset =>
    "Invalid symbol " ++ toString byte ++ ", offset " ++ toString offset ++ "."
  | length count => "Invalid input length: " ++ toString count
  | lastSymbol byte offset =>
    "Invalid last symbol " ++ toString byte ++ ", offset " ++ toString offset ++ "."
  | padding => "Invalid padding"

/-- The byte of the padding. -/
def pad : Nat := 61

/-- Whether a byte is a letter. -/
def isLetter (byte : Nat) : Bool :=
  byte < 128 && (value? (Char.ofNat byte)).isSome

/-- The flaw of the last bytes, at most four, of a text: `letters` are those before the byte at hand,
`padded` is where the padding begins and `pads` how long it is. -/
def endFlaw (start i : Nat) (letters : List Nat) (padded : Option Nat) (pads : Nat) :
    List Nat → Flaw
  | [] =>
    if letters.length < 2 then .length (start + letters.length)
    else if (letters.length + pads) % 4 ≠ 0 then .padding
    else .lastSymbol (letters.getLast?.getD 0) (start + letters.length - 1)
  | byte :: rest =>
    if byte = pad then
      if i < 2 then .symbol pad (start + i)
      else endFlaw start (i + 1) letters (padded.or (some i)) (pads + 1) rest
    else
      match padded with
      | some first => .symbol pad (start + first)
      | none =>
        if isLetter byte then endFlaw start (i + 1) (letters ++ [byte]) none pads rest
        else .symbol byte (start + i)

/-- The flaw of bytes: all but the last four must be letters. -/
def bytesFlaw (bytes : List Nat) : Flaw :=
  let front := 4 * ((bytes.length - 1) / 4)
  match (bytes.take front).findIdx? fun byte => !isLetter byte with
  | some i => .symbol (bytes.getD i 0) i
  | none => endFlaw front 0 [] none 0 (bytes.drop front)

/-- **What is wrong with a text** that does not read back. A stray last byte counts before all else. -/
def flaw (s : String) : Flaw :=
  let bytes := s.toUTF8.data.toList.map UInt8.toNat
  let last := bytes.getLast?.getD pad
  if bytes.length % 4 = 1 ∧ last ≠ pad ∧ ¬ isLetter last then .symbol last (bytes.length - 1)
  else bytesFlaw bytes

end RegistryBridge.Base64
