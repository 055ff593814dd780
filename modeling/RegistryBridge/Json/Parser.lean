import RegistryBridge.Json.Basic
/-!
# Reading a document from its text

The grammar is that of RFC 8259 with three decisions: at most 127 lists and objects may stand inside
one another, a surrogate escape must be one half of a pair, and a number must not lie beyond the
largest double.

## Main definitions

* `Json.parse?`: the document of a text, entries in the order written.

## Implementation notes

Every reader takes the characters that are left and returns those that it did not use. The mutual
readers count down a number of steps that the length of the text bounds.
-/

namespace RegistryBridge.Json

/-- The blanks between the parts of a document. -/
def isBlank (c : Char) : Bool :=
  c = ' ' || c = '\n' || c = '\t' || c = '\r'

/-- Characters without the blanks in front. -/
def skipBlanks (cs : List Char) : List Char :=
  cs.dropWhile isBlank

/-- The value of a hexadecimal digit. -/
def hexValue? (c : Char) : Option Nat :=
  if '0' ≤ c ∧ c ≤ '9' then some (c.toNat - '0'.toNat)
  else if 'a' ≤ c ∧ c ≤ 'f' then some (c.toNat - 'a'.toNat + 10)
  else if 'A' ≤ c ∧ c ≤ 'F' then some (c.toNat - 'A'.toNat + 10)
  else none

/-- The code unit of four hexadecimal digits. -/
def unit? (a b c d : Char) : Option Nat := do
  return 4096 * (← hexValue? a) + 256 * (← hexValue? b) + 16 * (← hexValue? c) + (← hexValue? d)

/-- The character of an escape of one letter. -/
def letter? : Char → Option Char
  | '"' => some '"'
  | '\\' => some '\\'
  | '/' => some '/'
  | 'b' => some '\x08'
  | 'f' => some '\x0c'
  | 'n' => some '\n'
  | 'r' => some '\r'
  | 't' => some '\t'
  | _ => none

/-- Reads the inside of a string up to its closing quotation mark. -/
def stringBody? : List Char → Option (List Char × List Char)
  | [] => none
  | '"' :: rest => some ([], rest)
  | '\\' :: 'u' :: a :: b :: c :: d :: rest =>
    match unit? a b c d with
    | none => none
    | some high =>
      if 0xDC00 ≤ high ∧ high ≤ 0xDFFF then none
      else if 0xD800 ≤ high ∧ high ≤ 0xDBFF then
        match rest with
        | '\\' :: 'u' :: e :: f :: g :: h :: tail =>
          match unit? e f g h with
          | none => none
          | some low =>
            if 0xDC00 ≤ low ∧ low ≤ 0xDFFF then
              (stringBody? tail).map fun (cs, left) =>
                (Char.ofNat (0x10000 + (high - 0xD800) * 1024 + (low - 0xDC00)) :: cs, left)
            else none
        | _ => none
      else (stringBody? rest).map fun (cs, left) => (Char.ofNat high :: cs, left)
  | '\\' :: e :: rest =>
    match letter? e with
    | none => none
    | some c => (stringBody? rest).map fun (cs, left) => (c :: cs, left)
  | c :: rest =>
    if c = '\\' ∨ c.toNat < 0x20 then none
    else (stringBody? rest).map fun (cs, left) => (c :: cs, left)

/-- The values of the decimal digits in front, and the characters behind them. -/
def digits : List Char → List Nat × List Char
  | [] => ([], [])
  | c :: rest =>
    if c.isDigit then
      let (ds, left) := digits rest
      ((c.toNat - '0'.toNat) :: ds, left)
    else ([], c :: rest)

/-- Reads the fraction of a number, if one is written. -/
def fraction? : List Char → Option (List Nat × List Char)
  | '.' :: rest =>
    match digits rest with
    | ([], _) => none
    | (ds, left) => some (ds, left)
  | cs => some ([], cs)

/-- Reads the exponent of a number, if one is written. -/
def exponent? (cs : List Char) : Option (Option Int × List Char) :=
  match cs with
  | [] => some (none, [])
  | e :: rest =>
    if e = 'e' ∨ e = 'E' then
      let (negative, rest) :=
        match rest with
        | '-' :: tail => (true, tail)
        | '+' :: tail => (false, tail)
        | _ => (false, rest)
      match digits rest with
      | ([], _) => none
      | (ds, left) =>
        let n : Nat := ds.foldl (fun n d => 10 * n + d) 0
        some (some (if negative then -(n : Int) else n), left)
    else some (none, cs)

/-- Reads a number: no zero in front of further digits. -/
def number? (cs : List Char) : Option (Number × List Char) :=
  let (negative, unsigned) :=
    match cs with
    | '-' :: rest => (true, rest)
    | _ => (false, cs)
  match digits unsigned with
  | ([], _) => none
  | (0 :: _ :: _, _) => none
  | (whole, rest) => do
    let (part, rest) ← fraction? rest
    let (power, rest) ← exponent? rest
    let n ← Number.ofParts negative whole part power
    return (n, rest)

/-- Reads a word that must follow. -/
def word? (word : List Char) (value : Json) (cs : List Char) : Option (Json × List Char) :=
  if word.isPrefixOf cs then some (value, cs.drop word.length) else none

mutual

/-- Reads one document: at most `steps` readers deep and long, with room for `depth` further levels
of lists and objects. -/
def value? : Nat → Nat → List Char → Option (Json × List Char)
  | 0, _, _ => none
  | steps + 1, depth, cs =>
    match skipBlanks cs with
    | [] => none
    | '"' :: rest => (stringBody? rest).map fun (s, left) => (.text (String.ofList s), left)
    | '[' :: rest =>
      if depth = 0 then none
      else
        match skipBlanks rest with
        | ']' :: left => some (.list [], left)
        | rest => (items? steps (depth - 1) rest).map fun (xs, left) => (.list xs, left)
    | '{' :: rest =>
      if depth = 0 then none
      else
        match skipBlanks rest with
        | '}' :: left => some (.object [], left)
        | rest => (fields? steps (depth - 1) rest).map fun (xs, left) => (.object xs, left)
    | 'n' :: rest => word? "ull".toList .null rest
    | 't' :: rest => word? "rue".toList (.bool true) rest
    | 'f' :: rest => word? "alse".toList (.bool false) rest
    | rest => (number? rest).map fun (n, left) => (.number n, left)

/-- Reads the items of a list, at least one, up to its closing bracket. -/
def items? : Nat → Nat → List Char → Option (List Json × List Char)
  | 0, _, _ => none
  | steps + 1, depth, cs =>
    match value? steps depth cs with
    | none => none
    | some (x, rest) =>
      match skipBlanks rest with
      | ',' :: rest => (items? steps depth rest).map fun (xs, left) => (x :: xs, left)
      | ']' :: left => some ([x], left)
      | _ => none

/-- Reads the entries of an object, at least one, up to its closing brace. -/
def fields? : Nat → Nat → List Char → Option (List (String × Json) × List Char)
  | 0, _, _ => none
  | steps + 1, depth, cs =>
    match skipBlanks cs with
    | '"' :: rest =>
      match stringBody? rest with
      | none => none
      | some (key, rest) =>
        match skipBlanks rest with
        | ':' :: rest =>
          match value? steps depth rest with
          | none => none
          | some (x, rest) =>
            let entry := (String.ofList key, x)
            match skipBlanks rest with
            | ',' :: rest =>
              (fields? steps depth rest).map fun (xs, left) => (entry :: xs, left)
            | '}' :: left => some ([entry], left)
            | _ => none
        | _ => none
    | _ => none

end

/-- How many lists and objects may stand inside one another. -/
def maxDepth : Nat := 127

/-- The document in front of characters, and what follows it. -/
def front? (cs : List Char) : Option (Json × List Char) :=
  value? (2 * cs.length + 2) maxDepth cs

/-- **The document of a text**, entries in the order written; nothing but blanks may follow it. -/
def parse? (s : String) : Option Json :=
  match front? s.toList with
  | some (document, rest) => if (skipBlanks rest).isEmpty then some document else none
  | none => none

end RegistryBridge.Json
