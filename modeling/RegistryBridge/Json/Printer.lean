import RegistryBridge.Json.Basic
/-!
# The compact text of a document

No blank is written, entries stand in the order of the tree, and in a string only the quotation mark,
the reverse solidus and the control characters are escaped: five of these by a letter, the others by
four hexadecimal digits.

## Main definitions

* `Json.escape`: one character of a string.
* `Json.compact`: the text of a document.
-/

namespace RegistryBridge.Json

/-- A hexadecimal digit in lower case. -/
def hexDigit (n : Nat) : Char :=
  Nat.digitChar n

/-- How one character is written inside a string. -/
def escape (c : Char) : List Char :=
  if c = '"' then ['\\', '"']
  else if c = '\\' then ['\\', '\\']
  else if c.toNat = 0x08 then ['\\', 'b']
  else if c.toNat = 0x09 then ['\\', 't']
  else if c.toNat = 0x0A then ['\\', 'n']
  else if c.toNat = 0x0C then ['\\', 'f']
  else if c.toNat = 0x0D then ['\\', 'r']
  else if c.toNat < 0x20 then
    ['\\', 'u', '0', '0', hexDigit (c.toNat / 16), hexDigit (c.toNat % 16)]
  else [c]

/-- The characters of a string, escaped. -/
def escaped (cs : List Char) : List Char :=
  cs.flatMap escape

/-- A string in quotation marks. -/
def quote (s : String) : List Char :=
  '"' :: escaped s.toList ++ ['"']

mutual

/-- The characters of a document. -/
def chars : Json → List Char
  | .null => "null".toList
  | .bool true => "true".toList
  | .bool false => "false".toList
  | .number n => n.text.toList
  | .text s => quote s
  | .list [] => ['[', ']']
  | .list (x :: xs) => '[' :: chars x ++ charsItems xs
  | .object [] => ['{', '}']
  | .object ((k, x) :: rest) => '{' :: quote k ++ ':' :: chars x ++ charsFields rest

/-- The characters of the further items of a list. -/
def charsItems : List Json → List Char
  | [] => [']']
  | x :: xs => ',' :: chars x ++ charsItems xs

/-- The characters of the further entries of an object. -/
def charsFields : List (String × Json) → List Char
  | [] => ['}']
  | (k, x) :: rest => ',' :: quote k ++ ':' :: chars x ++ charsFields rest

end

/-- **The compact text of a document.** -/
def compact (document : Json) : String :=
  String.ofList document.chars

end RegistryBridge.Json
