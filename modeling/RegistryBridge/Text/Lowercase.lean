import RegistryBridge.Text.CaseTable
/-!
# Lower case

The lower case of a whole text, by the Unicode default mapping. Two characters need more than a
table: the dotted capital I becomes two characters, and a capital sigma becomes the final form when
a letter stands before it in its word and none behind it.

## Main definitions

* `lowercase`
-/

namespace RegistryBridge.Text

/-- Whether the first character that is not case-ignorable is a cased one. -/
def meetsCased : List Char → Bool
  | [] => false
  | c :: rest =>
    if inSpans caseIgnorable c.toNat then meetsCased rest else inSpans cased c.toNat

/-- The lower case of one character, given those before it, nearest first, and those behind it. -/
def lowerChar (before : List Char) (c : Char) (behind : List Char) : List Char :=
  if c.toNat < 0x80 then [c.toLower]
  else if c = 'Σ' then
    if meetsCased before && !meetsCased behind then ['ς'] else ['σ']
  else if c.toNat = 0x130 then ['i', Char.ofNat 0x307]
  else
    match shifted? lowerShifts c.toNat with
    | some n => [Char.ofNat n]
    | none => [c]

/-- The lower case of characters, those before them given nearest first. -/
def lowerChars (before : List Char) : List Char → List Char
  | [] => []
  | c :: rest => lowerChar before c rest ++ lowerChars (c :: before) rest

/-- **The lower case of a text.** -/
def lowercase (s : String) : String :=
  String.ofList (lowerChars [] s.toList)

end RegistryBridge.Text
