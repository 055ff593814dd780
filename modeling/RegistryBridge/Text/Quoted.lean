import RegistryBridge.Text.Printable
/-!
# Quoted texts in messages

A text shown in a message stands in quotation marks. The quotation mark and the reverse solidus are
escaped by a reverse solidus, the tab, the line breaks and the null character by a letter or digit,
and every other character that cannot be shown as it is by its code point.

## Main definitions

* `quoted`
-/

namespace RegistryBridge.Text

/-- Digits of a number in base 16, lower case. -/
def hexText (n : Nat) : String :=
  String.ofList (Nat.toDigits 16 n)

/-- How one character of a quoted text is shown. -/
def quotedChar (c : Char) : List Char :=
  if c = '"' then ['\\', '"']
  else if c = '\\' then ['\\', '\\']
  else if c = '\n' then ['\\', 'n']
  else if c = '\r' then ['\\', 'r']
  else if c = '\t' then ['\\', 't']
  else if c.toNat = 0 then ['\\', '0']
  else if isPrintable c then [c]
  else '\\' :: 'u' :: '{' :: (hexText c.toNat).toList ++ ['}']

/-- **A text in quotation marks**, as messages show it. -/
def quoted (s : String) : String :=
  String.ofList ('"' :: s.toList.flatMap quotedChar ++ ['"'])

end RegistryBridge.Text
