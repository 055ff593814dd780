/-!
# White space at the ends of a text

The characters with the Unicode property White_Space, and a text without those at its two ends.

## Main definitions

* `isWhiteSpace`, `trim`
-/

namespace RegistryBridge.Text

/-- The Unicode property White_Space. -/
def isWhiteSpace (c : Char) : Bool :=
  let n := c.toNat
  (0x09 ≤ n && n ≤ 0x0D) || n == 0x20 || n == 0x85 || n == 0xA0 || n == 0x1680 ||
    (0x2000 ≤ n && n ≤ 0x200A) || n == 0x2028 || n == 0x2029 || n == 0x202F || n == 0x205F ||
    n == 0x3000

/-- Characters without the white space at their front. -/
def trimFront (cs : List Char) : List Char :=
  cs.dropWhile isWhiteSpace

/-- Characters without the white space at their end. -/
def trimBack (cs : List Char) : List Char :=
  (trimFront cs.reverse).reverse

/-- A text without the white space at its two ends. -/
def trim (s : String) : String :=
  String.ofList (trimBack (trimFront s.toList))

end RegistryBridge.Text
