import RegistryBridge.Text.Pieces
/-!
# Tables of character ranges

A property of characters is written as one text: hexadecimal numbers, `41-5A` for a range, blanks and
ends of lines between the entries. A table of shifts adds how far away the image lies: `41-5A+20`, with `_`
for a move down and `/2` when only every second character moves.

## Main definitions

* `Span`, `spans`, `inSpans`
* `Shift`, `shifts`, `shifted?`
-/

namespace RegistryBridge.Text

/-- The code points from `first` to `last`. -/
structure Span where
  first : Nat
  last : Nat
  deriving DecidableEq, Repr, Inhabited

/-- The code points from `first` to `last` in steps, each moved by `delta`. -/
structure Shift where
  first : Nat
  last : Nat
  step : Nat
  delta : Int
  deriving DecidableEq, Repr, Inhabited

/-- The entries of a table. -/
def entries (table : String) : List (List Char) :=
  (pieces ' ' (table.toList.map fun c => if c = '\n' then ' ' else c)).filter (· ≠ [])

/-- The value of hexadecimal digits in upper case. -/
def hexNat (cs : List Char) : Nat :=
  cs.foldl (fun n c => 16 * n + (if c.isDigit then c.toNat - 48 else c.toNat - 55)) 0

/-- The entry `41-5A`, or `41` for one character. -/
def spanOf (cs : List Char) : Span :=
  match pieces '-' cs with
  | [a, b] => ⟨hexNat a, hexNat b⟩
  | _ => ⟨hexNat cs, hexNat cs⟩

/-- The entries of a table of ranges. -/
def spans (table : String) : Array Span :=
  ((entries table).map spanOf).toArray

/-- Whether some range holds the code point. -/
def inSpans (table : Array Span) (n : Nat) : Bool :=
  table.any fun s => s.first ≤ n && n ≤ s.last

/-- The entry `41-5A+20`. -/
def shiftOf (cs : List Char) : Shift :=
  let (range, delta) : List Char × Int :=
    match pieces '+' cs with
    | [range, up] => (range, hexNat up)
    | _ =>
      match pieces '_' cs with
      | [range, down] => (range, -(hexNat down : Int))
      | _ => (cs, 0)
  match pieces '/' range with
  | [range, _] => ⟨(spanOf range).first, (spanOf range).last, 2, delta⟩
  | _ => ⟨(spanOf range).first, (spanOf range).last, 1, delta⟩

/-- The entries of a table of shifts. -/
def shifts (table : String) : Array Shift :=
  ((entries table).map shiftOf).toArray

/-- Where the table moves the code point, if it does. -/
def shifted? (table : Array Shift) (n : Nat) : Option Nat :=
  (table.find? fun s => s.first ≤ n && n ≤ s.last && (n - s.first) % s.step == 0).map
    fun s => ((n : Int) + s.delta).toNat

end RegistryBridge.Text
