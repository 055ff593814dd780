import RegistryBridge.Json.Binary64
/-!
# Numbers of a JSON document

A whole number that fits 64 bits is kept as it is. Any other number is kept as a double, and a double
as the fewest decimal digits that read back as it, so equal numbers are equal values.

## Main definitions

* `Json.Number`
* `Json.Number.ofParts`: the number that a written number stands for.
* `Json.Number.text`: how a number is written.
* `Json.Number.positional`: a double written without an exponent, as messages show it.
-/

namespace RegistryBridge.Json

/-- A number: a 64-bit integer or a double. -/
inductive Number where
  | int (value : Int)
  | decimal (negative : Bool) (digits : Nat) (exponent : Int)
  deriving DecidableEq, Repr, Inhabited

namespace Number

/-- The double nearest to `digits * 10 ^ exponent`, if there is one. -/
def ofDecimal (negative : Bool) (digits : Nat) (exponent : Int) : Option Number :=
  -- beyond these powers every mantissa that fits a document is infinite, or rounds to zero
  if digits ≠ 0 ∧ 400 < exponent then none
  else if exponent < -4000 then some (.decimal negative 0 0)
  else
    let double :=
      if 0 ≤ exponent then Binary64.ofFraction (digits * Nat.pow 10 exponent.toNat) 1
      else Binary64.ofFraction digits (Nat.pow 10 (-exponent).toNat)
    double.map fun x => .decimal negative x.shortest.1 x.shortest.2

/-- The number written with the digits of a whole part, those of a fraction and an exponent. A whole
number within 64 bits stays exact; minus zero and everything else is a double. -/
def ofParts (negative : Bool) (whole fraction : List Nat) (exponent : Option Int) :
    Option Number :=
  let value (ds : List Nat) : Nat := ds.foldl (fun n d => 10 * n + d) 0
  match fraction, exponent with
  | [], none =>
    let n := value whole
    if negative then
      if n ≠ 0 ∧ n ≤ Nat.pow 2 63 then some (.int (-n)) else ofDecimal true n 0
    else if n < Nat.pow 2 64 then some (.int n) else ofDecimal false n 0
  | _, _ => ofDecimal negative (value (whole ++ fraction)) (exponent.getD 0 - fraction.length)

/-- As many zeros as asked. -/
def zeros (n : Nat) : String :=
  String.ofList (List.replicate n '0')

/-- The digits of a double with a point inside or behind them: no exponent, at least one digit on
each side of the point. -/
def pointed (digits : Nat) (exponent : Int) : String :=
  let ds := (toString digits).toList
  let point : Int := ds.length + exponent
  if 0 ≤ exponent then toString digits ++ zeros exponent.toNat ++ ".0"
  else if 0 < point then
    String.ofList (ds.take point.toNat) ++ "." ++ String.ofList (ds.drop point.toNat)
  else "0." ++ zeros (-point).toNat ++ toString digits

/-- A double without an exponent, whatever its size. -/
def positional (negative : Bool) (digits : Nat) (exponent : Int) : String :=
  (if negative then "-" else "") ++ (if digits = 0 then "0.0" else pointed digits exponent)

/-- How a number is written: a double has a point up to `10 ^ 16` and down to `10 ^ -5`, and beyond
that an exponent. -/
def text : Number → String
  | .int value => toString value
  | .decimal negative digits exponent =>
    let ds := (toString digits).toList
    let point : Int := ds.length + exponent
    let sign := if negative then "-" else ""
    if digits = 0 then sign ++ "0.0"
    else if -5 < point ∧ point ≤ 16 then sign ++ pointed digits exponent
    else
      let rest := ds.drop 1
      sign ++ String.ofList (ds.take 1) ++ (if rest.isEmpty then "" else "." ++ String.ofList rest)
        ++ "e" ++ toString (point - 1)

end Number

end RegistryBridge.Json
