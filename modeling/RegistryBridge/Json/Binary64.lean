/-!
# Double-precision numbers in exact arithmetic

A finite double is `m * 2 ^ q` with `m < 2 ^ 53` and `-1074 ≤ q`. Rounding a fraction to the nearest
double, and naming a double by the fewest decimal digits that round back to it, are done here on
natural numbers, without the machine's own arithmetic.

## Main definitions

* `Binary64.ofFraction`: the double nearest to a fraction, ties to the even mantissa.
* `Binary64.shortest`: the fewest decimal digits that read back as the double.
-/

namespace RegistryBridge

/-- A finite non-negative double, `mantissa * 2 ^ exponent`. -/
structure Binary64 where
  mantissa : Nat
  exponent : Int
  deriving DecidableEq, Repr

namespace Binary64

/-- The nearest whole number to `n / d`, a half going to the even neighbour. -/
def roundDiv (n d : Nat) : Nat :=
  let floor := n / d
  let twice := 2 * (n % d)
  if twice < d then floor
  else if d < twice then floor + 1
  else if floor % 2 = 0 then floor else floor + 1

/-- The fraction `n / d` divided by `2 ^ q`, as a fraction. -/
def scaled (n d : Nat) (q : Int) : Nat × Nat :=
  if q < 0 then (n * Nat.pow 2 (-q).toNat, d) else (n, d * Nat.pow 2 q.toNat)

/-- **The double nearest to `n / d`**, or nothing when that lies beyond the largest double. -/
def ofFraction (n d : Nat) : Option Binary64 :=
  if n = 0 then some ⟨0, -1074⟩
  else
    -- `n / d` lies between `2 ^ (guess - 1)` and `2 ^ (guess + 1)`
    let guess : Int := (Nat.log2 n : Int) - Nat.log2 d
    let q := max (guess - 53) (-1074)
    let (n₀, d₀) := scaled n d q
    -- one step up when the mantissa would need more than 53 bits
    let q := if n₀ < d₀ * Nat.pow 2 53 then q else q + 1
    let (n₁, d₁) := scaled n d q
    let m := roundDiv n₁ d₁
    let (m, q) := if m = Nat.pow 2 53 then (Nat.pow 2 52, q + 1) else (m, q)
    if 971 < q then none else some ⟨m, q⟩

/-- The decimal `digits * 10 ^ exponent` without the zeros at the end of its digits. -/
def trimZeros : Nat → Nat → Int → Nat × Int
  | 0, digits, exponent => (digits, exponent)
  | fuel + 1, digits, exponent =>
    if digits ≠ 0 ∧ digits % 10 = 0 then trimZeros fuel (digits / 10) (exponent + 1)
    else (digits, exponent)

/-- A decimal `digits * 10 ^ t` inside the interval that rounds to the double, nearest to the double
itself, for the power of ten `t`; `value`, `below` and `above` are in units of `2 ^ q`. -/
def onGrid (value below above : Nat) (closed : Bool) (q t : Int) : Option Nat :=
  -- all three in units of `10 ^ t`, over the common denominator `d`
  let up := (if 0 ≤ q then Nat.pow 2 q.toNat else 1) * (if t < 0 then Nat.pow 10 (-t).toNat else 1)
  let d := (if q < 0 then Nat.pow 2 (-q).toNat else 1) * (if 0 ≤ t then Nat.pow 10 t.toNat else 1)
  let v := value * up
  let inside (k : Nat) : Bool :=
    let x := k * d
    if closed then below * up ≤ x && x ≤ above * up else below * up < x && x < above * up
  let low := v / d
  let high := low + 1
  let lowFirst := 2 * (v % d) < d || (2 * (v % d) = d && low % 2 = 0)
  let first := if lowFirst then low else high
  let second := if lowFirst then high else low
  if inside first && first ≠ 0 then some first
  else if inside second && second ≠ 0 then some second
  else none

/-- Tries coarser to finer powers of ten. -/
def search (value below above : Nat) (closed : Bool) (q : Int) : Nat → Int → Nat × Int
  | 0, t => (0, t)
  | fuel + 1, t =>
    match onGrid value below above closed q t with
    | some digits => (digits, t)
    | none => search value below above closed q fuel (t - 1)

/-- **The fewest decimal digits that read back as the double**, with the power of ten they stand
for. -/
def shortest (x : Binary64) : Nat × Int :=
  if x.mantissa = 0 then (0, 0)
  else
    let value := 4 * x.mantissa
    -- below a power of two the neighbour is half as far away
    let below := if x.mantissa = Nat.pow 2 52 ∧ -1074 < x.exponent then value - 1 else value - 2
    let q := x.exponent - 2
    let bits : Int := Nat.log2 x.mantissa + x.exponent
    let top := bits * 30103 / 100000 + 2
    let (digits, t) := search value below (value + 2) (x.mantissa % 2 = 0) q 40 top
    trimZeros 400 digits t

end Binary64

end RegistryBridge
