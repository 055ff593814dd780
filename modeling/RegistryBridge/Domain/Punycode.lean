/-!
# Punycode

A label of any characters as letters, digits and hyphens. The plain characters stand in front; the
others follow in increasing order, each as a number that says how far the next insertion lies. The
digits of a number have thresholds that adapt to the numbers before.

## Main definitions

* `Punycode.encode`, `Punycode.decode?`
-/

namespace RegistryBridge.Punycode

/-- A digit to the base 36: letters first. -/
def digit (n : Nat) : Nat :=
  if n < 26 then 0x61 + n else 0x30 + n - 26

/-- The value of a digit, in either case. -/
def value? (c : Nat) : Option Nat :=
  if 0x61 ≤ c ∧ c ≤ 0x7A then some (c - 0x61)
  else if 0x41 ≤ c ∧ c ≤ 0x5A then some (c - 0x41)
  else if 0x30 ≤ c ∧ c ≤ 0x39 then some (c - 0x30 + 26)
  else none

/-- The threshold of the digit at a place, which counts up by 36. -/
def threshold (place bias : Nat) : Nat :=
  if place ≤ bias then 1 else if bias + 26 ≤ place then 26 else place - bias

theorem one_le_threshold (place bias : Nat) : 1 ≤ threshold place bias := by
  unfold threshold
  split
  · omega
  · split <;> omega

theorem threshold_le (place bias : Nat) : threshold place bias ≤ 26 := by
  unfold threshold
  split
  · omega
  · split <;> omega

/-- How often a number is divided before it is small, and what is left. -/
def scaleDown (n rounds : Nat) : Nat × Nat :=
  if h : 455 < n then scaleDown (n / 35) (rounds + 36) else (n, rounds)
termination_by n
decreasing_by omega

/-- The bias behind a number, when so many characters have been placed. -/
def adapt (delta placed : Nat) (first : Bool) : Nat :=
  let start := if first then delta / 700 else delta / 2
  let (n, rounds) := scaleDown (start + start / placed) 0
  rounds + 36 * n / (n + 38)

/-- The digits of a number. -/
def digits (n place bias : Nat) : List Nat :=
  let t := threshold place bias
  if h : n < t then [digit n]
  else digit (t + (n - t) % (36 - t)) :: digits ((n - t) / (36 - t)) (place + 36) bias
termination_by n
decreasing_by
  have h1 := one_le_threshold place bias
  have h2 := threshold_le place bias
  have : (n - threshold place bias) / (36 - threshold place bias) ≤ n - threshold place bias :=
    Nat.div_le_self _ _
  omega

/-- What the scan of a label for one character has written: the number that has built up, how many
characters are placed, the bias, and the digits so far. -/
structure Scan where
  delta : Nat
  placed : Nat
  bias : Nat
  written : List Nat

/-- One scan of the label for the character `c`. -/
def scan (c : Nat) (plain : Nat) (label : List Nat) (start : Scan) : Scan :=
  label.foldl
    (fun s d =>
      if d < c then { s with delta := s.delta + 1 }
      else if d = c then
        { delta := 0
          placed := s.placed + 1
          bias := adapt s.delta (s.placed + 1) (s.placed == plain)
          written := s.written ++ digits s.delta 36 s.bias }
      else s)
    start

/-- The scans for the characters that are not plain, in increasing order. -/
def scans (plain : Nat) (label : List Nat) : List Nat → Nat → Scan → Scan
  | [], _, s => s
  | c :: rest, before, s =>
    let s := { s with delta := s.delta + (c - before) * (s.placed + 1) }
    let s := scan c plain label s
    scans plain label rest (c + 1) { s with delta := s.delta + 1 }

/-- The other characters of a label, each once, in increasing order. -/
def others (label : List Nat) : List Nat :=
  ((label.filter (0x80 ≤ ·)).mergeSort (· ≤ ·)).eraseDups

/-- **The text of a label.** -/
def encode (label : List Nat) : List Nat :=
  let plain := label.filter (· < 0x80)
  let front := if plain.isEmpty then [] else plain ++ [0x2D]
  front ++ (scans plain.length label (others label) 0x80 ⟨0, plain.length, 72, []⟩).written

/-- A number read from digits, with what follows. The weight is that of the next digit. -/
def number? (bias : Nat) : List Nat → Nat → Nat → Nat → Option (Nat × List Nat)
  | [], _, _, _ => none
  | c :: rest, place, weight, sum => do
    let d ← value? c
    let sum := sum + d * weight
    let t := threshold place bias
    if d < t then some (sum, rest)
    else number? bias rest (place + 36) (weight * (36 - t)) sum

theorem length_number? {bias : Nat} {cs : List Nat} {place weight sum n : Nat} {rest : List Nat}
    (h : number? bias cs place weight sum = some (n, rest)) : rest.length < cs.length := by
  induction cs generalizing place weight sum with
  | nil => simp [number?] at h
  | cons c cs ih =>
    simp only [number?, Option.bind_eq_bind, Option.bind_eq_some_iff] at h
    obtain ⟨d, -, h⟩ := h
    split at h
    · simp only [Option.some.injEq, Prod.mk.injEq] at h
      simp [← h.2]
    · exact Nat.lt_succ_of_lt (ih h)

/-- Characters placed into a label, given the character and the place of the last insertion. -/
def placed? (label : List Nat) (c start bias : Nat) (first : Bool) (cs : List Nat) :
    Option (List Nat) :=
  match cs with
  | [] => some label
  | d :: ds =>
    match h : number? bias (d :: ds) 36 1 0 with
    | none => none
    | some (n, rest) =>
      let size := label.length + 1
      let place := start + n
      let c := c + place / size
      if c < 0xD800 ∨ (0xDFFF < c ∧ c ≤ 0x10FFFF) then
        placed? (label.take (place % size) ++ c :: label.drop (place % size)) c (place % size + 1)
          (adapt n size first) false rest
      else none
termination_by cs.length
decreasing_by exact length_number? h

/-- **The label of a text**, if there is one. -/
def decode? (text : List Nat) : Option (List Nat) :=
  let back := text.reverse
  let tail := (back.takeWhile (· ≠ 0x2D)).reverse
  let front := text.take (text.length - tail.length - 1)
  if front.isEmpty then placed? [] 0x80 0 72 true text
  else placed? front 0x80 0 72 true tail

end RegistryBridge.Punycode
