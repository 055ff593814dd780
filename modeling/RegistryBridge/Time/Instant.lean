import RegistryBridge.Text.WhiteSpace
/-!
# Instants of time

An instant counts seconds since the start of 1970 in UTC, and nanoseconds within the second. It is
written as RFC 3339 has it. A leap second is kept as a second with a thousand million nanoseconds or
more.

## Main definitions

* `Instant`
* `Instant.parse`: reads a date and time with its offset from UTC.
* `Instant.text`: the shortest of 0, 3, 6 and 9 digits of fraction that lose nothing.
* `Instant.secondsText`: no fraction.
-/

namespace RegistryBridge

/-- Why a text is not a date and time. -/
inductive InstantError where
  | outOfRange
  | invalid
  | tooShort
  | tooLong
  deriving DecidableEq, Repr

/-- The wording of an error. -/
def InstantError.message : InstantError → String
  | .outOfRange => "input is out of range"
  | .invalid => "input contains invalid characters"
  | .tooShort => "premature end of input"
  | .tooLong => "trailing input"

/-- A point in time. -/
structure Instant where
  seconds : Int
  nanos : Nat
  deriving DecidableEq, Repr, Inhabited

namespace Instant

/-- Days from the start of 1970 to a date of the proleptic Gregorian calendar. -/
def daysOfDate (year : Int) (month day : Nat) : Int :=
  let y := if month ≤ 2 then year - 1 else year
  let era := y.fdiv 400
  let yearOfEra := y - era * 400
  let shifted : Int := (month + 9) % 12
  let dayOfYear := (153 * shifted + 2) / 5 + day - 1
  era * 146097 + yearOfEra * 365 + yearOfEra / 4 - yearOfEra / 100 + dayOfYear - 719468

/-- The date that lies so many days from the start of 1970. -/
def dateOfDays (days : Int) : Int × Nat × Nat :=
  let z := days + 719468
  let era := z.fdiv 146097
  let dayOfEra := z - era * 146097
  let yearOfEra := (dayOfEra - dayOfEra / 1460 + dayOfEra / 36524 - dayOfEra / 146096) / 365
  let dayOfYear := dayOfEra - (365 * yearOfEra + yearOfEra / 4 - yearOfEra / 100)
  let shifted := (5 * dayOfYear + 2) / 153
  let day := dayOfYear - (153 * shifted + 2) / 5 + 1
  let month := if shifted < 10 then shifted + 3 else shifted - 9
  (yearOfEra + era * 400 + (if month ≤ 2 then 1 else 0), month.toNat, day.toNat)

/-- How many days a month has. -/
def daysInMonth (year : Int) (month : Nat) : Nat :=
  match month with
  | 2 => if year % 4 = 0 ∧ (year % 100 ≠ 0 ∨ year % 400 = 0) then 29 else 28
  | 4 | 6 | 9 | 11 => 30
  | _ => 31

/-- The number written by up to so many digits in front, at least one. -/
def number (most : Nat) (cs : List Char) : Except InstantError (Nat × List Char) :=
  let ds := (cs.take most).takeWhile Char.isDigit
  if ds.isEmpty then .error (if cs.isEmpty then .tooShort else .invalid)
  else .ok (ds.foldl (fun n c => 10 * n + (c.toNat - 48)) 0, cs.drop ds.length)

/-- A number in front, blanks allowed before it, that lies between two bounds. -/
def bounded (low high : Nat) (cs : List Char) : Except InstantError (Nat × List Char) := do
  let (n, rest) ← number 2 (Text.trimFront cs)
  if low ≤ n ∧ n ≤ high then return (n, rest) else throw .outOfRange

/-- A year: four digits, or any number of them behind a sign. -/
def year (cs : List Char) : Except InstantError (Int × List Char) := do
  let (n, rest) : Int × List Char ← match Text.trimFront cs with
    | '+' :: rest => (number rest.length rest).map fun (n, rest) => ((n : Int), rest)
    | '-' :: rest => (number rest.length rest).map fun (n, rest) => (-(n : Int), rest)
    | cs => (number 4 cs).map fun (n, rest) => ((n : Int), rest)
  if n.natAbs < Nat.pow 2 31 then return (n, rest) else throw .outOfRange

/-- The characters behind one that must stand in front, blanks allowed before it. -/
def after (expected : Char) (cs : List Char) : Except InstantError (List Char) :=
  match Text.trimFront cs with
  | [] => .error .tooShort
  | c :: rest => if c = expected then .ok rest else .error .invalid

/-- The characters behind the mark between date and time of day. -/
def afterDate : List Char → Except InstantError (List Char)
  | [] => .error .tooShort
  | c :: rest => if c = 'T' ∨ c = 't' ∨ c = ' ' then .ok rest else .error .invalid

/-- A fraction of a second in nanoseconds; digits beyond the ninth are dropped. -/
def fraction : List Char → Except InstantError (Nat × List Char)
  | '.' :: rest =>
    let ds := rest.takeWhile Char.isDigit
    if ds.isEmpty then .error (if rest.isEmpty then .tooShort else .invalid)
    else
      let nine := (ds ++ List.replicate 9 '0').take 9
      .ok (nine.foldl (fun n c => 10 * n + (c.toNat - 48)) 0, rest.drop ds.length)
  | cs => .ok (0, cs)

/-- Two digits of an offset, the first one at most a limit. -/
def offsetPart (limit : Char) : List Char → Except InstantError (Nat × List Char)
  | a :: b :: rest =>
    if a.isDigit ∧ b.isDigit then
      if a ≤ limit then .ok (10 * (a.toNat - 48) + (b.toNat - 48), rest) else .error .outOfRange
    else .error .invalid
  | _ => .error .tooShort

/-- The offset from UTC, in seconds, and what follows it. -/
def offset (cs : List Char) : Except InstantError (Int × List Char) :=
  let signed (factor : Int) (rest : List Char) : Except InstantError (Int × List Char) := do
    let (hours, rest) ← offsetPart '9' rest
    let rest := rest.dropWhile fun c => c = ':' || Text.isWhiteSpace c
    let (minutes, rest) ← offsetPart '5' rest
    return (factor * (hours * 3600 + minutes * 60), rest)
  match cs with
  | [] => .error .tooShort
  | c :: rest =>
    if (cs.take 3).map Char.toUpper = ['U', 'T', 'C'] then .ok (0, cs.drop 3)
    else if c = 'Z' ∨ c = 'z' then .ok (0, rest)
    else if c = '+' then signed 1 rest
    else if c = '-' ∨ c = '−' then signed (-1) rest
    else .error .invalid

/-- **Reads a date and time of RFC 3339**, blanks between its parts and single digits allowed. -/
def parse (s : String) : Except InstantError Instant := do
  let (year, cs) ← year s.toList
  let (month, cs) ← bounded 1 12 (← after '-' cs)
  let (day, cs) ← bounded 1 31 (← after '-' cs)
  let (hour, cs) ← bounded 0 23 (← afterDate cs)
  let (minute, cs) ← bounded 0 59 (← after ':' cs)
  let (second, cs) ← bounded 0 60 (← after ':' cs)
  let (nanos, cs) ← fraction cs
  let (offset, cs) ← offset (Text.trimFront cs)
  if ¬ (Text.trimFront cs).isEmpty then throw .tooLong
  if day ≤ daysInMonth year month ∧ offset.natAbs < 86400 ∧ year.natAbs ≤ 262142 then
    let leap := second = 60
    let whole : Int := hour * 3600 + minute * 60 + (if leap then 59 else second)
    return ⟨daysOfDate year month day * 86400 + whole - offset,
      if leap then nanos + 1000000000 else nanos⟩
  else throw .outOfRange

/-- A number with zeros in front up to a width. -/
def padded (width n : Nat) : String :=
  let s := toString n
  String.ofList (List.replicate (width - s.length) '0') ++ s

/-- A year in four digits; one that needs more, or lies before the year 0, has its sign in front. -/
def yearText (year : Int) : String :=
  if 0 ≤ year ∧ year ≤ 9999 then padded 4 year.toNat
  else (if year < 0 then "-" else "+") ++ padded 4 year.natAbs

/-- Date and time of day without a fraction or an offset. -/
def clockText (t : Instant) : String :=
  let days := t.seconds.fdiv 86400
  let ofDay := (t.seconds - days * 86400).toNat
  let (year, month, day) := dateOfDays days
  let second := ofDay % 60 + (if 1000000000 ≤ t.nanos then 1 else 0)
  yearText year ++ "-" ++ padded 2 month ++ "-" ++ padded 2 day ++ "T" ++
    padded 2 (ofDay / 3600) ++ ":" ++ padded 2 (ofDay / 60 % 60) ++ ":" ++ padded 2 second

/-- The digits of a fraction that lose nothing: none, three, six or nine. -/
def fractionText (nanos : Nat) : String :=
  if nanos = 0 then ""
  else if nanos % 1000000 = 0 then "." ++ padded 3 (nanos / 1000000)
  else if nanos % 1000 = 0 then "." ++ padded 6 (nanos / 1000)
  else "." ++ padded 9 nanos

/-- **An instant as text**, in UTC. -/
def text (t : Instant) : String :=
  t.clockText ++ fractionText (t.nanos % 1000000000) ++ "Z"

/-- An instant as text to the second, in UTC. -/
def secondsText (t : Instant) : String :=
  t.clockText ++ "Z"

/-- An instant as text to the microsecond, in UTC. -/
def microsText (t : Instant) : String :=
  t.clockText ++ "." ++ padded 6 (t.nanos % 1000000000 / 1000) ++ "Z"

end Instant

end RegistryBridge
