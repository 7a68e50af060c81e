import Strata.Text.Numeral

/-!
# Dates and moments

Moments are counted in milliseconds from the start of 1970 in universal time, in the proleptic
Gregorian calendar. Internet timestamps (RFC 3339) are read with any single character between date
and time, with a fraction of any length of which nine digits count, and with an offset; a leap
second is accepted at the end of a month in universal time and stands for the nanosecond before it.
-/

namespace Strata.Calendar

open Strata.Text

/-- Every fourth year is a leap year, except the hundredth ones that are not four hundredth ones. -/
def isLeapYear (y : Int) : Bool :=
  y % 4 == 0 && (y % 100 != 0 || y % 400 == 0)

/-- The number of days of a month. -/
def monthLength (y : Int) (m : Nat) : Nat :=
  if m = 2 then (if isLeapYear y then 29 else 28)
  else if m = 4 ∨ m = 6 ∨ m = 9 ∨ m = 11 then 30
  else 31

/-- A day of the calendar. -/
structure Day where
  year : Int
  month : Nat
  day : Nat
  deriving DecidableEq, Repr

/-- Days from the start of 1970. Years are counted from March, so that the leap day is the last day
of its year. -/
def Day.toEpoch (d : Day) : Int :=
  let y := if d.month ≤ 2 then d.year - 1 else d.year
  let era := y / 400
  let yearOfEra := y % 400
  let dayOfYear : Int := ((153 * ((d.month + 9) % 12) + 2) / 5 + d.day - 1 : Nat)
  era * 146097 + (yearOfEra * 365 + yearOfEra / 4 - yearOfEra / 100 + dayOfYear) - 719468

/-- The day a number of days from the start of 1970. -/
def Day.ofEpoch (n : Int) : Day :=
  let z := n + 719468
  let era := z / 146097
  let dayOfEra := z % 146097
  let yearOfEra := (dayOfEra - dayOfEra / 1460 + dayOfEra / 36524 - dayOfEra / 146096) / 365
  let dayOfYear := dayOfEra - (365 * yearOfEra + yearOfEra / 4 - yearOfEra / 100)
  let mp := (5 * dayOfYear + 2) / 153
  let day := (dayOfYear - (153 * mp + 2) / 5 + 1).toNat
  let month := (if mp < 10 then mp + 3 else mp - 9).toNat
  ⟨yearOfEra + era * 400 + (if month ≤ 2 then 1 else 0), month, day⟩

/-- Milliseconds of a day. -/
def dayMillis : Int := 86400000

/-- A moment taken apart. -/
structure Moment where
  date : Day
  hour : Nat
  minute : Nat
  second : Nat
  milli : Nat
  deriving DecidableEq, Repr

/-- The parts of a moment in universal time. -/
def Moment.ofMillis (ms : Int) : Moment :=
  let t := (ms % dayMillis).toNat
  ⟨Day.ofEpoch (ms / dayMillis), t / 3600000, t / 60000 % 60, t / 1000 % 60, t % 1000⟩

/-! ## Reading -/

/-- A number of exactly `n` digits at the front. -/
def exactly? (n : Nat) (cs : List Char) : Option (Nat × List Char) :=
  let ds := cs.take n
  if ds.length = n ∧ ds.all Numeral.isDigit then some (Numeral.ofDigits ds, cs.drop n) else none

/-- A given character at the front. -/
def literal? (c : Char) : List Char → Option (List Char)
  | d :: rest => if c = d then some rest else none
  | [] => none

/-- Any character of one byte at the front. -/
def separator? : List Char → Option (List Char)
  | c :: rest => if c.toNat < 0x80 then some rest else none
  | [] => none

/-- The nanoseconds that the digits of a fraction denote; digits past the ninth do not count. -/
def nanos (ds : List Char) : Nat :=
  Numeral.ofDigits (ds.take 9) * 10 ^ (9 - min 9 ds.length)

/-- A fraction of a second at the front, if there is one. -/
def fraction? : List Char → Option (Nat × List Char)
  | '.' :: rest =>
    let ds := rest.takeWhile Numeral.isDigit
    if ds.isEmpty then none else some (nanos ds, rest.dropWhile Numeral.isDigit)
  | cs => some (0, cs)

/-- An offset from universal time in minutes. -/
def offset? : List Char → Option (Int × List Char)
  | c :: rest =>
    if c = 'Z' ∨ c = 'z' then some (0, rest)
    else if c = '+' ∨ c = '-' then do
      let (h, rest) ← exactly? 2 rest
      let rest ← literal? ':' rest
      let (m, rest) ← exactly? 2 rest
      guard (h ≤ 23 ∧ m ≤ 59)
      let n : Int := (60 * h + m : Nat)
      return (if c = '-' then -n else n, rest)
    else none
  | [] => none

/-- Milliseconds since the start of 1970 of an internet timestamp, rounded toward that moment. -/
def millisOfTimestamp? (text : String) : Option Int := do
  let (year, cs) ← exactly? 4 text.toList
  let cs ← literal? '-' cs
  let (month, cs) ← exactly? 2 cs
  let cs ← literal? '-' cs
  let (day, cs) ← exactly? 2 cs
  let cs ← separator? cs
  let (hour, cs) ← exactly? 2 cs
  let cs ← literal? ':' cs
  let (minute, cs) ← exactly? 2 cs
  let cs ← literal? ':' cs
  let (second, cs) ← exactly? 2 cs
  let (fraction, cs) ← fraction? cs
  let (offset, cs) ← offset? cs
  guard cs.isEmpty
  guard (1 ≤ month ∧ month ≤ 12 ∧ 1 ≤ day ∧ day ≤ monthLength year month)
  let leap := second = 60
  let second := if leap then 59 else second
  let fraction := if leap then 999999999 else fraction
  guard (hour ≤ 23 ∧ minute ≤ 59 ∧ second ≤ 59)
  let seconds := (Day.toEpoch ⟨year, month, day⟩) * 86400 +
    ((hour * 3600 + minute * 60 + second : Nat) : Int) - offset * 60
  let utc := Day.ofEpoch (seconds / 86400)
  guard (!leap || (seconds % 86400 = 86399 && utc.day = monthLength utc.year utc.month))
  return Int.tdiv (seconds * 1000000000 + fraction) 1000000

/-! ## Writing -/

/-- A year of four digits; years that need more, and years before zero, have a sign. -/
def yearText (y : Int) : String :=
  if 0 ≤ y ∧ y ≤ 9999 then Numeral.padded 4 y.toNat
  else (if y < 0 then "-" else "+") ++ Numeral.padded 4 y.natAbs

/-- A date, year first. -/
def Day.text (d : Day) : String :=
  yearText d.year ++ "-" ++ Numeral.padded 2 d.month ++ "-" ++ Numeral.padded 2 d.day

/-- A timestamp with three digits of a second. -/
def Moment.timestamp (m : Moment) : String :=
  m.date.text ++ "T" ++ Numeral.padded 2 m.hour ++ ":" ++ Numeral.padded 2 m.minute ++ ":" ++
    Numeral.padded 2 m.second ++ "." ++ Numeral.padded 3 m.milli ++ "Z"

/-- Milliseconds as digits of a second without zeros at the end; at least `least` digits. -/
def fractionText (least milli : Nat) : String :=
  let ds := (Numeral.padded 3 milli).toList
  let kept := (ds.reverse.dropWhile (· == '0')).reverse
  String.ofList (kept ++ List.replicate (least - kept.length) '0')

/-- A timestamp with as many digits of a second as are needed. -/
def Moment.shortTimestamp (m : Moment) : String :=
  m.date.text ++ "T" ++ Numeral.padded 2 m.hour ++ ":" ++ Numeral.padded 2 m.minute ++ ":" ++
    Numeral.padded 2 m.second ++ (if m.milli = 0 then "" else "." ++ fractionText 0 m.milli) ++ "Z"

/-- The spelling for people: the hour without a leading zero and the offset written out. -/
def Moment.display (m : Moment) : String :=
  m.date.text ++ " " ++ toString m.hour ++ ":" ++ Numeral.padded 2 m.minute ++ ":" ++
    Numeral.padded 2 m.second ++ "." ++ fractionText 1 m.milli ++ " +00:00:00"

end Strata.Calendar
