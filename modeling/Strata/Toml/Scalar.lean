import Strata.Calendar
import Strata.Decimal.Literal
import Strata.Text.Numeral
import Strata.Text.Hex
import Strata.Text.Basic

/-!
# Bare scalars of TOML

Numbers, booleans, dates and times are written without quotes. Underscores may stand between
digits; whole numbers and the whole part of other numbers have no leading zeros; the seconds of a
time may be left out. Whole numbers have at most 128 bits, and other numbers must not be too large
for binary64.
-/

namespace Strata.Toml

open Text Calendar

/-- A value written without quotes. -/
inductive Scalar where
  | integer (n : Int)
  | float
  | boolean (b : Bool)
  | datetime
  deriving DecidableEq, Repr

/-- The digits of a row of characters with underscores between them. -/
def digits? (isDigit : Char → Bool) (cs : List Char) : Option (List Char) :=
  let parts := split '_' cs
  if parts.all fun p => !p.isEmpty && p.all isDigit then some parts.flatten else none

/-- The digits of a decimal number without leading zeros. -/
def wholeDigits? (cs : List Char) : Option (List Char) :=
  match digits? Numeral.isDigit cs with
  | some ('0' :: _ :: _) => none
  | ds => ds

/-- The sign in front, and the rest. -/
def sign : List Char → Bool × List Char
  | '-' :: cs => (true, cs)
  | '+' :: cs => (false, cs)
  | cs => (false, cs)

/-- Whether a whole number fits 128 bits, signed or unsigned. -/
def fits (n : Int) : Bool := -2 ^ 127 ≤ n && n < 2 ^ 128

/-- A whole number in another base. -/
def based? (base : Nat) (cs : List Char) : Option Int :=
  let isDigit := fun c => match Hex.digitValue? c with
    | some v => v < base
    | none => false
  (digits? isDigit cs).map fun ds =>
    ds.foldl (fun n c => base * n + (Hex.digitValue? c).getD 0) 0

/-- A whole number. -/
def integer? (cs : List Char) : Option Int :=
  match cs with
  | '0' :: 'x' :: ds => based? 16 ds
  | '0' :: 'o' :: ds => based? 8 ds
  | '0' :: 'b' :: ds => based? 2 ds
  | cs =>
    let (negative, ds) := sign cs
    (wholeDigits? ds).map fun ds =>
      let n : Int := Numeral.ofDigits ds
      if negative then -n else n

/-- The power of ten of a number, after its `e`. -/
def power? (cs : List Char) : Option Int :=
  let (negative, ds) := sign cs
  (digits? Numeral.isDigit ds).map fun ds =>
    let n : Int := Numeral.ofDigits ds
    if negative then -n else n

/-- The digits before and after the point. -/
def mantissa? (cs : List Char) : Option (List Char × List Char) :=
  match splitOnce? '.' cs with
  | none => (wholeDigits? cs).map fun ds => (ds, [])
  | some (whole, fraction) => do
    let whole ← wholeDigits? whole
    let fraction ← digits? Numeral.isDigit fraction
    return (whole, fraction)

/-- A number with a point or a power of ten. -/
def decimal? (negative : Bool) (cs : List Char) : Option Decimal.Literal :=
  match splitOnce? 'e' (cs.map Char.toLower) with
  | some (m, p) => do
    let (whole, fraction) ← mantissa? m
    let power ← power? p
    return ⟨negative, whole, fraction, power⟩
  | none =>
    if cs.contains '.' then (mantissa? cs).map fun m => ⟨negative, m.1, m.2, 0⟩ else none

/-- Whether a number that is no whole number is written. -/
def isFloat (cs : List Char) : Bool :=
  let (negative, rest) := sign cs
  if rest = ['i', 'n', 'f'] ∨ rest = ['n', 'a', 'n'] then true
  else match decimal? negative rest with
    | some l => l.toDouble.isFinite
    | none => false

/-! ## Dates and times -/

/-- The number that two digits in front denote, and the rest. -/
def two? : List Char → Option (Nat × List Char)
  | a :: b :: rest =>
    if Numeral.isDigits [a, b] then some (Numeral.ofDigits [a, b], rest) else none
  | _ => none

/-- A date in front, and the rest. -/
def date? : List Char → Option (List Char)
  | y₁ :: y₂ :: y₃ :: y₄ :: '-' :: rest =>
    if Numeral.isDigits [y₁, y₂, y₃, y₄] then
      match two? rest with
      | some (m, '-' :: rest) =>
        match two? rest with
        | some (d, rest) =>
          let y : Int := Numeral.ofDigits [y₁, y₂, y₃, y₄]
          if 1 ≤ m ∧ m ≤ 12 ∧ 1 ≤ d ∧ d ≤ monthLength y m then some rest else none
        | none => none
      | _ => none
    else none
  | _ => none

/-- The rest behind a fraction of a second, if there is one. -/
def afterFraction? : List Char → Option (List Char)
  | '.' :: rest =>
    if (rest.takeWhile Numeral.isDigit).isEmpty then none
    else some (rest.dropWhile Numeral.isDigit)
  | cs => some cs

/-- A time in front, and the rest. -/
def time? (cs : List Char) : Option (List Char) :=
  match two? cs with
  | some (h, ':' :: rest) =>
    match two? rest with
    | some (m, rest) =>
      if 23 < h ∨ 59 < m then none
      else match rest with
        | ':' :: rest =>
          match two? rest with
          | some (s, rest) => if s ≤ 60 then afterFraction? rest else none
          | none => none
        | rest => some rest
    | none => none
  | _ => none

/-- Whether characters are an offset from universal time, or nothing. -/
def isOffset (cs : List Char) : Bool :=
  match cs with
  | [] | ['Z'] | ['z'] => true
  | c :: rest =>
    if c = '+' ∨ c = '-' then
      match two? rest with
      | some (h, ':' :: rest) =>
        match two? rest with
        | some (m, []) => h ≤ 23 && m ≤ 59
        | _ => false
      | _ => false
    else false

/-- Whether a date, a time, or both are written. -/
def isDatetime (cs : List Char) : Bool :=
  match date? cs with
  | some [] => true
  | some (c :: rest) =>
    (c == 'T' || c == 't' || c == ' ') &&
      match time? rest with
      | some rest => isOffset rest
      | none => false
  | none => time? cs == some []

/-- The value that characters without quotes denote. -/
def Scalar.ofChars? (cs : List Char) : Option Scalar :=
  if cs = ['t', 'r', 'u', 'e'] then some (.boolean true)
  else if cs = ['f', 'a', 'l', 's', 'e'] then some (.boolean false)
  else if isDatetime cs then some .datetime
  else match integer? cs with
    | some n => if fits n then some (.integer n) else none
    | none => if isFloat cs then some .float else none

end Strata.Toml
