import Strata.Decimal.Double
import Strata.Text.Numeral

/-!
# Shortest decimals

Every real number close enough to a finite word rounds to that word. `shortest` finds a decimal
with the fewest digits among them, and of these one closest to the word. The search is over digit
counts one to seventeen in exact arithmetic: on the grid of `n`-digit decimals only the two
neighbours of the word have to be tried.
-/

namespace Strata.Decimal

/-- What happens when two shortest decimals are equally close. -/
inductive Tie where
  /-- the one with the even last digit -/
  | even
  /-- the larger one -/
  | up
  deriving DecidableEq, Repr

/-- The number `digits * 10 ^ exponent`. -/
structure Scaled where
  digits : Nat
  exponent : Int
  deriving DecidableEq, Repr, Inhabited

/-- The same number without zeros at the end of its digits; `fuel` bounds how many are taken off. -/
def Scaled.trimZerosUpTo : Nat → Scaled → Scaled
  | 0, s => s
  | fuel + 1, s =>
    if s.digits ≠ 0 ∧ s.digits % 10 = 0 then trimZerosUpTo fuel ⟨s.digits / 10, s.exponent + 1⟩
    else s

/-- The same number without zeros at the end of its digits. -/
def Scaled.trimZeros (s : Scaled) : Scaled := s.trimZerosUpTo s.digits

/-- A positive finite word and the interval of numbers that round to it, over a common
denominator. -/
structure Window where
  low : Nat
  value : Nat
  high : Nat
  den : Nat
  /-- whether the two ends round to the word, too -/
  closed : Bool

namespace Window

/-- The interval around a positive finite word. The spacing halves below a power of two. -/
def ofDouble (d : Double) : Window :=
  let m := d.significand
  let low := if m = 2 ^ 52 ∧ 1 < d.exponentField then 4 * m - 1 else 4 * m - 2
  let e := d.exponent - 2
  let num := if 0 ≤ e then 2 ^ e.toNat else 1
  let den := if 0 ≤ e then 1 else 2 ^ (-e).toNat
  ⟨low * num, 4 * m * num, (4 * m + 2) * num, den, m % 2 = 0⟩

/-- Membership of `num / w.den` in the interval. -/
def holds (w : Window) (num : Nat) : Bool :=
  if w.closed then w.low ≤ num && num ≤ w.high else w.low < num && num < w.high

/-- The same interval in units of `10 ^ p`. -/
def inUnits (w : Window) (p : Int) : Window :=
  if 0 ≤ p then { w with den := w.den * 10 ^ p.toNat }
  else
    let k := 10 ^ (-p).toNat
    { w with low := w.low * k, value := w.value * k, high := w.high * k }

/-- The number of digits in front of the decimal point; zero or less counts the zeros behind it:
`10 ^ (integerDigits - 1) ≤ value < 10 ^ integerDigits`. -/
def integerDigits (w : Window) : Int :=
  if w.den ≤ w.value then (Nat.toDigits 10 (w.value / w.den)).length
  else 1 - (Nat.toDigits 10 ((w.den - 1) / w.value)).length

/-- The whole number closest to the word among the two neighbours that lie in the interval. -/
def neighbour? (w : Window) (tie : Tie) : Option Nat :=
  let q := w.value / w.den
  let r := w.value % w.den
  match w.holds (q * w.den), w.holds ((q + 1) * w.den) with
  | false, false => none
  | true, false => some q
  | false, true => some (q + 1)
  | true, true =>
    if 2 * r < w.den then some q
    else if w.den < 2 * r then some (q + 1)
    else match tie with
      | .even => if q % 2 = 0 then some q else some (q + 1)
      | .up => some (q + 1)

/-- Tries the grids of `n`, `n + 1`, … digits, `fuel` of them. -/
def search (w : Window) (tie : Tie) (size : Int) : Nat → Nat → Scaled
  | 0, n => ⟨(w.inUnits (size - n)).value / (w.inUnits (size - n)).den, size - n⟩
  | fuel + 1, n =>
    match (w.inUnits (size - n)).neighbour? tie with
    | some k => ⟨k, size - n⟩
    | none => search w tie size fuel (n + 1)

end Window

/-- A shortest decimal of a positive finite word. -/
def Double.shortest (d : Double) (tie : Tie) : Scaled :=
  let w := Window.ofDouble d
  (w.search tie w.integerDigits 17 1).trimZeros

end Strata.Decimal
