import Strata.Text.Numeral

/-!
# Decimal128 numbers

A decimal floating-point number of up to thirty-four digits, kept as read: a coefficient and a power
of ten, so that `1.0` and `1.00` differ. A text with more digits, or with a power out of range, is
accepted only if the number can be held without changing it.
-/

namespace Strata.Decimal

open Strata.Text

/-- A decimal128 number. -/
inductive Decimal128 where
  | finite (negative : Bool) (coefficient : Nat) (power : Int)
  | infinity (negative : Bool)
  | nan (negative signalling : Bool)
  deriving DecidableEq, Repr, Inhabited

namespace Decimal128

/-- The most digits of a coefficient. -/
def maxDigits : Nat := 34

/-- The least power of ten. -/
def minPower : Int := -6176

/-- The greatest power of ten. -/
def maxPower : Int := 6111

/-- The first `n` digits, if the others are zeros. -/
def keepDigits? (ds : List Char) (n : Nat) : Option (List Char) :=
  if n ≤ ds.length ∧ (ds.drop n).all (· == '0') then some (ds.take n) else none

/-- A power of ten as long as it fits sixteen bits. -/
def shortPower? (n : Int) : Option Int :=
  if -2 ^ 15 ≤ n ∧ n < 2 ^ 15 then some n else none

/-- The power of ten behind the letter `e`. -/
def power? (cs : List Char) : Option Int := (Numeral.intChars? cs).bind shortPower?

/-- Brings digits and a power into range. -/
def settle? (ds : List Char) (power : Int) : Option (List Char × Int) := do
  let zero := ds = ['0']
  let (ds, power) ←
    if maxDigits < ds.length then do
      let kept ← keepDigits? ds maxDigits
      pure (kept, ← shortPower? (power + ((ds.length - maxDigits : Nat) : Int)))
    else some (ds, power)
  if power < minPower then
    if zero then return (ds, minPower)
    let delta := (minPower - power).toNat
    if ds.length < delta then none
    else return (← keepDigits? ds (ds.length - delta), minPower)
  else if maxPower < power then
    if zero then return (ds, maxPower)
    let delta := (power - maxPower).toNat
    if maxDigits < ds.length + delta then none
    else return (ds ++ List.replicate delta '0', maxPower)
  else return (ds, power)

/-- A finite number without its sign. -/
def finite? (negative : Bool) (cs : List Char) : Option Decimal128 := do
  let mantissa := cs.takeWhile (· != 'e')
  let power ← match cs.dropWhile (· != 'e') with
    | [] => some 0
    | _ :: ds => power? ds
  let whole := mantissa.takeWhile (· != '.')
  let fraction := (mantissa.dropWhile (· != '.')).drop 1
  guard (Numeral.isDigits (whole ++ fraction))
  let ds := (whole ++ fraction).dropWhile (· == '0')
  let ds := if ds.isEmpty then ['0'] else ds
  let power ← shortPower? (power - fraction.length)
  let (ds, power) ← settle? ds power
  guard (!ds.isEmpty)
  return finite negative (Numeral.ofDigits ds) power

/-- Reads a number; letters may be of either case. -/
def ofText? (s : String) : Option Decimal128 :=
  let (negative, cs) := match s.toList with
    | '-' :: cs => (true, cs)
    | '+' :: cs => (false, cs)
    | cs => (false, cs)
  let cs := cs.map Char.toLower
  let name := String.ofList cs
  if name = "nan" then some (nan negative false)
  else if name = "snan" then some (nan negative true)
  else if name = "inf" ∨ name = "infinity" then some (infinity negative)
  else finite? negative cs

/-- The characters of a finite number without its sign: positional when the power is not positive
and the number not too small, else with one digit in front of the point. -/
def finiteText (coefficient : Nat) (power : Int) : List Char :=
  let ds := Nat.toDigits 10 coefficient
  let leading := power + ds.length - 1
  if power ≤ 0 ∧ -6 ≤ leading then
    let places := power.natAbs
    if places = 0 then ds
    else if ds.length ≤ places then
      '0' :: '.' :: (List.replicate (places - ds.length) '0' ++ ds)
    else ds.take (ds.length - places) ++ '.' :: ds.drop (ds.length - places)
  else
    ds.take 1 ++ (if ds.length ≤ 1 then [] else '.' :: ds.drop 1) ++
      ['E', if leading < 0 then '-' else '+'] ++ Nat.toDigits 10 leading.natAbs

/-- The text of a number; a not-a-number has no sign. -/
def render : Decimal128 → String
  | finite negative c p =>
    String.ofList (if negative then '-' :: finiteText c p else finiteText c p)
  | infinity negative => if negative then "-Infinity" else "Infinity"
  | nan _ _ => "NaN"

end Decimal128

end Strata.Decimal
