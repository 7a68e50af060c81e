import Strata.Text.Numeral

/-!
# Binary64 numbers

A `Double` is its sixty-four bits: a sign, an exponent field of eleven bits and a fraction of
fifty-two. Everything here is exact arithmetic on those fields: the number a finite word denotes is
`significand * 2 ^ exponent`, and `nearest` rounds any non-negative fraction to the closest word,
ties to an even significand.

Two comparisons are kept apart. `totalOrder` orders all words, the zeros and the not-a-numbers
included; `sameNumber` is equality of numbers, under which the zeros are equal and a not-a-number
equals nothing.
-/

namespace Strata.Decimal

/-- A binary64 number, held as its bits. -/
structure Double where
  bits : UInt64
  deriving DecidableEq, Repr, Inhabited

namespace Double

/-- The bits without the sign, as a number below `2 ^ 63`. -/
def magnitude (d : Double) : Nat := d.bits.toNat % 2 ^ 63

/-- Whether the sign bit is set. -/
def isNegative (d : Double) : Bool := 2 ^ 63 ≤ d.bits.toNat

/-- The magnitude of infinity; larger magnitudes are not numbers. -/
def infinityMagnitude : Nat := 2047 * 2 ^ 52

/-- The word with a sign and a magnitude. -/
def ofMagnitude (negative : Bool) (magnitude : Nat) : Double :=
  ⟨UInt64.ofNat (if negative then 2 ^ 63 + magnitude else magnitude)⟩

/-- Infinity with a sign. -/
def infinity (negative : Bool) : Double := ofMagnitude negative infinityMagnitude

/-- The not-a-number that texts denote. -/
def nan (negative : Bool) : Double := ofMagnitude negative (infinityMagnitude + 2 ^ 51)

/-- Zero with a sign. -/
def zero (negative : Bool) : Double := ofMagnitude negative 0

/-- Words beyond infinity are no numbers. -/
def isNaN (d : Double) : Bool := infinityMagnitude < d.magnitude

/-- Whether a word is infinity, of either sign. -/
def isInfinite (d : Double) : Bool := d.magnitude == infinityMagnitude

/-- Whether a word is a number below infinity. -/
def isFinite (d : Double) : Bool := d.magnitude < infinityMagnitude

/-- Whether a word is zero, of either sign. -/
def isZero (d : Double) : Bool := d.magnitude == 0

/-- The exponent field. -/
def exponentField (d : Double) : Nat := d.magnitude / 2 ^ 52

/-- The significand: the fraction, with the hidden bit in front of it unless the exponent field is
zero. -/
def significand (d : Double) : Nat :=
  if d.exponentField = 0 then d.magnitude % 2 ^ 52 else 2 ^ 52 + d.magnitude % 2 ^ 52

/-- The power of two that multiplies the significand. -/
def exponent (d : Double) : Int :=
  if d.exponentField = 0 then -1074 else (d.exponentField : Int) - 1075

/-- Place of a word in the total order of all words: negative words come before the positive
ones, and the larger ones of them first. -/
def orderKey (d : Double) : Int :=
  if d.isNegative then -(d.magnitude : Int) - 1 else d.magnitude

/-- The total order of all words. -/
def totalOrder (a b : Double) : Ordering := compare a.orderKey b.orderKey

/-- Equality of the numbers denoted. -/
def sameNumber (a b : Double) : Bool :=
  !a.isNaN && !b.isNaN && (a.bits == b.bits || (a.isZero && b.isZero))

/-- `num / den` rounded to a whole number, a half going to the even neighbour. -/
def divideToEven (num den : Nat) : Nat :=
  let q := num / den
  let r := num % den
  if 2 * r < den then q
  else if 2 * r > den then q + 1
  else if q % 2 = 0 then q else q + 1

/-- The largest `e` with `2 ^ e ≤ num / den`, for a positive fraction. -/
def floorLog2 (num den : Nat) : Int :=
  let e : Int := (num.log2 : Int) - (den.log2 : Int)
  let atLeast : Bool :=
    if 0 ≤ e then den * 2 ^ e.toNat ≤ num else den ≤ num * 2 ^ (-e).toNat
  if atLeast then e else e - 1

/-- The magnitude closest to `num / den`: the fraction is measured in units of the spacing of words
around it and rounded, a half going to the even significand. A rounding up to the next power of two
carries into the exponent field by itself. -/
def nearestMagnitude (num den : Nat) : Nat :=
  if num = 0 then 0
  else
    let e := max (-1074) (floorLog2 num den - 52)
    let q := if 0 ≤ e then divideToEven num (den * 2 ^ e.toNat)
      else divideToEven (num * 2 ^ (-e).toNat) den
    min infinityMagnitude ((e + 1074).toNat * 2 ^ 52 + q)

/-- The word closest to a signed fraction. -/
def nearest (negative : Bool) (num den : Nat) : Double :=
  ofMagnitude negative (nearestMagnitude num den)

/-- The word closest to a whole number. -/
def ofInt (n : Int) : Double := nearest (n < 0) n.natAbs 1

/-- The word closest to `digits * 10 ^ exponent`. Numbers beyond every finite word, and numbers
below half of the smallest one, are recognised by their size, before any large power is formed. -/
def ofDecimal (negative : Bool) (digits : Nat) (exponent : Int) : Double :=
  if digits = 0 then zero negative
  else
    let size := (Nat.toDigits 10 digits).length
    if 400 < (size : Int) + exponent then infinity negative
    else if (size : Int) + exponent < -400 then zero negative
    else if 0 ≤ exponent then nearest negative (digits * 10 ^ exponent.toNat) 1
    else nearest negative digits (10 ^ (-exponent).toNat)

end Double

end Strata.Decimal
