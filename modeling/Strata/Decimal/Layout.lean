import Strata.Decimal.Shortest

/-!
# Layout of decimals

How a shortest decimal is spelled: where positional notation ends, whether a whole number keeps a
point and a zero, and how the words without digits are written. A `Layout` holds these choices; the
formats of the library are values of it.
-/

namespace Strata.Decimal

/-- The choices of a format for numbers. -/
structure Layout where
  /-- what to do with two equally close shortest decimals -/
  tie : Tie
  /-- the least and greatest power of ten of a leading digit written positionally; without bounds
  all numbers are -/
  positional : Option (Int × Int)
  /-- whether a whole number in positional notation ends in `.0` -/
  pointZero : Bool
  nan : String
  infinity : String

/-- Digits with a point after the first `point` of them, filled with zeros where digits are
missing. -/
def placePoint (ds : List Char) (point : Int) (pointZero : Bool) : List Char :=
  if point ≤ 0 then '0' :: '.' :: (List.replicate (-point).toNat '0' ++ ds)
  else if (ds.length : Int) ≤ point then
    ds ++ List.replicate (point.toNat - ds.length) '0' ++ (if pointZero then ['.', '0'] else [])
  else ds.take point.toNat ++ '.' :: ds.drop point.toNat

/-- One digit, the others behind a point, and a signed power of ten. -/
def scientific (ds : List Char) (power : Int) : List Char :=
  ds.take 1 ++ (if ds.length ≤ 1 then [] else '.' :: ds.drop 1) ++
    ['e', if power < 0 then '-' else '+'] ++ Nat.toDigits 10 power.natAbs

/-- The characters of a number without its sign. -/
def Layout.unsigned (l : Layout) (d : Double) : List Char :=
  if d.isNaN then l.nan.toList
  else if d.isInfinite then l.infinity.toList
  else if d.isZero then placePoint ['0'] 1 l.pointZero
  else
    let s := d.shortest l.tie
    let ds := Nat.toDigits 10 s.digits
    let point := s.exponent + ds.length
    match l.positional with
    | none => placePoint ds point l.pointZero
    | some (lo, hi) =>
      if lo ≤ point - 1 ∧ point - 1 ≤ hi then placePoint ds point l.pointZero
      else scientific ds (point - 1)

/-- The text of a number; a not-a-number has no sign. -/
def Layout.render (l : Layout) (d : Double) : String :=
  String.ofList <|
    if d.isNegative && !d.isNaN then '-' :: l.unsigned d else l.unsigned d

/-- Numbers of interchange texts: positional from `1e-5` to below `1e16`, always with a point or an
exponent so that they read back as fractions. -/
def interchange : Layout := ⟨.even, some (-5, 15), true, "null", "null"⟩

/-- Numbers for people: always positional, whole numbers without a point. -/
def plain : Layout := ⟨.up, none, false, "NaN", "inf"⟩

end Strata.Decimal
