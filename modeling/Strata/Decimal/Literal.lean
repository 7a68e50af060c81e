import Strata.Text.Numeral
import Strata.Decimal.Double

/-!
# Decimal literals

A decimal literal is a row of digits with an optional fraction and an optional power of ten. It
denotes `digits * 10 ^ exponent` exactly and is rounded once, to the nearest word. `Double.ofText?`
reads the wider set of texts that are accepted where a number is given in quotes: a sign of either
kind, a missing integer part or fraction, and the names of infinity and not-a-number in any case.
-/

namespace Strata.Decimal

open Strata.Text

/-- A number as written: sign, digits before and behind the point, and the power of ten. -/
structure Literal where
  negative : Bool
  whole : List Char
  fraction : List Char
  power : Int

/-- The word closest to the literal. -/
def Literal.toDouble (l : Literal) : Double :=
  Double.ofDecimal l.negative (Numeral.ofDigits (l.whole ++ l.fraction))
    (l.power - l.fraction.length)

/-- A power of ten: a sign of either kind or none, and at least one digit. -/
def power? : List Char → Option Int := Numeral.intChars?

/-- Digits, a point, digits, and a power of ten, where any part but one of the digit rows may be
missing. -/
def unsignedLiteral? (negative : Bool) (cs : List Char) : Option Literal :=
  let whole := cs.takeWhile Numeral.isDigit
  let rest := cs.dropWhile Numeral.isDigit
  let fraction := match rest with
    | '.' :: r => r.takeWhile Numeral.isDigit
    | _ => []
  let rest := match rest with
    | '.' :: r => r.dropWhile Numeral.isDigit
    | r => r
  if whole.isEmpty && fraction.isEmpty then none
  else match rest with
    | [] => some ⟨negative, whole, fraction, 0⟩
    | c :: r => if c = 'e' ∨ c = 'E' then (power? r).map fun p => ⟨negative, whole, fraction, p⟩
      else none

/-- A number without its sign. -/
def unsignedDouble? (negative : Bool) (cs : List Char) : Option Double :=
  let name := String.ofList (cs.map Char.toLower)
  if name = "inf" ∨ name = "infinity" then some (Double.infinity negative)
  else if name = "nan" then some (Double.nan negative)
  else (unsignedLiteral? negative cs).map Literal.toDouble

/-- Reads a number in quotes. -/
def Double.ofText? (s : String) : Option Double :=
  match s.toList with
  | '-' :: cs => unsignedDouble? true cs
  | '+' :: cs => unsignedDouble? false cs
  | cs => unsignedDouble? false cs

end Strata.Decimal
