/-!
# Numerals

Decimal numerals of whole numbers as settings and wire formats hold them: an optional sign and at
least one digit, nothing else. A numeral outside the range asked for is refused.

The bounds of such ranges are powers. The theory of this library knows the numbers as monoids, and a
monoid brings powers of its own; `corePow` prefers those of the core library, so that a power means the
same in every module, whatever it imports.
-/

namespace Strata

/-- The powers of the core library, where there are several. -/
@[default_instance 20000, reducible]
instance (priority := 20000) corePow {α : Type} [NatPow α] : Pow α Nat := instPowNat

end Strata

namespace Strata.Text.Numeral

/-- One of `0` to `9`. -/
def isDigit (c : Char) : Bool :=
  48 ≤ c.toNat && c.toNat ≤ 57

/-- The value of a digit. -/
def digitValue (c : Char) : Nat := c.toNat - 48

/-- The number that a row of digits denotes, with `acc` written in front. -/
def foldDigits (acc : Nat) (cs : List Char) : Nat :=
  cs.foldl (fun n c => 10 * n + digitValue c) acc

/-- The number that a row of digits denotes. -/
def ofDigits (cs : List Char) : Nat := foldDigits 0 cs

/-- At least one digit and nothing else. -/
def isDigits (cs : List Char) : Bool :=
  !cs.isEmpty && cs.all isDigit

/-- A signed numeral. -/
def intChars? (cs : List Char) : Option Int :=
  match cs with
  | '-' :: ds => if isDigits ds then some (-(ofDigits ds : Int)) else none
  | '+' :: ds => if isDigits ds then some (ofDigits ds : Int) else none
  | ds => if isDigits ds then some (ofDigits ds : Int) else none

/-- An unsigned numeral; a plus sign is allowed. -/
def natChars? (cs : List Char) : Option Nat :=
  match cs with
  | '+' :: ds => if isDigits ds then some (ofDigits ds) else none
  | ds => if isDigits ds then some (ofDigits ds) else none

/-- A signed numeral between two bounds. -/
def intWithin? (lo hi : Int) (s : String) : Option Int :=
  (intChars? s.toList).filter fun n => decide (lo ≤ n ∧ n ≤ hi)

/-- An unsigned numeral below a bound. -/
def natBelow? (bound : Nat) (s : String) : Option Nat :=
  (natChars? s.toList).filter fun n => decide (n < bound)

/-- A signed numeral of 32 bits. -/
def int32? (s : String) : Option Int := intWithin? (-2 ^ 31) (2 ^ 31 - 1) s

/-- A signed numeral of 64 bits. -/
def int64? (s : String) : Option Int := intWithin? (-2 ^ 63) (2 ^ 63 - 1) s

/-- The digits of a number, with zeros in front up to `width` digits. -/
def padded (width n : Nat) : String :=
  let ds := Nat.toDigits 10 n
  String.ofList (List.replicate (width - ds.length) '0' ++ ds)

end Strata.Text.Numeral
