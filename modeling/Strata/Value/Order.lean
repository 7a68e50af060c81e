import Strata.Value.Basic

/-!
# Order of values

Three relations on values. `equal` is what equality conditions and joins use: numbers of any kind
are compared with each other, everything else only within its kind. `compareWithin?` is what
ordering conditions use: it compares two values of one *bracket* (numbers, strings, booleans,
identifiers, dates) and nothing else. `order` is what sorting uses: within a bracket as before, and
otherwise by the rank of the kinds.

Whole numbers are compared exactly; as soon as a binary64 number takes part, the other number is
rounded to binary64 first.
-/

namespace Strata.Value

open Decimal

/-- The order of two numbers; values that are no numbers count as equal. -/
def compareNumbers (a b : Value) : Ordering :=
  match a.toInt?, b.toInt? with
  | some m, some n => compare m n
  | _, _ =>
    match a.toDouble?, b.toDouble? with
    | some x, some y => x.totalOrder y
    | _, _ => .eq

/-- Equality across the kinds of numbers, and within a kind otherwise. -/
def equal (a b : Value) : Bool :=
  if a.isNumber && b.isNumber then compareNumbers a b == .eq else a.same b

/-- The order of two values of one bracket. -/
def compareWithin? (a b : Value) : Option Ordering :=
  if a.isNumber && b.isNumber then some (compareNumbers a b)
  else match a, b with
    | string s, string t => some (compare s t)
    | bool s, bool t => some (compare s t)
    | objectId i, objectId j => some (compare i.toNat j.toNat)
    | dateTime s, dateTime t => some (compare s.toInt t.toInt)
    | _, _ => none

/-- The place of a kind among the kinds. -/
def rank : Value → Nat
  | minKey => 0
  | null | undefined => 1
  | int32 _ | int64 _ | double _ | decimal _ => 2
  | string _ | symbol _ => 3
  | document _ => 4
  | array _ => 5
  | binary _ _ => 6
  | objectId _ => 7
  | bool _ => 8
  | dateTime _ => 9
  | timestamp _ _ => 10
  | regex _ _ => 11
  | pointer _ _ => 12
  | code _ | scopedCode _ _ => 13
  | maxKey => 255

/-- The order of sort stages. Values of one rank that are in no common bracket are ties. -/
def order (a b : Value) : Ordering :=
  (compareWithin? a b).getD (compare a.rank b.rank)

end Strata.Value
