import Strata.Decimal.Double
import Strata.Text.Numeral

/-!
# JSON values

Whole numbers that fit 64 bits, signed or unsigned, are kept apart from all other numbers, which are
binary64. The members of an object are in ascending order of their keys, by code point, and each key
occurs once: `Json.object` brings members into this form, a later member replacing an earlier one of
the same key.
-/

namespace Strata

open Decimal

/-- A JSON value. -/
inductive Json where
  | null
  | bool (b : Bool)
  | int (n : Int)
  | real (d : Double)
  | str (s : String)
  | arr (items : List Json)
  | obj (members : List (String × Json))
  deriving Inhabited

namespace Json

/-- Whether a whole number is kept as one. -/
def isWord (n : Int) : Bool := -2 ^ 63 ≤ n && n < 2 ^ 64

/-- Puts a member in its place among members in ascending order. -/
def insertMember {α : Type} (key : String) (value : α) : List (String × α) → List (String × α)
  | [] => [(key, value)]
  | (k, v) :: rest =>
    if key < k then (key, value) :: (k, v) :: rest
    else if key = k then (key, value) :: rest
    else (k, v) :: insertMember key value rest

/-- The members in ascending order, the last of each key. -/
def sortMembers {α : Type} (members : List (String × α)) : List (String × α) :=
  members.foldl (fun sorted m => insertMember m.1 m.2 sorted) []

/-- The object with the given members. -/
def object (members : List (String × Json)) : Json := obj (sortMembers members)

/-- The value of a key. -/
def get? : Json → String → Option Json
  | obj members, key => members.lookup key
  | _, _ => none

end Json

end Strata
