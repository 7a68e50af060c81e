import Strata.Decimal.Decimal128
import Strata.Decimal.Double
import Strata.Text.Numeral
import Strata.Text.Hex

/-!
# Document values

The dynamic values that documents hold. A document is a list of fields; the functions here keep its
keys distinct and its fields in the order in which they were first given.
-/

namespace Strata

open Decimal Text

/-- An identifier of twelve bytes. -/
structure ObjectId where
  bits : BitVec 96
  deriving DecidableEq, Repr, Inhabited

namespace ObjectId

/-- The twelve bytes as a number, the first byte highest. -/
def toNat (id : ObjectId) : Nat := id.bits.toNat

/-- The identifier of a number, taken modulo the number of identifiers. -/
def ofNat (n : Nat) : ObjectId := ⟨BitVec.ofNat 96 n⟩

/-- Twenty-four lower-case hexadecimal digits. -/
def toHex (id : ObjectId) : String := Hex.padded 24 id.toNat

/-- Reads twenty-four hexadecimal digits of either case. -/
def ofHex? (s : String) : Option ObjectId :=
  if s.length = 24 then
    (s.toList.mapM Hex.digitValue?).map fun ds => ofNat (ds.foldl (fun n d => 16 * n + d) 0)
  else none

end ObjectId

/-- A value of a document. -/
inductive Value where
  | null
  | undefined
  | bool (b : Bool)
  | int32 (n : Int32)
  | int64 (n : Int64)
  | double (d : Double)
  | decimal (d : Decimal128)
  | string (s : String)
  | symbol (s : String)
  | document (fields : List (String × Value))
  | array (items : List Value)
  | binary (kind : UInt8) (bytes : List UInt8)
  | objectId (id : ObjectId)
  /-- milliseconds since the start of 1970 -/
  | dateTime (millis : Int64)
  | timestamp (time increment : UInt32)
  | regex (pattern options : String)
  | pointer (space : String) (id : ObjectId)
  | code (text : String)
  | scopedCode (text : String) (scope : List (String × Value))
  | minKey
  | maxKey
  deriving Inhabited

/-- A document: fields with distinct keys, in order. -/
abbrev Document := List (String × Value)

namespace Document

/-- The value of a key. -/
def get? (d : Document) (key : String) : Option Value := d.lookup key

/-- Sets a key: in its place if it is there, else as the last field. -/
def insert (d : Document) (key : String) (v : Value) : Document :=
  match d with
  | [] => [(key, v)]
  | (k, w) :: rest => if k = key then (k, v) :: rest else (k, w) :: insert rest key v

/-- The document without a key. -/
def erase (d : Document) (key : String) : Document :=
  d.filter fun f => f.1 != key

/-- The keys in order. -/
def keys (d : Document) : List String := d.map (·.1)

/-- The document with fields put in one after the other. -/
def ofFields (fields : List (String × Value)) : Document :=
  fields.foldl (fun d f => insert d f.1 f.2) []

end Document

namespace Value

/-- Whole numbers and binary64 numbers. -/
def isNumber : Value → Bool
  | int32 _ | int64 _ | double _ => true
  | _ => false

/-- The whole number, for the two kinds of whole numbers. -/
def toInt? : Value → Option Int
  | int32 n => some n.toInt
  | int64 n => some n.toInt
  | _ => none

/-- The number as binary64, rounded if it is a large whole number. -/
def toDouble? : Value → Option Double
  | int32 n => some (Double.ofInt n.toInt)
  | int64 n => some (Double.ofInt n.toInt)
  | double d => some d
  | _ => none

/-- A whole number in the narrower kind that holds it. -/
def ofInt (n : Int) : Value :=
  if -2 ^ 31 ≤ n ∧ n < 2 ^ 31 then int32 (Int32.ofInt n) else int64 (Int64.ofInt n)

mutual

/-- Equality of values of one kind. Binary64 numbers are compared as numbers, so a not-a-number
differs from itself, and the order of a document's fields does not matter. -/
def same : Value → Value → Bool
  | null, null => true
  | undefined, undefined => true
  | bool a, bool b => a == b
  | int32 a, int32 b => a == b
  | int64 a, int64 b => a == b
  | double a, double b => a.sameNumber b
  | decimal a, decimal b => decide (a = b)
  | string a, string b => a == b
  | symbol a, symbol b => a == b
  | document a, document b => a.length == b.length && sameFields a b
  | array a, array b => sameItems a b
  | binary k a, binary l b => k == l && a == b
  | objectId a, objectId b => decide (a = b)
  | dateTime a, dateTime b => a == b
  | timestamp a b, timestamp c d => a == c && b == d
  | regex a b, regex c d => a == c && b == d
  | pointer a b, pointer c d => a == c && decide (b = d)
  | code a, code b => a == b
  | scopedCode a s, scopedCode b t => a == b && (s.length == t.length && sameFields s t)
  | minKey, minKey => true
  | maxKey, maxKey => true
  | _, _ => false

/-- Every field of the first document has an equal one in the second. -/
def sameFields : List (String × Value) → List (String × Value) → Bool
  | [], _ => true
  | (k, v) :: rest, other =>
    (match other.lookup k with
      | some w => same v w
      | none => false) && sameFields rest other

/-- The same values in the same order. -/
def sameItems : List Value → List Value → Bool
  | [], [] => true
  | v :: vs, w :: ws => same v w && sameItems vs ws
  | _, _ => false

end

end Value

end Strata
