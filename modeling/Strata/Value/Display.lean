import Strata.Text.Base64
import Strata.Decimal.Layout
import Strata.Calendar
import Strata.Value.Basic

/-!
# Values shown to people

The spelling of values in plain output and in messages: documents and arrays on one line, strings in
quotes as they are, and identifiers, dates and symbols under their name.
-/

namespace Strata

open Decimal Text

namespace Value

/-- A date: years of more than six digits are shown as milliseconds. -/
def showDate (ms : Int) : String :=
  let m := Calendar.Moment.ofMillis ms
  if -999999 ≤ m.date.year ∧ m.date.year ≤ 999999 then m.display else toString ms

mutual

/-- The spelling of a value. -/
def display : Value → String
  | null => "null"
  | undefined => "undefined"
  | bool b => if b then "true" else "false"
  | int32 n => toString n.toInt
  | int64 n => toString n.toInt
  | double d => plain.render d
  | decimal d => d.render
  | string s => "\"" ++ s ++ "\""
  | symbol s => "Symbol(\"" ++ s ++ "\")"
  | document fields => "\x7b" ++ displayFields true fields
  | array items => "[" ++ displayItems items ++ "]"
  | binary kind bytes =>
    "Binary(0x" ++ Hex.ofNat kind.toNat ++ ", " ++ Base64.standard.encode bytes ++ ")"
  | objectId id => "ObjectId(\"" ++ id.toHex ++ "\")"
  | dateTime ms => "DateTime(\"" ++ showDate ms.toInt ++ "\")"
  | timestamp t i => "Timestamp(" ++ toString t.toNat ++ ", " ++ toString i.toNat ++ ")"
  | regex p o => "/" ++ p ++ "/" ++ o
  | pointer r id => "DbPointer(" ++ r ++ ", " ++ id.toHex ++ ")"
  | code t => t
  | scopedCode t _ => t
  | minKey => "MinKey"
  | maxKey => "MaxKey"

/-- Items separated by commas. -/
def displayItems : List Value → String
  | [] => ""
  | [v] => display v
  | v :: rest => display v ++ ", " ++ displayItems rest

/-- The fields of a document and the closing brace; the flag tells whether it is the first field. -/
def displayFields (first : Bool) : List (String × Value) → String
  | [] => if first then "\x7d" else " \x7d"
  | (k, v) :: rest =>
    (if first then " " else ", ") ++ "\"" ++ k ++ "\": " ++ display v ++ displayFields false rest

end

end Value

/-- The spelling of a document. -/
def Document.display (d : Document) : String := "\x7b" ++ Value.displayFields true d

end Strata
