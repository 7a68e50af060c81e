import Strata.Calendar
import Strata.Json.Basic
import Strata.Value.Extended

/-!
# Plain JSON

Results are given to clients as plain JSON: identifiers as hexadecimal text, dates as timestamps,
numbers as numbers. A number that JSON cannot hold and a date outside the calendar become null; the
kinds without a plain form keep their extended one.
-/

namespace Strata

namespace Value

/-- The first moment of the calendar, at the start of the year -262143. -/
def firstMoment : Int := -8334601228800000

/-- The last moment of the calendar, at the end of the year 262142. -/
def lastMoment : Int := 8210266876799999

/-- The timestamp of a date. -/
def dateToPlain (ms : Int) : Json :=
  if firstMoment ≤ ms ∧ ms ≤ lastMoment then .str (Calendar.Moment.ofMillis ms).timestamp else .null

mutual

/-- The plain JSON of a value. -/
def toPlain : Value → Json
  | null => .null
  | undefined => .null
  | bool b => .bool b
  | int32 n => .int n.toInt
  | int64 n => .int n.toInt
  | double d => if d.isFinite then .real d else .null
  | string s => .str s
  | symbol s => .str s
  | array items => .arr (itemsToPlain items)
  | document fields => Json.object (fieldsToPlain fields)
  | objectId id => .str id.toHex
  | dateTime ms => dateToPlain ms.toInt
  | v => v.toExtended

/-- The items of an array. -/
def itemsToPlain : List Value → List Json
  | [] => []
  | v :: rest => toPlain v :: itemsToPlain rest

/-- The fields of a document. -/
def fieldsToPlain : List (String × Value) → List (String × Json)
  | [] => []
  | (k, v) :: rest => (k, toPlain v) :: fieldsToPlain rest

end

end Value

/-- The plain JSON of a document. -/
def Document.toPlain (d : Document) : Json := Json.object (Value.fieldsToPlain d)

end Strata
