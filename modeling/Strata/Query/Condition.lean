import Strata.Decimal.Literal
import Strata.Fault
import Strata.Pattern
import Strata.Text.Numeral
import Strata.Query.Stage
import Strata.Text.Basic

/-!
# Conditions

A condition names a field, an operator and a text. The text of a comparison is read as a scalar:
`true` and `false` are booleans, decimal literals are numbers of the narrowest kind that holds them,
all else is the text without the blanks around it. Conditions are checked against the allowlist
before any of them is turned into a predicate.
-/

namespace Strata

open Text Decimal

/-- A condition of a request. -/
structure Condition where
  field : String
  op : Operator
  value : String
  deriving DecidableEq, Repr, Inhabited

/-- The most values of a condition that lists values. -/
def maxListed : Nat := 1000

/-- The largest footprint of a pattern in a condition. -/
def patternLimit : Nat := 2 ^ 16

/-! ## Scalars -/

/-- Whether characters are digits, or digits with one point between them. -/
def isUnsignedDecimal (cs : List Char) : Bool :=
  match splitOnce? '.' cs with
  | none => Numeral.isDigits cs
  | some (whole, fraction) => Numeral.isDigits whole && Numeral.isDigits fraction

/-- Whether characters are a decimal literal, with a minus sign or without. -/
def isDecimal : List Char → Bool
  | '-' :: cs => isUnsignedDecimal cs
  | cs => isUnsignedDecimal cs

/-- Reads a decimal literal as a number of the narrowest kind that holds it. -/
def readDecimal (text : String) : Value :=
  let whole := if text.toList.contains '.' then none else Numeral.int64? text
  match whole with
  | some n => Value.ofInt n
  | none =>
    match Double.ofText? text with
    | some d => .double d
    | none => .string text

/-- Reads a scalar. -/
def readScalar (text : String) : Value :=
  let t := Text.trim text
  if t = "true" then .bool true
  else if t = "false" then .bool false
  else if isDecimal t.toList then readDecimal t
  else .string t

/-- The values listed in a text: what stands between commas and is not blank. -/
def listed (text : String) : List String :=
  ((split ',' text.toList).map fun cs => String.ofList (trimChars cs)).filter (!·.isEmpty)

/-! ## Checking and compiling -/

namespace Condition

/-- Checks the value of a condition on a field that may be used with its operator. -/
def checkValue (level : Level) (c : Condition) : Except Fault Unit :=
  match c.op with
  | .contains =>
    match Pattern.compile c.value true patternLimit with
    | .ok _ => .ok ()
    | .error e => .error (.invalidPattern level c.field e.message)
  | .within =>
    let n := (listed c.value).length
    if n ≤ maxListed then .ok ()
    else .error (.validation [⟨level.name ++ "." ++ c.field,
      s!"'in' accepts at most {maxListed} values, got {n}"⟩])
  | _ => .ok ()

/-- Checks a condition: its field, its operator and then its value. -/
def check (level : Level) (c : Condition) : Except Fault Unit :=
  match level.operators? c.field with
  | none => .error (.fieldNotFilterable level c.field)
  | some ops =>
    if ops.contains c.op then c.checkValue level
    else .error (.operatorNotAllowed level c.field c.op)

/-- The predicate of a condition. -/
def toPredicate (c : Condition) : Predicate :=
  match c.op with
  | .eq => .compare c.field .eq (readScalar c.value)
  | .ne => .compare c.field .ne (readScalar c.value)
  | .gt => .compare c.field .gt (readScalar c.value)
  | .gte => .compare c.field .gte (readScalar c.value)
  | .lt => .compare c.field .lt (readScalar c.value)
  | .lte => .compare c.field .lte (readScalar c.value)
  | .contains => .pattern c.field c.value true
  | .within => .oneOf c.field ((listed c.value).map readScalar)

end Condition

/-- Checks conditions one after the other. -/
def checkConditions (level : Level) : List Condition → Except Fault Unit
  | [] => .ok ()
  | c :: rest =>
    match c.check level with
    | .error e => .error e
    | .ok () => checkConditions level rest

/-- The predicate of all conditions of a level; none if there are no conditions. -/
def compileConditions (level : Level) (conditions : List Condition) :
    Except Fault (Option Predicate) :=
  match checkConditions level conditions with
  | .error e => .error e
  | .ok () =>
    if conditions.isEmpty then .ok none
    else .ok (some (.all (conditions.map Condition.toPredicate)))

end Strata
