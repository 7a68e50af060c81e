import Strata.Fault
import Strata.Pattern
import Strata.Query.Stage
import Strata.Text.Quoted
import Strata.Value.Order
import Strata.Value.Path

/-!
# Filters

A predicate becomes a test of rows. Its patterns are compiled once, and this is all that can fail.
A comparison holds if it holds for one of the values that its path leads to; `ne` is the opposite of
`eq`, and `eq` with null also holds where the path leads nowhere.
-/

namespace Strata

/-- The values bound from the row above. -/
abbrev Bindings := List (String × Value)

/-- A test of rows under bindings. -/
abbrev RowTest := Bindings → Document → Bool

namespace Comparison

/-- Whether one of some values equals a value. -/
def anyEqual (candidates : List Value) (value : Value) : Bool :=
  candidates.any (fun c => c.equal value) ||
    match value with
    | .null => candidates.isEmpty
    | _ => false

/-- Whether one of some values stands in an order relation to a value. -/
def anyOrdered (candidates : List Value) (value : Value) (wanted : Ordering → Bool) : Bool :=
  candidates.any fun c => (c.compareWithin? value).any wanted

/-- Whether a comparison with a value holds for one of some values. -/
def holds (op : Comparison) (candidates : List Value) (value : Value) : Bool :=
  match op with
  | eq => anyEqual candidates value
  | ne => !anyEqual candidates value
  | gt => anyOrdered candidates value Ordering.isGT
  | gte => anyOrdered candidates value Ordering.isGE
  | lt => anyOrdered candidates value Ordering.isLT
  | lte => anyOrdered candidates value Ordering.isLE

end Comparison

/-- Whether a field of a row equals the variable bound from the row above. -/
def correlates (bound : Bindings) (row : Document) (pair : String × String) : Bool :=
  match row.getPath? pair.1, bound.lookup pair.2 with
  | some v, some w => v.equal w
  | _, _ => false

/-- Whether a value is a text that a pattern matches. -/
def Value.matchesPattern (p : Pattern) : Value → Bool
  | string s => p.isMatch s
  | _ => false

namespace Predicate

mutual

/-- The test of a predicate. -/
def test : Predicate → Except Fault RowTest
  | all parts => testAll parts
  | compare path op value => .ok fun _ row => op.holds (row.candidates path) value
  | oneOf path values =>
    .ok fun _ row => (row.candidates path).any fun c => values.any fun v => c.equal v
  | pattern path text ignoreCase =>
    match Pattern.compile text ignoreCase with
    | .error e => .error (.execution ("pattern " ++ Text.Quoted.quote text ++ ": " ++ e.message))
    | .ok p => .ok fun _ row => (row.candidates path).any (Value.matchesPattern p)
  | correlate pairs => .ok fun bound row => pairs.all (correlates bound row)

/-- The test that all predicates hold. -/
def testAll : List Predicate → Except Fault RowTest
  | [] => .ok fun _ _ => true
  | p :: rest =>
    match test p with
    | .error e => .error e
    | .ok first =>
      match testAll rest with
      | .error e => .error e
      | .ok others => .ok fun bound row => first bound row && others bound row

end

end Predicate

end Strata
