import Strata.Registry.Level
import Strata.Value.Basic

/-!
# Pipelines

A pipeline is a list of stages; each takes rows and gives rows. A lookup runs a pipeline of its own
on another level for every row, with variables bound from that row.
-/

namespace Strata

/-- The direction of a sort. -/
inductive Direction where
  | asc
  | desc
  deriving DecidableEq, Repr, Inhabited

namespace Direction

/-- The name of a direction. -/
def name : Direction → String
  | asc => "asc"
  | desc => "desc"

/-- The direction of a name. -/
def ofName? (s : String) : Option Direction :=
  if s = "asc" then some asc else if s = "desc" then some desc else none

/-- An ordering as the direction sees it. -/
def apply : Direction → Ordering → Ordering
  | asc, o => o
  | desc, o => o.swap

end Direction

/-- A field to sort by. -/
structure SortKey where
  field : String
  direction : Direction
  deriving DecidableEq, Repr

/-- How a condition compares two values. -/
inductive Comparison where
  | eq
  | ne
  | gt
  | gte
  | lt
  | lte
  deriving DecidableEq, Repr

/-- What a row has to satisfy. -/
inductive Predicate where
  /-- all parts hold -/
  | all (parts : List Predicate)
  | compare (path : String) (op : Comparison) (value : Value)
  | oneOf (path : String) (values : List Value)
  | pattern (path text : String) (ignoreCase : Bool)
  /-- each field equals the variable bound from the row above; pairs of field and variable -/
  | correlate (pairs : List (String × String))
  deriving Inhabited

/-- A variable bound from the row above: its name, and the path of its value after a dollar sign. -/
structure Variable where
  name : String
  path : String
  deriving DecidableEq, Repr

/-- Where a projected field comes from. -/
inductive Source where
  /-- the field of the same name -/
  | keep
  /-- computed from a path -/
  | path (path : String)
  deriving DecidableEq, Repr

/-- A field of a projection. -/
structure Projected where
  name : String
  source : Source
  deriving DecidableEq, Repr

/-- A step of a pipeline. -/
inductive Stage where
  | filter (condition : Predicate)
  | sort (keys : List SortKey)
  | limit (count : Nat)
  /-- lists under `target` what the pipeline gives for the rows of a level -/
  | lookup (level : Level) (vars : List Variable) (pipeline : List Stage) (target : String)
  /-- a row for each item of a list; rows without items stay, without the field -/
  | unwind (field : String)
  | project (fields : List Projected)
  deriving Inhabited

/-- Whether a stage is a projection. -/
def Stage.isProject : Stage → Bool
  | project _ => true
  | _ => false

end Strata
