import Strata.Store.Filter
import Strata.Store.Sorting

/-!
# Running pipelines

A stage becomes a function on rows, given the records of every level. All that can fail is found
before the first record is read: a pattern that does not compile. What a lookup binds are the values
that its row has at the given paths; null and missing values stay unbound, and nothing correlates
with them.
-/

namespace Strata

/-- The records of each level. -/
abbrev Records := Level → List Document

/-- What stages do to rows, under bindings. -/
abbrev Transform := Bindings → List Document → List Document

/-- The row under a projection: the fields that have a value, in the order of the projection. -/
def projectRow (fields : List Projected) (row : Document) : Document :=
  Document.ofFields (fields.filterMap fun f =>
    (match f.source with
      | .keep => row.getPath? f.name
      | .path p => row.resolve? p).map fun v => (f.name, v))

/-- The rows of the items of a list. A row without items stays without the field; a value that is no
list counts as a list of one. -/
def unwindRow (field : String) (row : Document) : List Document :=
  let others := row.erase field
  match row.get? field with
  | none | some .null | some (.array []) => [others]
  | some (.array items) => items.map (others.insert field)
  | some v => [others.insert field v]

/-- A path without the dollar sign in front. -/
def withoutDollar (path : String) : String :=
  match path.toList with
  | '$' :: rest => String.ofList rest
  | _ => path

/-- The binding of a variable by a row. -/
def bindOne (row : Document) (v : Variable) : Option (String × Value) :=
  match row.getPath? (withoutDollar v.path) with
  | none | some .null => none
  | some value => some (v.name, value)

/-- The bindings by a row; the last of one name counts. -/
def bind (vars : List Variable) (row : Document) : Bindings :=
  (vars.filterMap (bindOne row)).reverse

mutual

/-- What a stage does. -/
def Stage.transform (records : Records) : Stage → Except Fault Transform
  | .filter p =>
    match p.test with
    | .error e => .error e
    | .ok holds => .ok fun bound rows => rows.filter (holds bound)
  | .sort keys => .ok fun _ rows => sortRows keys rows
  | .limit n => .ok fun _ rows => rows.take n
  | .lookup level vars pipeline target =>
    match pipelineTransform records pipeline with
    | .error e => .error e
    | .ok run => .ok fun _ rows => rows.map fun row =>
      row.insert target (.array ((run (bind vars row) (records level)).map .document))
  | .unwind field => .ok fun _ rows => rows.flatMap (unwindRow field)
  | .project fields => .ok fun _ rows => rows.map (projectRow fields)

/-- What stages do one after the other. -/
def pipelineTransform (records : Records) : List Stage → Except Fault Transform
  | [] => .ok fun _ rows => rows
  | s :: rest =>
    match Stage.transform records s with
    | .error e => .error e
    | .ok first =>
      match pipelineTransform records rest with
      | .error e => .error e
      | .ok others => .ok fun bound rows => others bound (first bound rows)

end

/-- The fault of a run that takes longer than it may. -/
def timeLimit : Fault := .execution "operation exceeded time limit"

/-- The rows that a pipeline gives for a level. A run may take `budget` milliseconds; within any
positive budget it is taken to finish. -/
def aggregate (records : Records) (level : Level) (pipeline : List Stage) (budget : Nat) :
    Except Fault (List Document) :=
  match pipelineTransform records pipeline with
  | .error e => .error e
  | .ok run => if budget = 0 then .error timeLimit else .ok (run [] (records level))

end Strata
