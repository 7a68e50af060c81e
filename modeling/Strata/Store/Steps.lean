import Strata.Store.Execution

/-!
# Steps

A run has two phases. Stages become *steps*, whose patterns are compiled; then the steps go over the
rows. What a store holds is not copied before the first step: a filter in front is applied while the
rows are read, and all other steps take the rows that have been read. A lookup begins anew for each of
its rows, with the records of its level to read and with variables of its own.

How rows are sorted is left open in `runAllWith`. Its sort may break off, and then so does the run.
-/

namespace Strata

/-! ## Planning and running -/

/-- A stage that is ready to run: its patterns are compiled. -/
inductive Step where
  | filter (holds : RowTest)
  | sort (keys : List SortKey)
  | limit (count : Nat)
  | lookup (level : Level) (vars : List Variable) (steps : List Step) (target : String)
  | unwind (field : String)
  | project (fields : List Projected)

mutual

/-- The step of a stage. -/
def Stage.plan : Stage → Except Fault Step
  | .filter p =>
    match p.test with
    | .error e => .error e
    | .ok holds => .ok (.filter holds)
  | .sort keys => .ok (.sort keys)
  | .limit n => .ok (.limit n)
  | .lookup level vars pipeline target =>
    match planAll pipeline with
    | .error e => .error e
    | .ok steps => .ok (.lookup level vars steps target)
  | .unwind field => .ok (.unwind field)
  | .project fields => .ok (.project fields)

/-- The steps of stages, if all of their patterns compile. -/
def planAll : List Stage → Except Fault (List Step)
  | [] => .ok []
  | s :: rest =>
    match s.plan with
    | .error e => .error e
    | .ok step =>
      match planAll rest with
      | .error e => .error e
      | .ok steps => .ok (step :: steps)

end

mutual

/-- What a step makes of rows that have been read. -/
def Step.run (records : Records) : Step → Transform
  | .filter holds => fun bound rows => rows.filter (holds bound)
  | .sort keys => fun _ rows => sortRows keys rows
  | .limit n => fun _ rows => rows.take n
  | .lookup level vars steps target => fun _ rows => rows.map fun row =>
      let found := scan records steps (bind vars row) (records level)
      row.insert target (.array (found.map .document))
  | .unwind field => fun _ rows => rows.flatMap (unwindRow field)
  | .project fields => fun _ rows => rows.map (projectRow fields)

/-- What steps make of rows that have been read, one step after the other. -/
def runAll (records : Records) : List Step → Transform
  | [] => fun _ rows => rows
  | s :: rest => fun bound rows => runAll records rest bound (s.run records bound rows)

/-- What steps make of rows that are still to be read: a filter in front decides for each of them
whether it is taken at all. -/
def scan (records : Records) : List Step → Transform
  | [] => fun _ input => input
  | .filter holds :: rest => fun bound input =>
    runAll records rest bound (input.filter (holds bound))
  | s :: rest => fun bound input => runAll records rest bound (s.run records bound input)

end

/-- Runs stages, without variables, on rows that are still to be read. -/
def runOn (records : Records) (stages : List Stage) (input : List Document) (budget : Nat) :
    Except Fault (List Document) :=
  match planAll stages with
  | .error e => .error e
  | .ok steps => if budget = 0 then .error timeLimit else .ok (scan records steps [] input)

/-! ## Runs with any sort -/

mutual

/-- What a step makes of rows that have been read, unless a sort breaks off. -/
def Step.runWith (S : Sorter) (records : Records) :
    Step → Bindings → List Document → Option (List Document)
  | .filter holds => fun bound rows => some (rows.filter (holds bound))
  | .sort keys => fun _ rows => S.sort keys rows
  | .limit n => fun _ rows => some (rows.take n)
  | .lookup level vars steps target => fun _ rows => rows.mapM fun row =>
      (runAllWith S records steps (bind vars row) (records level)).map fun found =>
        row.insert target (.array (found.map .document))
  | .unwind field => fun _ rows => some (rows.flatMap (unwindRow field))
  | .project fields => fun _ rows => some (rows.map (projectRow fields))

/-- What steps make of rows that have been read, one step after the other, unless a sort breaks off. -/
def runAllWith (S : Sorter) (records : Records) :
    List Step → Bindings → List Document → Option (List Document)
  | [] => fun _ rows => some rows
  | s :: rest => fun bound rows =>
    (s.runWith S records bound rows).bind (runAllWith S records rest bound)

end

/-- The fault of a run that breaks off, without the account of it that the fault goes on to give. -/
def brokenOff : Fault := .execution "query task failed"

/-- The rows that a pipeline gives for a level if rows are sorted in a given way. -/
def aggregateWith (S : Sorter) (records : Records) (level : Level) (pipeline : List Stage)
    (budget : Nat) : Except Fault (List Document) :=
  match planAll pipeline with
  | .error e => .error e
  | .ok steps =>
    if budget = 0 then .error timeLimit
    else
      match runAllWith S records steps [] (records level) with
      | none => .error brokenOff
      | some rows => .ok rows

end Strata
