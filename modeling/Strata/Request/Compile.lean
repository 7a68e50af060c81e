import Strata.Query.Rendering
import Strata.Request.Validation

/-!
# Compiling requests

A request becomes a pipeline on the root level: conditions, cursor, sort, limit and a projection to
the fields in use; then a lookup for each active join, whose list is opened into rows where the
result or another join needs it; and last the projection to the output columns. A column whose name
is taken by an earlier one gets the name of its level behind it, and a number if that is taken too.

Compiling checks everything again that it relies on, and stops at the first fault.
-/

namespace Strata

/-- A compiled request. -/
structure Query where
  pipeline : List Stage
  /-- the names of the output columns -/
  columns : List String
  /-- the active joins in the order of the levels -/
  joins : List Join

/-- The requested joins, those that the result level needs, and all joins above them, in the order
of the levels. -/
def effectiveJoins (requested : List Join) (result : Level) : List Join :=
  Join.all.filter fun j =>
    result.requiredJoins.contains j || requested.any fun k => k.path.contains j

/-- Whether the list of a join is opened into rows: it is on the way to the result level, or above
another active join. -/
def shouldFlatten (j : Join) (result : Level) (active : List Join) : Bool :=
  result.requiredJoins.contains j || active.any fun k => j.isAncestorOf k

/-! ## Names of columns -/

/-- The first of `name_i`, `name_(i+1)`, … that is not taken; the last argument bounds the
search. -/
def numberedName (name : String) (claimed : List String) (i : Nat) : Nat → String
  | 0 => name ++ "_" ++ toString i
  | n + 1 =>
    let candidate := name ++ "_" ++ toString i
    if claimed.contains candidate then numberedName name claimed (i + 1) n else candidate

/-- A name for a column of a level that is not taken. Among as many numbered names as there are
taken ones and one more, one is free. -/
def disambiguate (name : String) (level : Level) (claimed : List String) : String :=
  if !claimed.contains name then name
  else
    let tagged := name ++ "__" ++ level.name
    if !claimed.contains tagged then tagged
    else numberedName tagged claimed 2 claimed.length

/-- The elements without repetitions, each at its first place, leaving out those in `seen`. -/
def firstOccurrences (seen : List String) : List String → List String
  | [] => []
  | c :: rest =>
    if seen.contains c then firstOccurrences seen rest
    else c :: firstOccurrences (c :: seen) rest

/-- The projection to the identifier and some fields. -/
def keepFields (names : List String) : Stage :=
  .project ((firstOccurrences [] (idField :: names)).map fun n => ⟨n, .keep⟩)

/-- The output columns of a join, when some names are taken: their names and their columns. -/
def joinOutput (j : Join) (claimed : List String) : List String → List (String × String)
  | [] => []
  | c :: rest =>
    let name := disambiguate c j.level claimed
    (name, c) :: joinOutput j (name :: claimed) rest

/-- The output fields of joins one after the other. -/
def joinsOutput (columns : Join → List String) (claimed : List String) :
    List Join → List Projected
  | [] => []
  | j :: rest =>
    let own := joinOutput j claimed (firstOccurrences [] (columns j))
    (own.map fun (name, c) => ⟨name, .path (j.listField ++ "." ++ c)⟩) ++
      joinsOutput columns ((own.map (·.1)).reverse ++ claimed) rest

/-! ## Checks -/

/-- Checks that all columns are columns of a level. -/
def checkColumns (level : Level) (columns : List String) : Except Fault Unit :=
  match columns.find? fun c => !level.isColumn c with
  | some c => .error (.columnNotAllowed level c)
  | none => .ok ()

/-- Checks that a level may be sorted by a field. -/
def checkSort (level : Level) (allowed : List String) (field : String) : Except Fault Unit :=
  if allowed.contains field then .ok () else .error (.sortFieldNotAllowed level field)

/-- Runs a check for each join until one fails. -/
def checkEach (check : Join → Except Fault Unit) : List Join → Except Fault Unit
  | [] => .ok ()
  | j :: rest =>
    match check j with
    | .error e => .error e
    | .ok () => checkEach check rest

/-- The sort by a field, equal rows by their identifiers. -/
def sortStage (s : SortKey) : Stage :=
  .sort (if s.field = idField then [s] else [s, ⟨idField, s.direction⟩])

/-! ## Pipelines -/

namespace Request

/-- The joins that take part. -/
def activeJoins (r : Request) : List Join := effectiveJoins r.joins r.resultLevel

/-- The checks of compiling, in order. -/
def check (r : Request) : Except Fault Unit := do
  checkColumns .poly r.base.columns
  checkEach (fun j => checkColumns j.level (r.joinColumns.get j)) Join.all
  checkSort .poly Level.poly.sortable r.sort.field
  checkEach (fun j => do
    checkSort j.level j.sortFields (r.joinSortOf j).field
    checkConditions j.level (r.joinConditions.get j)) Join.all
  let idle := Join.all.filter fun j => !r.activeJoins.contains j
  match idle.find? fun j => !(r.joinColumns.get j).isEmpty with
  | some j => throw (.inactiveJoinColumns j.level)
  | none => pure ()
  match idle.find? fun j => !(r.joinConditions.get j).isEmpty with
  | some j => throw (.inactiveJoinConditions j.level)
  | none => pure ()

/-- A filter, if there is a condition. -/
def filterStages : Option Predicate → List Stage
  | some p => [.filter p]
  | none => []

/-- The filter of the cursor. -/
def cursorStages (r : Request) : Except Fault (List Stage) :=
  match r.token? with
  | none => .ok []
  | some token =>
    match Cursor.continuation r.sort.direction token with
    | .error e => .error (.cursor e.message)
    | .ok p => .ok [.filter p]

/-- The pipeline of a join below one parent. -/
def joinPipeline (r : Request) (j : Join) (conditions : Option Predicate) : List Stage :=
  .filter (.correlate (j.correlation.map fun k => (k.field, k.var))) :: filterStages conditions ++
    [sortStage (r.joinSortOf j), .limit (r.cap j), keepFields (j.ownKeys ++ r.joinColumns.get j)]

/-- The stages of a join. -/
def joinStages (r : Request) (j : Join) (conditions : Option Predicate) : List Stage :=
  .lookup j.level (j.correlation.map fun k => ⟨k.var, k.parentPath⟩)
      (r.joinPipeline j conditions) j.listField ::
    if shouldFlatten j r.resultLevel r.activeJoins then [.unwind j.listField] else []

/-- The stages of joins one after the other. -/
def joinsStages (r : Request) : List Join → Except Fault (List Stage)
  | [] => .ok []
  | j :: rest => do
    let conditions ← compileConditions j.level (r.joinConditions.get j)
    let stages ← joinsStages r rest
    return r.joinStages j conditions ++ stages

/-- The output columns of the root level. -/
def baseOutput (r : Request) : List String := firstOccurrences [] r.base.columns

/-- The output fields of the active joins. -/
def joinedOutput (r : Request) : List Projected :=
  joinsOutput r.joinColumns.get r.baseOutput r.activeJoins

/-- The output columns. -/
def outputColumns (r : Request) : List String := r.baseOutput ++ r.joinedOutput.map (·.name)

/-- The last stage. -/
def outputStage (r : Request) : Stage :=
  .project (⟨idField, .keep⟩ :: r.baseOutput.map (fun c => ⟨c, .keep⟩) ++ r.joinedOutput)

/-- Compiles a request. -/
def compile (r : Request) : Except Fault Query := do
  r.check
  let conditions ← compileConditions .poly r.base.conditions
  let cursor ← r.cursorStages
  let joined ← r.joinsStages r.activeJoins
  let root : List Stage := filterStages conditions ++ cursor ++
    [sortStage r.sort, .limit (r.pageSize + 1),
     keepFields (rootKey :: r.sort.field :: r.base.columns)]
  return ⟨root ++ joined ++ [r.outputStage], r.outputColumns, r.activeJoins⟩

end Request

end Strata
