import Strata.Query.Cursor
import Strata.Request.Wire

/-!
# Validation

A request is checked as a whole: every place that is wrong becomes an issue, in the order of the
checks below. A request without issues is normalised: the joins it uses are active, every active
join comes with the joins above it, in the order of the levels, and a blank cursor is none.
-/

namespace Strata

open Text

/-- The issues of a list of columns: a repeated column, or one that the level does not have. -/
def columnIssues (path : String) (level : Level) (seen : List String) : List String → List Issue
  | [] => []
  | c :: rest =>
    let here : List Issue :=
      if seen.contains c then [⟨path, "duplicate column " ++ c⟩]
      else if level.isColumn c then []
      else [⟨path, "unknown column " ++ level.name ++ "." ++ c⟩]
    here ++ columnIssues path level (c :: seen) rest

/-- The issues of a refused condition at `path`. -/
def refusalIssues (path : String) : Fault → List Issue
  | .fieldNotFilterable l f => [⟨path ++ ".field", (Fault.fieldNotFilterable l f).message⟩]
  | .operatorNotAllowed l f op => [⟨path ++ ".op", (Fault.operatorNotAllowed l f op).message⟩]
  | .validation issues => issues.map fun i => ⟨path ++ ".value", i.message⟩
  | e => [⟨path ++ ".value", e.message⟩]

/-- The issues of a condition at `path`. -/
def conditionIssues (path : String) (level : Level) (c : Condition) : List Issue :=
  if isBlankText c.field then [⟨path ++ ".field", "must not be empty"⟩]
  else match c.check level with
    | .ok () => []
    | .error e => refusalIssues path e

/-- The issues of conditions, the first of which has number `i` in the list at `path`. -/
def conditionListIssues (path : String) (level : Level) (i : Nat) : List Condition → List Issue
  | [] => []
  | c :: rest =>
    conditionIssues (path ++ "[" ++ toString i ++ "]") level c ++
      conditionListIssues path level (i + 1) rest

/-- The issues of a sort field that has to be among some fields. -/
def sortIssues (path : String) (allowed : List String) (field : String) : List Issue :=
  if isBlankText field then [⟨path, "must not be empty"⟩]
  else if allowed.contains field then []
  else [⟨path, "not sortable: " ++ field⟩]

/-- The issue of a level that has to be the root. -/
def rootIssues (path : String) (level : Level) : List Issue :=
  if level = .poly then [] else [⟨path, "must be " ++ Level.poly.name⟩]

/-- The issue of a page size out of bounds. -/
def pagingIssues (key : String) (n : Int64) : List Issue :=
  if minPageSize ≤ n.toInt ∧ n.toInt ≤ maxPageSize then []
  else [⟨"paging." ++ key ++ ".pageSize",
    s!"must be between {minPageSize} and {maxPageSize}"⟩]

namespace Request

/-- The issues of a join: its columns, its conditions and its sort. -/
def joinIssues (r : Request) (j : Join) : List Issue :=
  columnIssues ("joinColumns." ++ j.name) j.level [] (r.joinColumns.get j) ++
    conditionListIssues ("joinConditions." ++ j.name) j.level 0 (r.joinConditions.get j) ++
    match r.joinSort.get j with
    | some s => sortIssues ("joinSort." ++ j.name ++ ".field") j.sortFields s.field
    | none => []

/-- The issue of a token that is refused. -/
def cursorIssues (r : Request) : List Issue :=
  match r.token? with
  | none => []
  | some token =>
    match Cursor.continuation r.sort.direction token with
    | .ok _ => []
    | .error e => (Fault.cursor e.message).issues

/-- All issues of a request. -/
def issues (r : Request) : List Issue :=
  rootIssues "baseCollection" r.baseCollection ++
    rootIssues "base.collection" r.base.collection ++
    (r.paging.entries.flatMap fun (key, n) => pagingIssues key n) ++
    sortIssues "sort.field" Level.poly.sortable r.sort.field ++
    columnIssues "base.columns" .poly [] r.base.columns ++
    conditionListIssues "base.conditions" .poly 0 r.base.conditions ++
    Join.all.flatMap r.joinIssues ++
    r.cursorIssues

/-- Whether a request gives columns or conditions for a join. -/
def uses (r : Request) (j : Join) : Bool :=
  !(r.joinColumns.get j).isEmpty || !(r.joinConditions.get j).isEmpty

/-- Joins and all joins above them, in the order of the levels. -/
def closeJoins (active : Join → Bool) : List Join :=
  Join.all.filter fun j => Join.all.any fun k => active k && k.path.contains j

/-- The request with its active joins spelled out. -/
def normalize (r : Request) : Request :=
  { r with
    joins := closeJoins fun j => r.uses j || r.joins.contains j
    cursor := if r.token?.isSome then r.cursor else none }

/-- The normalised request, or all issues. -/
def validate (r : Request) : Except Fault Request :=
  match r.issues with
  | [] => .ok r.normalize
  | issues => .error (.validation issues)

/-- Reads the body of a request and validates it. -/
def parse (body : String) : Except Fault Request :=
  match read body with
  | .error e => .error (.json e.message)
  | .ok r => r.validate

end Request

end Strata
