import Strata.Query.Condition

/-!
# Requests

A request asks for a page of records of the root level, and for rows of the joined levels below
them. Everything has a default; the empty request asks for the first page of all records.
-/

namespace Strata

/-- One value for each join. -/
structure PerJoin (α : Type) where
  geom : α
  triang : α
  invol : α
  swisscheese : α
  deriving DecidableEq, Repr

namespace PerJoin

variable {α : Type}

/-- The value of one join. -/
def get (p : PerJoin α) : Join → α
  | .geom => p.geom
  | .triang => p.triang
  | .invol => p.invol
  | .swisscheese => p.swisscheese

/-- The value of each join as a function of the join. -/
def ofFun (f : Join → α) : PerJoin α := ⟨f .geom, f .triang, f .invol, f .swisscheese⟩

@[simp] theorem get_ofFun (f : Join → α) (j : Join) : (ofFun f).get j = f j := by
  cases j <;> rfl

end PerJoin

/-- The page size if none is given. -/
def defaultPageSize : Int64 := 25

/-- The least page size. -/
def minPageSize : Int := 1

/-- The greatest page size. -/
def maxPageSize : Int := 200

/-- A page size within the bounds. -/
def clampPageSize (n : Int64) : Nat := (max minPageSize (min maxPageSize n.toInt)).toNat

/-- How many records a page has, and how many rows each parent has at most in each join. -/
structure Paging where
  poly : Int64 := defaultPageSize
  geom : Int64 := defaultPageSize
  triang : Int64 := defaultPageSize
  invol : Int64 := defaultPageSize
  swiss : Int64 := defaultPageSize
  deriving DecidableEq, Repr

namespace Paging

/-- The most rows of a join below one parent, as given. -/
def cap (p : Paging) : Join → Int64
  | .geom => p.geom
  | .triang => p.triang
  | .invol => p.invol
  | .swisscheese => p.swiss

/-- The sizes under their keys, the root first. -/
def entries (p : Paging) : List (String × Int64) :=
  [("poly", p.poly), ("geom", p.geom), ("triang", p.triang), ("invol", p.invol),
   ("swiss", p.swiss)]

end Paging

/-- What is asked of the root level. -/
structure BaseQuery where
  collection : Level := .poly
  columns : List String := []
  conditions : List Condition := []
  deriving DecidableEq, Repr

/-- A query over the levels. -/
structure Request where
  baseCollection : Level := .poly
  base : BaseQuery := {}
  resultLevel : Level := .poly
  joins : List Join := []
  joinColumns : PerJoin (List String) := .ofFun fun _ => []
  joinConditions : PerJoin (List Condition) := .ofFun fun _ => []
  /-- how the rows of each join are sorted below one parent -/
  joinSort : PerJoin (Option SortKey) := .ofFun fun _ => none
  paging : Paging := {}
  sort : SortKey := ⟨rootKey, .asc⟩
  cursor : Option String := none
  deriving DecidableEq, Repr

namespace Request

/-- The sort of a join's rows: the given one, else by the join's own field. -/
def joinSortOf (r : Request) (j : Join) : SortKey :=
  (r.joinSort.get j).getD ⟨j.defaultSort, .asc⟩

/-- The token of the cursor; a blank text is no token. -/
def token? (r : Request) : Option String :=
  match r.cursor with
  | some text => if Text.isBlankText text then none else some (Text.trim text)
  | none => none

/-- The number of records of a page. -/
def pageSize (r : Request) : Nat := clampPageSize r.paging.poly

/-- The most rows of a join below one parent. -/
def cap (r : Request) (j : Join) : Nat := clampPageSize (r.paging.cap j)

end Request

end Strata
