import Strata.Query.Cursor

/-!
# Pages

A page shows the first records of a query with all their rows. The query fetches one record more
than a page has; its presence says that another page follows, and it is cut off again. The probe is
the part of a pipeline that only finds the records, before anything is joined to them.
-/

namespace Strata

/-- The stages up to the first projection, that one included. -/
def probeStages : List Stage → List Stage
  | [] => []
  | s :: rest => if s.isProject then [s] else s :: probeStages rest

/-- Whether another page follows, and the token of where it begins. -/
structure PageInfo where
  hasNext : Bool
  nextCursor : Option String
  deriving DecidableEq, Repr

/-- The last page. -/
def PageInfo.last : PageInfo := ⟨false, none⟩

/-- The identifier of a row, if it is one that a cursor can carry. -/
def rootId? (row : Document) : Option ObjectId :=
  match row.get? idField with
  | some (.objectId id) => some id
  | _ => none

/-- What follows a page of `size` records, given the records that the probe found; `none` if the
last record of the page has no identifier. -/
def pageInfo? (probe : List Document) (size : Nat) : Option PageInfo :=
  if size = 0 ∨ probe.length ≤ size then some .last
  else match probe[size - 1]?.bind rootId? with
    | none => none
    | some id => some ⟨true, some (Cursor.encode id.toHex)⟩

/-- Whether a row belongs to the same record as the row before it. -/
def continuesGroup (previous current : Option Value) : Bool :=
  match previous, current with
  | some a, some b => b.same a
  | _, _ => false

/-- The rows of the next `groups` records, when the row before had the identifier `previous`. -/
def takeGroups (previous : Option Value) (groups : Nat) : List Document → List Document
  | [] => []
  | row :: rest =>
    let id := row.get? idField
    if continuesGroup previous id then row :: takeGroups previous groups rest
    else match groups with
      | 0 => []
      | n + 1 => row :: takeGroups id n rest

/-- The rows of the first `size` records. -/
def takePage (rows : List Document) (size : Nat) : List Document := takeGroups none size rows

end Strata
