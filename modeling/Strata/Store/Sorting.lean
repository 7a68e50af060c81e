import Strata.Query.Stage
import Strata.Value.Order
import Strata.Value.Path

/-!
# Sorting rows

Rows are compared key by key; a missing value counts as null. A stable sort is specified on rows that
the comparison puts in a total order, where it has one result only (`SortedBy`). Values are not always
compared transitively, so rows need not stand in such an order, and then a sort may leave them in any
order or break off without a result. A `Sorter` is what may be relied on of a sort.

The sort that runs here inserts one row after the other, each behind all rows that are not greater. It
never breaks off. What depends on the order of sorted rows is therefore said of every sorter, and of
rows that are `TotallyOrdered`.
-/

namespace Strata

/-- The order of two values, a missing one counting as null. -/
def orderOptional : Option Value → Option Value → Ordering
  | some a, some b => a.order b
  | some a, none => a.order .null
  | none, some b => Value.order .null b
  | none, none => .eq

/-- The order of two rows by some keys. -/
def compareRows (keys : List SortKey) (a b : Document) : Ordering :=
  match keys with
  | [] => .eq
  | k :: rest =>
    match orderOptional (a.getPath? k.field) (b.getPath? k.field) with
    | .eq => compareRows rest a b
    | o => k.direction.apply o

/-- The keys put rows in a total order, in which rows may be tied. -/
def TotallyOrdered (keys : List SortKey) (rows : List Document) : Prop :=
  ∀ a ∈ rows, ∀ b ∈ rows, ∀ c ∈ rows,
    compareRows keys a b ≠ .gt → compareRows keys b c ≠ .gt → compareRows keys a c ≠ .gt

instance (keys : List SortKey) (rows : List Document) : Decidable (TotallyOrdered keys rows) :=
  inferInstanceAs (Decidable (∀ a ∈ rows, ∀ b ∈ rows, ∀ c ∈ rows,
    compareRows keys a b ≠ .gt → compareRows keys b c ≠ .gt → compareRows keys a c ≠ .gt))

/-- The result of a stable sort of rows by some keys: the same rows, none of them behind a greater one,
and tied rows in their given order. -/
structure SortedBy (keys : List SortKey) (rows sorted : List Document) : Prop where
  perm : sorted.Perm rows
  ascends : sorted.Pairwise fun a b => compareRows keys a b ≠ .gt
  stable : ∀ d ∈ rows, sorted.filter (fun e => compareRows keys d e == .eq)
    = rows.filter fun e => compareRows keys d e == .eq

/-- A stable sort that is only specified on rows in a total order. On other rows it may break off
without a result, or leave the rows in any order. -/
structure Sorter where
  sort : List SortKey → List Document → Option (List Document)
  sorts : ∀ {keys rows}, TotallyOrdered keys rows →
    ∃ sorted, sort keys rows = some sorted ∧ SortedBy keys rows sorted

/-- Puts an element among others that stand in descending order, in front of those that are not
greater. -/
def insertDescending {α : Type} (less : α → α → Bool) (x : α) : List α → List α
  | [] => [x]
  | y :: ys => if less x y then y :: insertDescending less x ys else x :: y :: ys

/-- The elements in ascending order, equal ones in their given order. -/
def stableSort {α : Type} (less : α → α → Bool) (xs : List α) : List α :=
  (xs.foldl (fun sorted x => insertDescending less x sorted) []).reverse

/-- The rows sorted by some keys. -/
def sortRows (keys : List SortKey) (rows : List Document) : List Document :=
  stableSort (fun a b => compareRows keys a b == .lt) rows

end Strata
