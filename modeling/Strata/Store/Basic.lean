import Strata.Store.Steps

/-!
# The store

The store holds the records of each level in the order in which they came. A record without an
identifier gets a fresh one, as its last field; fresh identifiers ascend.
-/

namespace Strata

/-- One value for each level. -/
structure PerLevel (α : Type) where
  poly : α
  geom : α
  triang : α
  invol : α
  swisscheese : α
  deriving Repr

namespace PerLevel

variable {α : Type}

/-- The value of one level. -/
def get (p : PerLevel α) : Level → α
  | .poly => p.poly
  | .geom => p.geom
  | .triang => p.triang
  | .invol => p.invol
  | .swisscheese => p.swisscheese

/-- Replaces the value of one level. -/
def set (p : PerLevel α) (level : Level) (a : α) : PerLevel α :=
  match level with
  | .poly => { p with poly := a }
  | .geom => { p with geom := a }
  | .triang => { p with triang := a }
  | .invol => { p with invol := a }
  | .swisscheese => { p with swisscheese := a }

/-- Replacing the value of a level leaves those of the others. -/
theorem get_set (p : PerLevel α) (l k : Level) (a : α) :
    (p.set l a).get k = if k = l then a else p.get k := by
  cases l <;> cases k <;> rfl

end PerLevel

/-- The records of a collection, and the number of the next fresh identifier. -/
structure Store where
  records : PerLevel (List Document)
  nextId : Nat

/-- A record with an identifier, and the number of the next fresh one. -/
def identify (nextId : Nat) (d : Document) : Document × Nat :=
  match d.get? idField with
  | some _ => (d, nextId)
  | none => (d.insert idField (.objectId (.ofNat nextId)), nextId + 1)

/-- Records with identifiers, and the number of the next fresh one. -/
def identifyAll (nextId : Nat) : List Document → List Document × Nat
  | [] => ([], nextId)
  | d :: rest =>
    let (d, nextId) := identify nextId d
    let (rest, nextId) := identifyAll nextId rest
    (d :: rest, nextId)

namespace Store

/-- The store without records whose first fresh identifier has a given number. -/
def empty (firstId : Nat) : Store := ⟨⟨[], [], [], [], []⟩, firstId⟩

/-- The records of a level. -/
def snapshot (s : Store) (level : Level) : List Document := s.records.get level

/-- The number of records of a level. -/
def size (s : Store) (level : Level) : Nat := (s.snapshot level).length

/-- Whether no level has records. -/
def isEmpty (s : Store) : Bool := Level.all.all fun l => (s.snapshot l).isEmpty

/-- Adds records to a level. -/
def insert (s : Store) (level : Level) (docs : List Document) : Store :=
  let (docs, nextId) := identifyAll s.nextId docs
  ⟨s.records.set level (s.snapshot level ++ docs), nextId⟩

/-- Runs a pipeline on the records of a level. -/
def aggregate (s : Store) (level : Level) (pipeline : List Stage) (budget : Nat) :
    Except Fault (List Document) :=
  Strata.aggregate s.snapshot level pipeline budget

/-- Runs a pipeline on the records of a level with any sort. -/
def aggregateWith (s : Store) (S : Sorter) (level : Level) (pipeline : List Stage) (budget : Nat) :
    Except Fault (List Document) :=
  Strata.aggregateWith S s.snapshot level pipeline budget

end Store

end Strata
