import Strata.Text.Hex

/-!
# Sets of scalar values

A set is a list of closed ranges in ascending order that neither overlap nor touch. Surrogates are
not scalar values and belong to no set. The tables of the standard are written as the steps from one
boundary of a set to the next; `CharSet.ofSteps` reads them.
-/

namespace Strata.Unicode

/-- A closed range of scalar values, given by their numbers. -/
structure Range where
  lo : Nat
  hi : Nat
  deriving DecidableEq, Repr, Inhabited

/-- A set of scalar values as ascending ranges. -/
structure CharSet where
  ranges : List Range
  deriving DecidableEq, Repr, Inhabited

namespace CharSet

/-- The greatest scalar value. -/
def last : Nat := 0x10ffff

/-- The set without members. -/
def empty : CharSet := ⟨[]⟩

/-- Whether a set has no members. -/
def isEmpty (s : CharSet) : Bool := s.ranges.isEmpty

/-- Membership of a number. -/
def holds (s : CharSet) (n : Nat) : Bool :=
  s.ranges.any fun r => r.lo ≤ n && n ≤ r.hi

/-- Membership of a character. -/
def contains (s : CharSet) (c : Char) : Bool := s.holds c.toNat

/-- Joins ranges in ascending order of their lower ends that overlap or touch. -/
def joinFrom (current : Range) : List Range → List Range
  | [] => [current]
  | r :: rest =>
    if r.lo ≤ current.hi + 1 then joinFrom ⟨current.lo, max current.hi r.hi⟩ rest
    else current :: joinFrom r rest

/-- The parts of a range below and above the surrogates. -/
def withoutSurrogates (r : Range) : List Range :=
  (if r.lo ≤ min r.hi 0xd7ff then [⟨r.lo, min r.hi 0xd7ff⟩] else []) ++
    (if max r.lo 0xe000 ≤ r.hi then [⟨max r.lo 0xe000, r.hi⟩] else [])

/-- The set covered by ranges in any order. -/
def ofRanges (rs : List Range) : CharSet :=
  match (rs.flatMap withoutSurrogates).mergeSort fun a b => a.lo ≤ b.lo with
  | [] => empty
  | r :: rest => ⟨joinFrom r rest⟩

/-- The set of one number. -/
def singleton (n : Nat) : CharSet := ofRanges [⟨n, n⟩]

/-- The set between two numbers. -/
def between (lo hi : Nat) : CharSet := ofRanges [⟨lo, hi⟩]

/-- The numbers in one of two sets. -/
def union (s t : CharSet) : CharSet := ofRanges (s.ranges ++ t.ranges)

/-- The gaps between ascending ranges, from `start` on. -/
def gaps (start : Nat) : List Range → List Range
  | [] => if start ≤ last then [⟨start, last⟩] else []
  | r :: rest =>
    if start < r.lo then ⟨start, r.lo - 1⟩ :: gaps (r.hi + 1) rest else gaps (r.hi + 1) rest

/-- The scalar values that are not in a set. -/
def complement (s : CharSet) : CharSet := ofRanges (gaps 0 s.ranges)

/-- The numbers in both of two sets. -/
def inter (s t : CharSet) : CharSet :=
  ofRanges (s.ranges.flatMap fun a =>
    (t.ranges.filter fun b => max a.lo b.lo ≤ min a.hi b.hi).map fun b =>
      ⟨max a.lo b.lo, min a.hi b.hi⟩)

/-- The numbers in the first set and not in the second. -/
def diff (s t : CharSet) : CharSet := s.inter t.complement

/-- The numbers in exactly one of two sets. -/
def symmDiff (s t : CharSet) : CharSet := (s.union t).diff (s.inter t)

/-- Every scalar value. -/
def all : CharSet := empty.complement

/-- The first 128 scalar values. -/
def ascii : CharSet := between 0 0x7f

/-- The number that a row of hexadecimal digits denotes. -/
def hexNumber (cs : List Char) : Nat :=
  cs.foldl (fun n c => 16 * n + (Text.Hex.digitValue? c).getD 0) 0

/-- The ranges whose boundaries lie at the given steps from `start`. -/
def stepRanges (start : Nat) : List Nat → List Range
  | [] => []
  | [a] => [⟨start + a, last⟩]
  | a :: b :: rest => ⟨start + a, start + a + b - 1⟩ :: stepRanges (start + a + b) rest

/-- The words of a table: what stands between blanks and line ends. -/
def words (text : String) : List String :=
  ((text.map fun c => if c = '\n' then ' ' else c).splitOn " ").filter (!·.isEmpty)

/-- Reads the steps of a table. -/
def ofSteps (text : String) : CharSet :=
  ofRanges (stepRanges 0 ((words text).map fun w => hexNumber w.toList))

/-- The set of the row of a table that bears a name. -/
def ofTable? (table : List (List String × String)) (name : String) : Option CharSet :=
  (table.find? fun row => row.1.contains name).map fun row => ofSteps row.2

end CharSet

end Strata.Unicode
