import Mathlib.Data.List.Forall2
import Strata.Request.Compile
import Strata.Store.Execution

/-!
# The meaning of a request

Which rows a request asks for, said without stages and variables. The root records that satisfy the
conditions and lie beyond the cursor are sorted, and the first of them are *expanded*: for each
active join in turn, the records that belong below a root record and what is joined to it already are
found by going through the level. A level that is opened gives an expansion for each record found, or
one without a record if there are none; any other level keeps the list of them. Every expansion gives
one row.

`IsAnswer` says this of rows, and of the order of the records only that a stable sort may have left
them in it. `nestedLoop` computes rows. Where all that is sorted stands in a total order
(`SortsTotally`), these rows are the one answer.
-/

namespace Strata

/-- Whether a record satisfies a condition. -/
def Condition.holds (c : Condition) (d : Document) : Bool :=
  let values := d.candidates c.field
  match c.op with
  | .eq => Comparison.eq.holds values (readScalar c.value)
  | .ne => Comparison.ne.holds values (readScalar c.value)
  | .gt => Comparison.gt.holds values (readScalar c.value)
  | .gte => Comparison.gte.holds values (readScalar c.value)
  | .lt => Comparison.lt.holds values (readScalar c.value)
  | .lte => Comparison.lte.holds values (readScalar c.value)
  | .contains =>
    match Pattern.compile c.value true with
    | .ok p => values.any (Value.matchesPattern p)
    | .error _ => false
  | .within => values.any fun v => (listed c.value).any fun text => v.equal (readScalar text)

/-! ## Expansions -/

/-- What is joined to a root record at a level: nothing, one record, or a list of them. -/
inductive Attached where
  | nothing
  | record (d : Document)
  | list (ds : List Document)

/-- The value of a column at a level: the field of the one record, or the list of the fields that
the records of the list have. -/
def Attached.column? (a : Attached) (c : String) : Option Value :=
  match a with
  | nothing => none
  | record d => d.get? c
  | list ds => some (.array (ds.filterMap fun d => d.get? c))

/-- A root record with what is joined to it at each level. -/
structure Expansion where
  root : Document
  attached : Join → Attached

/-- A value that is there and not null. -/
def present? : Option Value → Option Value
  | some .null => none
  | v => v

namespace Expansion

/-- A root record with nothing joined to it. -/
def ofRoot (d : Document) : Expansion := ⟨d, fun _ => .nothing⟩

/-- Joins something at a level. -/
def attach (x : Expansion) (j : Join) (a : Attached) : Expansion :=
  { x with attached := fun k => if k = j then a else x.attached k }

/-- The value of a field of the one record joined at a level. -/
def fieldAt? (x : Expansion) (j : Join) (field : String) : Option Value :=
  match x.attached j with
  | .record d => present? (d.get? field)
  | _ => none

/-- The fields by which records of a join belong to an expansion, with the values they must have: the
root key, and the index of the record at each level above. -/
def ties (x : Expansion) (j : Join) : List (String × Option Value) :=
  (rootKey, present? (x.root.get? rootKey)) ::
    j.ancestors.filterMap fun a => a.localIndex?.map fun index => (index, x.fieldAt? a index)

/-- Whether a record of a join belongs to an expansion. -/
def owns (x : Expansion) (j : Join) (d : Document) : Bool :=
  (x.ties j).all fun tie =>
    match d.get? tie.1, tie.2 with
    | some v, some w => v.equal w
    | _, _ => false

end Expansion

namespace Request

variable (r : Request) (records : Records)

/-- The keys by which the records of a join are sorted. -/
def joinKeys (j : Join) : List SortKey :=
  [r.joinSortOf j, ⟨idField, (r.joinSortOf j).direction⟩]

/-- The records of a join that belong to an expansion and satisfy the conditions. -/
def related (x : Expansion) (j : Join) : List Document :=
  (records j.level).filter fun d =>
    x.owns j d && (r.joinConditions.get j).all fun c => c.holds d

/-- The expansions of an expansion by the records found for a join. -/
def joinedWith (x : Expansion) (j : Join) (found : List Document) : List Expansion :=
  if shouldFlatten j r.resultLevel r.activeJoins then
    if found.isEmpty then [x.attach j .nothing] else found.map fun d => x.attach j (.record d)
  else [x.attach j (.list found)]

/-- The records of a join below an expansion: the first of those that are related to it, sorted. -/
def children (x : Expansion) (j : Join) : List Document :=
  (sortRows (r.joinKeys j) (r.related records x j)).take (r.cap j)

/-- The expansions of an expansion by one more join. -/
def expandBy (x : Expansion) (j : Join) : List Expansion :=
  r.joinedWith x j (r.children records x j)

/-- The expansions of an expansion by joins, the later ones below each result of the earlier ones. -/
def expand : List Join → Expansion → List Expansion
  | [], x => [x]
  | j :: rest, x => (r.expandBy records x j).flatMap (expand rest)

/-! ## Rows -/

/-- The output columns of joins one after the other: the name of each, its join, and its column. -/
def namedColumns (columns : Join → List String) (claimed : List String) :
    List Join → List (String × Join × String)
  | [] => []
  | j :: rest =>
    let own := joinOutput j claimed (firstOccurrences [] (columns j))
    own.map (fun (name, c) => (name, j, c)) ++
      namedColumns columns ((own.map (·.1)).reverse ++ claimed) rest

/-- The row of an expansion: the identifier and the columns of the root record, then the columns of
the joins, without those that have no value. -/
def outputRow (x : Expansion) : Document :=
  let own := (idField :: r.baseOutput).filterMap fun c => (x.root.get? c).map fun v => (c, v)
  let joined := (namedColumns r.joinColumns.get r.baseOutput r.activeJoins).filterMap
    fun (name, j, c) => ((x.attached j).column? c).map fun v => (name, v)
  Document.ofFields (own ++ joined)

/-- The rows of a root record. -/
def rowsOf (d : Document) : List Document :=
  (r.expand records r.activeJoins (.ofRoot d)).map r.outputRow

/-! ## Root records -/

/-- The identifier behind which a page begins. -/
def cursorId? : Option ObjectId :=
  r.token?.bind fun token => (Cursor.decode token).toOption.bind ObjectId.ofHex?

/-- Whether a root record lies strictly behind an identifier, in the direction of the sort. -/
def isBeyond (id : ObjectId) (d : Document) : Bool :=
  let op := match r.sort.direction with | .asc => Comparison.gt | .desc => Comparison.lt
  op.holds (d.candidates idField) (.objectId id)

/-- Whether a root record lies behind the cursor, if there is one. -/
def isBeyondCursor (d : Document) : Bool := r.cursorId?.all fun id => r.isBeyond id d

/-- The keys by which root records are sorted. -/
def rootKeys : List SortKey := [r.sort, ⟨idField, r.sort.direction⟩]

/-- The root records that satisfy the conditions and lie behind the cursor. -/
def matching : List Document :=
  (records .poly).filter fun d => r.base.conditions.all (fun c => c.holds d) && r.isBeyondCursor d

/-- The root records that satisfy the conditions and lie behind the cursor, sorted. -/
def matchingRoots : List Document := sortRows r.rootKeys (r.matching records)

/-- The rows of the first `n` root records. -/
def nestedLoop (n : Nat) : List Document :=
  ((r.matchingRoots records).take n).flatMap (r.rowsOf records)

/-! ## Answers -/

/-- What joins make of an expansion if the records found for each of them are in the order of a stable
sort. -/
def Expands : List Join → Expansion → List Expansion → Prop
  | [], x, xs => xs = [x]
  | j :: rest, x, xs => ∃ sorted parts, SortedBy (r.joinKeys j) (r.related records x j) sorted ∧
      List.Forall₂ (Expands rest) (r.joinedWith x j (sorted.take (r.cap j))) parts ∧
      xs = parts.flatten

/-- Rows that answer a request for `n` root records: those of the first ones in the order of a stable
sort. -/
def IsAnswer (n : Nat) (rows : List Document) : Prop :=
  ∃ roots parts, SortedBy r.rootKeys (r.matching records) roots ∧
    List.Forall₂ (fun d => r.Expands records r.activeJoins (.ofRoot d)) (roots.take n) parts ∧
    rows = parts.flatten.map r.outputRow

/-! ## Total orders -/

/-- The records found for joins below an expansion stand in a total order. -/
def ExpandsTotally : List Join → Expansion → Prop
  | [], _ => True
  | j :: rest, x => TotallyOrdered (r.joinKeys j) (r.related records x j) ∧
      ∀ y ∈ r.expandBy records x j, ExpandsTotally rest y

instance decidableExpandsTotally (js : List Join) (x : Expansion) :
    Decidable (r.ExpandsTotally records js x) :=
  match js with
  | [] => isTrue trivial
  | j :: rest =>
    have (y : Expansion) : Decidable (r.ExpandsTotally records rest y) :=
      decidableExpandsTotally rest y
    inferInstanceAs (Decidable (TotallyOrdered (r.joinKeys j) (r.related records x j) ∧
      ∀ y ∈ r.expandBy records x j, r.ExpandsTotally records rest y))

/-- Below every root record that matches, the records found for the joins stand in a total order. -/
def JoinsTotally : Prop :=
  ∀ d ∈ r.matching records, r.ExpandsTotally records r.activeJoins (.ofRoot d)

instance : Decidable (r.JoinsTotally records) :=
  inferInstanceAs (Decidable (∀ d ∈ r.matching records,
    r.ExpandsTotally records r.activeJoins (.ofRoot d)))

/-- All that is sorted for a request stands in a total order. -/
structure SortsTotally : Prop where
  roots : TotallyOrdered r.rootKeys (r.matching records)
  joins : r.JoinsTotally records

instance : Decidable (r.SortsTotally records) :=
  decidable_of_iff (TotallyOrdered r.rootKeys (r.matching records) ∧ r.JoinsTotally records)
    ⟨fun h => ⟨h.1, h.2⟩, fun h => ⟨h.roots, h.joins⟩⟩

end Request

end Strata
