import Mathlib.Algebra.BigOperators.Group.List.Basic
import Strata.Proofs.ResponseRows
import Strata.Proofs.Walk

/-!
# Fan-out

How much a page can show is bounded by the request alone, whatever the store holds and whatever
sizes the request gives. An opened join makes of each row at most as many rows as its cap, since a
row without anything joined to it stays one row, and caps are at least one; a join that is not
opened leaves the number of rows and lists at most as many records as its cap. So the rows of one
root record are at most the product of the caps of the opened joins.
-/

namespace Strata

theorem length_flatMap_le {α β : Type} {f : α → List β} {as : List α} {n : Nat}
    (h : ∀ a ∈ as, (f a).length ≤ n) : (as.flatMap f).length ≤ as.length * n := by
  induction as with
  | nil => exact Nat.zero_le _
  | cons a rest ih =>
    rw [List.forall_mem_cons] at h
    have ih := ih h.2
    rw [List.flatMap_cons, List.length_append, List.length_cons, Nat.succ_mul]
    omega

theorem clampPageSize_bounds (n : Int64) : 1 ≤ clampPageSize n ∧ clampPageSize n ≤ 200 := by
  rw [clampPageSize, minPageSize, maxPageSize]
  omega

/-- Fields made of some things, where there is a value, have keys among the names of the things. -/
theorem keys_filterMap_sublist {α : Type} (name : α → String) (value : α → Option Value)
    (as : List α) :
    ((as.filterMap fun a => (value a).map fun v => (name a, v)).map (·.1)).Sublist
      (as.map name) := by
  induction as with
  | nil => exact .slnil
  | cons a rest ih =>
    rw [List.filterMap_cons, List.map_cons]
    cases value a with
    | none => exact ih.cons (name a)
    | some v => exact ih.cons_cons (name a)

namespace Request

variable {r : Request} {records : Records}

/-! ## The rows of a root record -/

/-- Whether the list of an active join is opened into rows. -/
def isOpened (r : Request) (j : Join) : Bool := shouldFlatten j r.resultLevel r.activeJoins

/-- The most rows that joins make of one row: the product of the caps of those that are opened. -/
def fanOut (r : Request) (js : List Join) : Nat := ((js.filter r.isOpened).map r.cap).prod

theorem fanOut_cons (r : Request) (j : Join) (js : List Join) :
    r.fanOut (j :: js) = (if r.isOpened j then r.cap j else 1) * r.fanOut js := by
  by_cases h : r.isOpened j = true <;> simp [fanOut, h]

theorem length_children_le (x : Expansion) (j : Join) :
    (r.children records x j).length ≤ r.cap j := by
  rw [children]
  exact List.length_take_le _ _

/-- One join makes of an expansion at most as many as its cap if it is opened, and else one. -/
theorem length_expandBy_le (x : Expansion) (j : Join) :
    (r.expandBy records x j).length ≤ if r.isOpened j then r.cap j else 1 := by
  have hchildren : (r.children records x j).length ≤ r.cap j := length_children_le x j
  have hcap : 1 ≤ r.cap j := (clampPageSize_bounds _).1
  rw [expandBy, joinedWith, isOpened]
  split
  · split
    · exact hcap
    · rw [List.length_map]
      exact hchildren
  · exact Nat.le_refl 1

theorem length_expand_le (x : Expansion) (js : List Join) :
    (r.expand records js x).length ≤ r.fanOut js := by
  induction js generalizing x with
  | nil => exact Nat.le_refl 1
  | cons j rest ih =>
    rw [fanOut_cons]
    calc
      (r.expand records (j :: rest) x).length
          ≤ (r.expandBy records x j).length * r.fanOut rest := length_flatMap_le fun y _ => ih y
      _ ≤ (if r.isOpened j then r.cap j else 1) * r.fanOut rest :=
          Nat.mul_le_mul_right _ (length_expandBy_le x j)

theorem length_rowsOf_le (d : Document) :
    (r.rowsOf records d).length ≤ r.fanOut r.activeJoins := by
  rw [rowsOf, List.length_map]
  exact length_expand_le _ _

/-! ## Lists -/

/-- What an expansion has at a level is a list of at most so many records. -/
def ListsAtMost (x : Expansion) (j : Join) (n : Nat) : Prop :=
  ∃ ds, x.attached j = .list ds ∧ ds.length ≤ n

/-- A join that is not opened lists at most as many records as its cap. -/
theorem listsAtMost_of_mem_expandBy {x y : Expansion} {j : Join} (hj : r.isOpened j = false)
    (h : y ∈ r.expandBy records x j) : ListsAtMost y j (r.cap j) := by
  rw [isOpened] at hj
  rw [expandBy, joinedWith, if_neg (by simp [hj]), List.mem_singleton] at h
  subst h
  exact ⟨r.children records x j, by simp [Expansion.attach], length_children_le x j⟩

theorem ListsAtMost.expandBy {x y : Expansion} {j k : Join} (hj : r.isOpened j = false)
    (h : ListsAtMost x j (r.cap j)) (hy : y ∈ r.expandBy records x k) :
    ListsAtMost y j (r.cap j) := by
  by_cases hkj : k = j
  · subst hkj
    exact listsAtMost_of_mem_expandBy hj hy
  · -- another join leaves what is joined at this level
    have hattach : ∀ a, (x.attach k a).attached j = x.attached j := fun a => by
      rw [Expansion.attach]
      exact if_neg fun hjk => hkj hjk.symm
    have hsame : y.attached j = x.attached j := by
      simp only [Request.expandBy, joinedWith] at hy
      split at hy
      · split at hy
        · rw [List.mem_singleton.mp hy, hattach]
        · obtain ⟨d, -, rfl⟩ := List.mem_map.mp hy
          exact hattach _
      · rw [List.mem_singleton.mp hy, hattach]
    rwa [ListsAtMost, hsame]

theorem ListsAtMost.expand {x y : Expansion} {j : Join} {js : List Join}
    (hj : r.isOpened j = false) (h : ListsAtMost x j (r.cap j)) (hy : y ∈ r.expand records js x) :
    ListsAtMost y j (r.cap j) := by
  induction js generalizing x with
  | nil => rwa [List.mem_singleton.mp hy]
  | cons k rest ih =>
    obtain ⟨z, hz, hy⟩ := List.mem_flatMap.mp hy
    exact ih (h.expandBy hj hz) hy

/-- An expansion by joins has a list at each of them that is not opened. -/
theorem listsAtMost_of_mem_expand {x y : Expansion} {j : Join} {js : List Join}
    (hj : r.isOpened j = false) (hmem : j ∈ js) (hy : y ∈ r.expand records js x) :
    ListsAtMost y j (r.cap j) := by
  induction js generalizing x with
  | nil => cases hmem
  | cons k rest ih =>
    obtain ⟨z, hz, hyz⟩ := List.mem_flatMap.mp hy
    rcases List.mem_cons.mp hmem with rfl | hmem
    · exact (listsAtMost_of_mem_expandBy hj hz).expand hj hyz
    · exact ih hmem hyz

/-- The name of a column of a join is in the place where the request asks for the column. -/
theorem mem_nameColumns_of_asked {i : Nat} {j : Join} {c name : String}
    (hasked : r.askedColumns[i]? = some (some j, c)) (hname : r.outputColumns[i]? = some name) :
    (name, j, c) ∈ nameColumns r.baseOutput r.joinedColumns := by
  rw [askedColumns_eq, List.getElem?_append, List.length_map] at hasked
  rw [outputColumns_eq, List.getElem?_append] at hname
  split at hasked
  next => simp at hasked
  next hge =>
    rw [if_neg hge, List.getElem?_map, Option.map_eq_some_iff] at hname
    obtain ⟨⟨name', column⟩, hcolumn, rfl⟩ := hname
    rw [← map_snd_nameColumns r.baseOutput r.joinedColumns, List.getElem?_map, List.getElem?_map,
      hcolumn] at hasked
    obtain ⟨j', c'⟩ := column
    simp only [Option.map_some, Option.some.injEq, Prod.mk.injEq] at hasked
    obtain ⟨rfl, rfl⟩ := hasked
    exact List.mem_of_getElem? hcolumn

/-- The output row of an expansion shows a column of a join under its name. -/
theorem get?_outputRow_of_mem (hr : r.Admissible) (x : Expansion) {name c : String} {j : Join}
    (h : (name, j, c) ∈ nameColumns r.baseOutput r.joinedColumns) {v : Value}
    (hv : (x.attached j).column? c = some v) : (r.outputRow x).get? name = some v := by
  have hnames : ((idField :: r.baseOutput) ++
      (nameColumns r.baseOutput r.joinedColumns).map (·.1)).Nodup := by
    rw [List.cons_append, ← outputColumns_eq]
    exact List.nodup_cons.mpr ⟨idField_not_mem_outputColumns hr, r.nodup_outputColumns⟩
  rw [outputRow, namedColumns_eq, Document.get?_ofFields]
  refine (Document.get?_eq_some_iff ?_).mpr (List.mem_reverse.mpr (List.mem_append_right _ ?_))
  · rw [Document.keys, List.map_reverse, List.nodup_reverse, List.map_append]
    refine hnames.sublist (List.Sublist.append ?_ (keys_filterMap_sublist
      (fun column : String × Join × String => column.1) _ _))
    simpa using keys_filterMap_sublist id x.root.get? (idField :: r.baseOutput)
  · exact List.mem_filterMap.mpr ⟨(name, j, c), h, by simp [hv]⟩

/-! ## Pages -/

/-- What a page shows is bounded: how many root records there are, how many rows each of them has,
and how many entries the lists have that stand in the columns of joins that are not opened. -/
structure Bounded (r : Request) (q : Query) (s : Store) (rows : List Document) : Prop where
  roots : (rows.map rootId?).eraseDups.length ≤ r.pageSize
  stored : ∀ row ∈ rows, ∃ d ∈ s.snapshot .poly, rootId? row = rootId? d
  each : ∀ d ∈ s.snapshot .poly,
    rows.countP (fun row => rootId? row == rootId? d) ≤ r.fanOut q.joins
  lists : ∀ (i : Nat) (j : Join) (c name : String), r.askedColumns[i]? = some (some j, c) →
    q.columns[i]? = some name → r.isOpened j = false →
    ∀ row ∈ rows, ∃ items, row.get? name = some (.array items) ∧ items.length ≤ r.cap j

/-- The rows of the first root records that match are bounded. -/
theorem bounded_nestedLoop (hr : r.Admissible) {s : Store} (hids : Identified (s.snapshot .poly))
    {stages : List Stage} :
    r.Bounded ⟨stages, r.outputColumns, r.activeJoins⟩ s (r.nestedLoop s.snapshot r.pageSize) := by
  have hstored : ∀ d ∈ (r.matchingRoots s.snapshot).take r.pageSize, d ∈ s.snapshot .poly :=
    fun d hd => mem_of_mem_matchingRoots (List.mem_of_mem_take hd)
  have hid : ∀ d : Document, ∀ row ∈ r.rowsOf s.snapshot d, rootId? row = rootId? d :=
    fun d row hrow => rootId?_of_mem_rowsOf hr hrow
  refine ⟨?_, fun row hrow => ?_, fun d hd => ?_, fun i j c name hasked hname hj row hrow => ?_⟩
  · rw [eraseDups_nestedLoop hr hids, List.length_map]
    exact List.length_take_le _ _
  · obtain ⟨d, hd, hrow⟩ := List.mem_flatMap.mp hrow
    exact ⟨d, hstored d hd, hid d row hrow⟩
  · have hnodup : ((r.matchingRoots s.snapshot).take r.pageSize).Nodup :=
      (identified_matchingRoots hids).nodup.of_map.sublist (List.take_sublist _ _)
    rw [List.countP_eq_length_filter, nestedLoop,
      filter_flatMap_rowsOf hids hd (fun e _ => hid e) hnodup hstored]
    split
    · exact length_rowsOf_le d
    · exact Nat.zero_le _
  · obtain ⟨d, -, hrow⟩ := List.mem_flatMap.mp hrow
    obtain ⟨x, hx, rfl⟩ := List.mem_map.mp hrow
    have hcolumn := mem_nameColumns_of_asked hasked hname
    have hactive : j ∈ r.activeJoins := by
      have hjoined : (j, c) ∈ r.joinedColumns := by
        rw [← map_snd_nameColumns r.baseOutput r.joinedColumns]
        exact List.mem_map_of_mem (f := (·.2)) hcolumn
      obtain ⟨k, hk, hkc⟩ := List.mem_flatMap.mp hjoined
      obtain ⟨_, -, heq⟩ := List.mem_map.mp hkc
      exact (Prod.mk.inj heq).1 ▸ hk
    obtain ⟨ds, hattached, hlength⟩ := listsAtMost_of_mem_expand hj hactive hx
    refine ⟨ds.filterMap fun d => d.get? c, ?_, (List.length_filterMap_le _ _).trans hlength⟩
    exact get?_outputRow_of_mem hr x hcolumn (by rw [hattached, Attached.column?])

/-- **Fan-out is bounded by the request.** Whatever sizes a request gives that compiles, and
whatever the store holds below different root records, a page shows rows of at most so many root
records as its size within the bounds, each of them has at most as many rows as the product of the
caps of the opened joins, and a column of a join that is not opened always shows a list, of at most
as many entries as the cap of the join. -/
theorem bounded_of_compile {q : Query} (h : r.compile = .ok q) {s : Store}
    (hids : Identified (s.snapshot .poly)) {budget : Nat} (hbudget : 0 < budget) :
    (∃ rows, s.aggregate .poly q.pipeline budget = .ok rows ∧
      r.Bounded q s (takePage rows r.pageSize) ∧
      (takePage rows r.pageSize).length ≤ r.pageSize * r.fanOut q.joins) ∧
    (1 ≤ r.pageSize ∧ r.pageSize ≤ 200) ∧ ∀ j, 1 ≤ r.cap j ∧ r.cap j ≤ 200 := by
  obtain ⟨hr, cursor, hcursor, rfl⟩ := compile_eq_ok_iff.mp h
  refine ⟨⟨_, aggregate_pipelineFrom hr hcursor s (r.pageSize + 1) hbudget, ?_⟩,
    clampPageSize_bounds _, fun j => clampPageSize_bounds _⟩
  rw [takePage_nestedLoop hr hids (Nat.le_succ r.pageSize)]
  refine ⟨bounded_nestedLoop hr hids, ?_⟩
  calc
    (r.nestedLoop s.snapshot r.pageSize).length
        ≤ ((r.matchingRoots s.snapshot).take r.pageSize).length * r.fanOut r.activeJoins :=
          length_flatMap_le fun d _ => length_rowsOf_le d
    _ ≤ r.pageSize * r.fanOut r.activeJoins :=
          Nat.mul_le_mul_right _ (List.length_take_le _ _)

/-- The request of `familyRequest` with sizes out of all bounds. -/
def wildSizes : Request :=
  { familyRequest with paging := { poly := -4, geom := 0, swiss := Int64.maxValue } }

theorem identified_familyStore : Identified (familyStore.snapshot .poly) := by
  refine ⟨fun d hd => ?_, by decide⟩
  simp only [familyStore, Store.snapshot, PerLevel.get, List.mem_cons, List.not_mem_nil,
    or_false] at hd
  rcases hd with rfl | rfl <;> rfl

/-- Of two root records, the first of which has two geometries, one row is left. -/
theorem bounded_wildSizes :
    ∃ q rows, wildSizes.compile = .ok q ∧ familyStore.aggregate .poly q.pipeline 1 = .ok rows ∧
      rows.length = 2 ∧ wildSizes.Bounded q familyStore (takePage rows wildSizes.pageSize) ∧
      (takePage rows wildSizes.pageSize).length ≤ 1 := by
  have hsome : wildSizes.compile.toOption.isSome := by decide
  cases h : wildSizes.compile with
  | error e => simp [h, Except.toOption] at hsome
  | ok q =>
    obtain ⟨⟨rows, hrows, hbounded, hlength⟩, -⟩ :=
      bounded_of_compile h identified_familyStore (show 0 < 1 by decide)
    have hproduct : wildSizes.pageSize * wildSizes.fanOut wildSizes.activeJoins ≤ 1 := by decide
    obtain ⟨hr, cursor, hcursor, rfl⟩ := compile_eq_ok_iff.mp h
    refine ⟨_, rows, rfl, hrows, ?_, hbounded, hlength.trans hproduct⟩
    have hall := aggregate_pipelineFrom hr hcursor familyStore (wildSizes.pageSize + 1)
      (show 0 < 1 by decide)
    obtain rfl := Except.ok.inj (hrows.symm.trans hall)
    decide +kernel

end Request

end Strata
