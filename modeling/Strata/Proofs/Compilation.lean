import Strata.Proofs.Registry
import Strata.Request.Compile

/-!
# What compiling accepts, and what it gives

`Request.Admissible` says which requests pass the checks of compiling, apart from their cursor.
`Request.compile_eq_ok_iff` is the whole of compiling in one equation: it succeeds exactly on
admissible requests whose cursor is readable, and then gives the pipeline `Request.pipelineFrom`.
-/

namespace Strata

theorem bind_eq_ok_iff {ε α β : Type} {x : Except ε α} {f : α → Except ε β} {b : β} :
    x >>= f = .ok b ↔ ∃ a, x = .ok a ∧ f a = .ok b := by
  cases x with
  | error e =>
    show Except.error e = .ok b ↔ _
    simp
  | ok a =>
    show f a = .ok b ↔ _
    simp

theorem bind_eq_error_iff {ε α β : Type} {x : Except ε α} {f : α → Except ε β} {e : ε} :
    x >>= f = .error e ↔ x = .error e ∨ ∃ a, x = .ok a ∧ f a = .error e := by
  cases x with
  | error e' =>
    show Except.error e' = .error e ↔ _
    simp
  | ok a =>
    show f a = .error e ↔ _
    simp

/-- What follows a check runs if the check passes. -/
theorem check_bind_eq_ok_iff {ε β : Type} {x : Except ε Unit} {f : Unit → Except ε β} {b : β} :
    x >>= f = .ok b ↔ x = .ok () ∧ f () = .ok b := by
  rw [bind_eq_ok_iff]
  exact ⟨fun ⟨(), h⟩ => h, fun h => ⟨(), h⟩⟩

/-! ## The checks one by one -/

theorem checkColumns_eq_ok_iff {l : Level} {columns : List String} :
    checkColumns l columns = .ok () ↔ ∀ c ∈ columns, c ∈ l.columns := by
  rw [checkColumns]
  cases h : columns.find? fun c => !l.isColumn c with
  | none =>
    rw [List.find?_eq_none] at h
    simpa [Level.isColumn_iff] using h
  | some c =>
    have hc : ¬ l.isColumn c = true := by simpa using List.find?_some h
    rw [Level.isColumn_iff] at hc
    simp only [reduceCtorEq, false_iff]
    exact fun hall => hc (hall c (List.mem_of_find?_eq_some h))

theorem checkSort_eq_ok_iff {l : Level} {allowed : List String} {field : String} :
    checkSort l allowed field = .ok () ↔ field ∈ allowed := by
  rw [checkSort]
  by_cases h : field ∈ allowed <;> simp [h]

theorem checkEach_eq_ok_iff {check : Join → Except Fault Unit} {js : List Join} :
    checkEach check js = .ok () ↔ ∀ j ∈ js, check j = .ok () := by
  induction js with
  | nil => simp [checkEach]
  | cons j rest ih =>
    rw [checkEach, List.forall_mem_cons, ← ih]
    cases check j <;> simp

theorem checkEach_all_eq_ok_iff {check : Join → Except Fault Unit} :
    checkEach check Join.all = .ok () ↔ ∀ j, check j = .ok () := by
  rw [checkEach_eq_ok_iff]
  exact ⟨fun h j => h j j.mem_all, fun h j _ => h j⟩

theorem checkConditions_eq_ok_iff {l : Level} {cs : List Condition} :
    checkConditions l cs = .ok () ↔ ∀ c ∈ cs, c.check l = .ok () := by
  induction cs with
  | nil => simp [checkConditions]
  | cons c rest ih =>
    rw [checkConditions, List.forall_mem_cons, ← ih]
    cases c.check l <;> simp

/-- The predicate of conditions that have been checked. -/
def conjunction (cs : List Condition) : Option Predicate :=
  if cs.isEmpty then none else some (.all (cs.map Condition.toPredicate))

theorem compileConditions_eq_ok_iff {l : Level} {cs : List Condition} {p : Option Predicate} :
    compileConditions l cs = .ok p ↔ (∀ c ∈ cs, c.check l = .ok ()) ∧ p = conjunction cs := by
  rw [compileConditions, conjunction, ← checkConditions_eq_ok_iff]
  cases checkConditions l cs with
  | error e => simp
  | ok u =>
    by_cases h : cs.isEmpty = true
    · simp [h, eq_comm]
    · simp [h, eq_comm]

/-! ## Admissible requests -/

namespace Request

/-- A request that names only what the allowlist has, at every place, and gives columns and
conditions only for joins that take part. -/
structure Admissible (r : Request) : Prop where
  base_columns : ∀ c ∈ r.base.columns, c ∈ Level.poly.columns
  join_columns : ∀ j, ∀ c ∈ r.joinColumns.get j, c ∈ j.level.columns
  base_conditions : ∀ c ∈ r.base.conditions, c.check .poly = .ok ()
  join_conditions : ∀ j, ∀ c ∈ r.joinConditions.get j, c.check j.level = .ok ()
  sort : r.sort.field ∈ Level.poly.sortable
  join_sort : ∀ j, (r.joinSortOf j).field ∈ j.sortFields
  idle_columns : ∀ j, j ∉ r.activeJoins → r.joinColumns.get j = []
  idle_conditions : ∀ j, j ∉ r.activeJoins → r.joinConditions.get j = []

/-- No idle join is found to have a list that is not empty. -/
theorem find?_idle_eq_none_iff {α : Type} {r : Request} {f : Join → List α} :
    (Join.all.filter fun j => !r.activeJoins.contains j).find? (fun j => !(f j).isEmpty) = none
      ↔ ∀ j, j ∉ r.activeJoins → f j = [] := by
  simp only [List.find?_eq_none, List.mem_filter, Join.mem_all, true_and, Bool.not_eq_true',
    Bool.not_eq_false, List.isEmpty_iff, List.contains_eq_mem, decide_eq_false_iff_not]

/-- The checks of compiling pass on requests that are admissible but for the conditions on the
root. -/
theorem check_eq_ok_iff {r : Request} :
    r.check = .ok () ↔
      (∀ c ∈ r.base.columns, c ∈ Level.poly.columns) ∧
      (∀ j, ∀ c ∈ r.joinColumns.get j, c ∈ j.level.columns) ∧
      r.sort.field ∈ Level.poly.sortable ∧
      (∀ j, (r.joinSortOf j).field ∈ j.sortFields ∧
        ∀ c ∈ r.joinConditions.get j, c.check j.level = .ok ()) ∧
      (∀ j, j ∉ r.activeJoins → r.joinColumns.get j = []) ∧
      (∀ j, j ∉ r.activeJoins → r.joinConditions.get j = []) := by
  rw [← find?_idle_eq_none_iff, ← find?_idle_eq_none_iff]
  simp only [check, check_bind_eq_ok_iff, checkColumns_eq_ok_iff, checkEach_all_eq_ok_iff,
    checkSort_eq_ok_iff, checkConditions_eq_ok_iff]
  refine and_congr_right fun _ => and_congr_right fun _ => and_congr_right fun _ =>
    and_congr_right fun _ => ?_
  -- what is left of the checks looks for an idle join, first by its columns
  split
  next j hj =>
    show Except.error _ = .ok () ↔ _
    rw [hj]
    simp only [reduceCtorEq, false_and]
  next hcolumns =>
    rw [hcolumns]
    split
    next j hj =>
      show Except.error _ = .ok () ↔ _
      rw [hj]
      simp only [reduceCtorEq, and_false]
    next hconditions =>
      show Except.ok () = .ok () ↔ _
      rw [hconditions]
      simp only [and_self]

end Request

/-! ## The pipeline -/

/-- Whether a stage is a filter. -/
def Stage.IsFilter (s : Stage) : Prop := ∃ p, s = .filter p

namespace Request

theorem isFilter_of_mem_filterStages {p : Option Predicate} : ∀ s ∈ filterStages p, s.IsFilter := by
  intro s hs
  cases p with
  | none => simp [filterStages] at hs
  | some p =>
    rw [filterStages, List.mem_singleton] at hs
    exact ⟨p, hs⟩

/-- The stage of the cursor, if there is one, keeps the rows behind some record. -/
theorem exists_of_mem_cursorStages {r : Request} {cursor : List Stage}
    (h : r.cursorStages = .ok cursor) {s : Stage} (hs : s ∈ cursor) :
    ∃ id, s = .filter (Cursor.beyond r.sort.direction id) := by
  rw [cursorStages] at h
  cases htoken : r.token? with
  | none =>
    simp only [htoken, Except.ok.injEq] at h
    simp [← h] at hs
  | some token =>
    simp only [htoken, Cursor.continuation] at h
    cases hid : Cursor.decode token with
    | error e => simp [hid] at h
    | ok id =>
      cases hoid : ObjectId.ofHex? id with
      | none => simp [hid, hoid] at h
      | some oid =>
        simp only [hid, hoid, Except.ok.injEq] at h
        exact ⟨oid, List.mem_singleton.mp (h ▸ hs)⟩

/-- Before the sort a pipeline only filters. -/
theorem isFilter_of_mem {r : Request} {cursor : List Stage} (hcursor : r.cursorStages = .ok cursor) :
    ∀ s ∈ filterStages (conjunction r.base.conditions) ++ cursor, s.IsFilter := by
  intro s hs
  rcases List.mem_append.mp hs with hs | hs
  · exact isFilter_of_mem_filterStages s hs
  · obtain ⟨id, rfl⟩ := exists_of_mem_cursorStages hcursor hs
    exact ⟨_, rfl⟩

/-- The stages on the root level before anything is joined, for `n` records. -/
def rootStages (r : Request) (cursor : List Stage) (n : Nat) : List Stage :=
  filterStages (conjunction r.base.conditions) ++ cursor ++
    [sortStage r.sort, .limit n, keepFields (rootKey :: r.sort.field :: r.base.columns)]

/-- The stages of joins one after the other. -/
def joinedStages (r : Request) (js : List Join) : List Stage :=
  js.flatMap fun j => r.joinStages j (conjunction (r.joinConditions.get j))

/-- The pipeline for `n` records of the root level. -/
def pipelineFrom (r : Request) (cursor : List Stage) (n : Nat) : List Stage :=
  r.rootStages cursor n ++ r.joinedStages r.activeJoins ++ [r.outputStage]

theorem joinsStages_eq_ok_iff {r : Request} {js : List Join} {stages : List Stage} :
    r.joinsStages js = .ok stages ↔
      (∀ j ∈ js, ∀ c ∈ r.joinConditions.get j, c.check j.level = .ok ()) ∧
      stages = r.joinedStages js := by
  induction js generalizing stages with
  | nil => simp [joinsStages, joinedStages, eq_comm]
  | cons j rest ih =>
    rw [joinsStages, bind_eq_ok_iff, List.forall_mem_cons]
    simp only [compileConditions_eq_ok_iff, bind_eq_ok_iff, ih]
    constructor
    · rintro ⟨p, ⟨hj, rfl⟩, later, ⟨hrest, rfl⟩, hstages⟩
      exact ⟨⟨hj, hrest⟩, (Except.ok.inj hstages).symm⟩
    · rintro ⟨⟨hj, hrest⟩, rfl⟩
      exact ⟨_, ⟨hj, rfl⟩, _, ⟨hrest, rfl⟩, rfl⟩

/-- Compiling succeeds exactly on admissible requests whose cursor is readable; what it gives then is
determined by the request. -/
theorem compile_eq_ok_iff {r : Request} {q : Query} :
    r.compile = .ok q ↔ r.Admissible ∧ ∃ cursor, r.cursorStages = .ok cursor ∧
      q = ⟨r.pipelineFrom cursor (r.pageSize + 1), r.outputColumns, r.activeJoins⟩ := by
  rw [compile, check_bind_eq_ok_iff, check_eq_ok_iff]
  simp only [bind_eq_ok_iff, compileConditions_eq_ok_iff, joinsStages_eq_ok_iff]
  constructor
  · rintro ⟨⟨hbase, hcols, hsort, hjoins, hidle, hidle'⟩, p, ⟨hconds, rfl⟩, cursor, hcursor,
      joined, ⟨_, rfl⟩, hq⟩
    have hr : r.Admissible :=
      ⟨hbase, hcols, hconds, fun j => (hjoins j).2, hsort, fun j => (hjoins j).1, hidle, hidle'⟩
    exact ⟨hr, cursor, hcursor, (Except.ok.inj hq).symm⟩
  · rintro ⟨hr, cursor, hcursor, rfl⟩
    have hjoins : ∀ j, (r.joinSortOf j).field ∈ j.sortFields ∧
        ∀ c ∈ r.joinConditions.get j, c.check j.level = .ok () :=
      fun j => ⟨hr.join_sort j, hr.join_conditions j⟩
    exact ⟨⟨hr.base_columns, hr.join_columns, hr.sort, hjoins, hr.idle_columns,
        hr.idle_conditions⟩,
      _, ⟨hr.base_conditions, rfl⟩, cursor, hcursor,
      _, ⟨fun j _ => hr.join_conditions j, rfl⟩, rfl⟩

end Request

end Strata
