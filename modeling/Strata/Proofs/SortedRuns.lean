import Strata.Proofs.Execution
import Strata.Proofs.Sorting

/-!
# Runs with any sort

Stages run in two phases, and the first of them does not sort. A run whose sorts are all over rows in
a total order is the same with every `Sorter`: none of its sorts breaks off, and each has the one
result that a stable sort may have. For the pipeline of a request this is so where the records that
match, and those found for each of its joins, stand in a total order.
-/

namespace Strata

/-! ## The two phases together -/

/-- A filter that is applied while the rows are read is the filter step. -/
theorem scan_eq_runAll (records : Records) (steps : List Step) :
    scan records steps = runAll records steps := by
  cases steps with
  | nil => rfl
  | cons s rest => cases s <;> rfl

mutual

/-- A stage does what its step does. -/
theorem Stage.transform_eq_plan (records : Records) (s : Stage) :
    s.transform records = s.plan.map (Step.run records) := by
  cases s with
  | filter p =>
    rw [Stage.transform, Stage.plan]
    cases p.test <;> rfl
  | lookup level vars pipeline target =>
    rw [Stage.transform, Stage.plan, pipelineTransform_eq_planAll records pipeline]
    cases planAll pipeline <;> rfl
  | sort keys => rfl
  | limit n => rfl
  | unwind field => rfl
  | project fields => rfl

theorem pipelineTransform_eq_planAll (records : Records) (stages : List Stage) :
    pipelineTransform records stages = (planAll stages).map (scan records) := by
  cases stages with
  | nil => rfl
  | cons s rest =>
    rw [pipelineTransform, planAll, Stage.transform_eq_plan records s,
      pipelineTransform_eq_planAll records rest]
    cases s.plan with
    | error e => rfl
    | ok step =>
      cases planAll rest with
      | error e => rfl
      | ok steps =>
        show Except.ok _ = Except.ok _
        rw [scan_eq_runAll, scan_eq_runAll, runAll]

end

/-- Running a pipeline on a level is reading the records of the level. -/
theorem aggregate_eq_runOn (records : Records) (level : Level) (stages : List Stage)
    (budget : Nat) :
    aggregate records level stages budget = runOn records stages (records level) budget := by
  rw [aggregate, runOn, pipelineTransform_eq_planAll]
  cases planAll stages <;> rfl

/-! ## The sort that runs -/

/-- A run of which no part breaks off. -/
theorem mapM_eq_some_map {α β : Type} {l : List α} {f : α → Option β} {g : α → β}
    (h : ∀ a ∈ l, f a = some (g a)) : l.mapM f = some (l.map g) := by
  induction l with
  | nil => rfl
  | cons a rest ih =>
    rw [List.forall_mem_cons] at h
    rw [List.mapM_cons, h.1, ih h.2]
    rfl

mutual

theorem Step.runWith_insertion (records : Records) (s : Step) (bound : Bindings)
    (rows : List Document) :
    s.runWith .insertion records bound rows = some (s.run records bound rows) := by
  cases s with
  | lookup level vars steps target =>
    rw [Step.runWith, Step.run]
    refine mapM_eq_some_map fun row _ => ?_
    rw [runAllWith_insertion records steps, Option.map_some, scan_eq_runAll]
  | filter holds => rfl
  | sort keys => rfl
  | limit n => rfl
  | unwind field => rfl
  | project fields => rfl

theorem runAllWith_insertion (records : Records) (steps : List Step) (bound : Bindings)
    (rows : List Document) :
    runAllWith .insertion records steps bound rows = some (runAll records steps bound rows) := by
  cases steps with
  | nil => rfl
  | cons s rest =>
    show (s.runWith .insertion records bound rows).bind _ = _
    rw [Step.runWith_insertion records s, Option.bind_some, runAllWith_insertion records rest, runAll]

end

/-- **What runs.** Running a pipeline is running it with the sort that inserts one row after the other. -/
theorem aggregateWith_insertion : aggregateWith .insertion = aggregate := by
  funext records level stages budget
  rw [aggregateWith, aggregate_eq_runOn, runOn]
  cases planAll stages with
  | error e => rfl
  | ok steps =>
    dsimp only
    rw [runAllWith_insertion, scan_eq_runAll]

/-! ## Sorts of rows in a total order -/

mutual

/-- All that a stage sorts stands in a total order. -/
def Stage.SortsTotally (records : Records) : Stage → List Document → Prop
  | .sort keys => fun rows => TotallyOrdered keys rows
  | .lookup level vars pipeline _ => fun rows =>
    ∀ row ∈ rows, pipelineSortsTotally records pipeline (bind vars row) (records level)
  | .filter _ => fun _ => True
  | .limit _ => fun _ => True
  | .unwind _ => fun _ => True
  | .project _ => fun _ => True

/-- All that is sorted stands in a total order when stages run on rows. -/
def pipelineSortsTotally (records : Records) : List Stage → Bindings → List Document → Prop
  | [] => fun _ _ => True
  | s :: rest => fun bound rows => s.SortsTotally records rows ∧
    ∀ run, s.transform records = .ok run → pipelineSortsTotally records rest bound (run bound rows)

end

section Stages

variable {records : Records} {bound : Bindings} {rows : List Document}

/-- Stages that only filter sort nothing. -/
theorem pipelineSortsTotally_of_isFilter {stages : List Stage} (h : ∀ s ∈ stages, s.IsFilter) :
    pipelineSortsTotally records stages bound rows := by
  induction stages generalizing rows with
  | nil => trivial
  | cons s rest ih =>
    rw [List.forall_mem_cons] at h
    obtain ⟨⟨p, rfl⟩, hrest⟩ := h
    exact ⟨trivial, fun run _ => ih hrest⟩

/-- Stages behind others sort the rows that these give. -/
theorem pipelineSortsTotally_append {a b : List Stage} {first : Transform}
    (ha : pipelineTransform records a = .ok first)
    (hfirst : pipelineSortsTotally records a bound rows)
    (hothers : pipelineSortsTotally records b bound (first bound rows)) :
    pipelineSortsTotally records (a ++ b) bound rows := by
  induction a generalizing first rows with
  | nil =>
    obtain rfl := Except.ok.inj ha
    exact hothers
  | cons s rest ih =>
    refine ⟨hfirst.1, fun run hrun => ?_⟩
    rw [pipelineTransform, hrun] at ha
    cases hrest : pipelineTransform records rest with
    | error e => simp [hrest] at ha
    | ok others =>
      simp only [hrest, Except.ok.injEq] at ha
      subst ha
      exact ih hrest (hfirst.2 run hrun) hothers

/-- A sort, a limit and a projection behind it sort what they get. -/
theorem pipelineSortsTotally_sort {keys : List SortKey} {n : Nat} {fields : List Projected}
    (h : TotallyOrdered keys rows) :
    pipelineSortsTotally records [.sort keys, .limit n, .project fields] bound rows :=
  ⟨h, fun _ _ => ⟨trivial, fun _ _ => ⟨trivial, fun _ _ => trivial⟩⟩⟩

end Stages

mutual

theorem Step.runWith_eq (S : Sorter) {records : Records} {s : Stage} {step : Step}
    (hplan : s.plan = .ok step) (bound : Bindings) {rows : List Document}
    (h : s.SortsTotally records rows) :
    step.runWith S records bound rows = some (step.run records bound rows) := by
  cases s with
  | filter p =>
    rw [Stage.plan] at hplan
    cases htest : p.test with
    | error e => simp [htest] at hplan
    | ok holds =>
      simp only [htest, Except.ok.injEq] at hplan
      subst hplan
      rfl
  | sort keys =>
    obtain rfl := Except.ok.inj hplan
    exact S.sort_eq h
  | lookup level vars pipeline target =>
    rw [Stage.plan] at hplan
    cases hsteps : planAll pipeline with
    | error e => simp [hsteps] at hplan
    | ok steps =>
      simp only [hsteps, Except.ok.injEq] at hplan
      subst hplan
      rw [Step.runWith, Step.run]
      refine mapM_eq_some_map fun row hrow => ?_
      rw [runAllWith_eq S hsteps _ (h row hrow), Option.map_some, scan_eq_runAll]
  | limit n =>
    obtain rfl := Except.ok.inj hplan
    rfl
  | unwind field =>
    obtain rfl := Except.ok.inj hplan
    rfl
  | project fields =>
    obtain rfl := Except.ok.inj hplan
    rfl

/-- **One run with any sort.** Where all that is sorted stands in a total order, a run does not break
off and does not depend on the sort. -/
theorem runAllWith_eq (S : Sorter) {records : Records} {stages : List Stage} {steps : List Step}
    (hplan : planAll stages = .ok steps) (bound : Bindings) {rows : List Document}
    (h : pipelineSortsTotally records stages bound rows) :
    runAllWith S records steps bound rows = some (runAll records steps bound rows) := by
  cases stages with
  | nil =>
    obtain rfl := Except.ok.inj hplan
    rfl
  | cons s rest =>
    rw [planAll] at hplan
    cases hs : s.plan with
    | error e => simp [hs] at hplan
    | ok step =>
      cases hrest : planAll rest with
      | error e => simp [hs, hrest] at hplan
      | ok others =>
        simp only [hs, hrest, Except.ok.injEq] at hplan
        subst hplan
        have hrun : s.transform records = .ok (step.run records) := by
          rw [Stage.transform_eq_plan, hs]
          rfl
        show (step.runWith S records bound rows).bind _ = _
        rw [Step.runWith_eq S hs bound h.1, Option.bind_some,
          runAllWith_eq S hrest bound (h.2 _ hrun), runAll]

end

/-- Where all that is sorted stands in a total order, a pipeline gives the same with any sort. -/
theorem aggregateWith_eq (S : Sorter) {records : Records} {level : Level} {stages : List Stage}
    (h : pipelineSortsTotally records stages [] (records level)) (budget : Nat) :
    aggregateWith S records level stages budget = aggregate records level stages budget := by
  rw [aggregateWith, aggregate_eq_runOn, runOn]
  cases hplan : planAll stages with
  | error e => rfl
  | ok steps =>
    dsimp only
    rw [runAllWith_eq S hplan [] h, scan_eq_runAll]

/-! ## The pipeline of a request -/

theorem exists_of_forall₂ {α β : Type} {R : α → β → Prop} {xs : List α} {ys : List β}
    (h : List.Forall₂ R xs ys) {y : β} (hy : y ∈ ys) : ∃ x ∈ xs, R x y := by
  induction h with
  | nil => cases hy
  | @cons x y' xs ys hxy _ ih =>
    rcases List.mem_cons.mp hy with rfl | hy
    · exact ⟨x, List.mem_cons_self, hxy⟩
    · obtain ⟨x', hx', hxy'⟩ := ih hy
      exact ⟨x', .tail x hx', hxy'⟩

namespace Request

variable {r : Request} {records : Records}

/-- The stages on the root level sort the records that match. -/
theorem pipelineSortsTotally_rootStages (hr : r.Admissible) {cursor : List Stage}
    (hcursor : r.cursorStages = .ok cursor)
    (h : TotallyOrdered r.rootKeys (r.matching records)) (n : Nat) :
    pipelineSortsTotally records (r.rootStages cursor n) [] (records .poly) := by
  obtain ⟨filters, hfilters, hmatching⟩ := exists_transform_rootFilters records hr hcursor
  refine pipelineSortsTotally_append hfilters
    (pipelineSortsTotally_of_isFilter (isFilter_of_mem hcursor)) ?_
  rw [sortStage_sort hr, hmatching]
  exact pipelineSortsTotally_sort h

/-- For a row that carries an expansion, the pipeline of a join sorts the records related to it. -/
theorem Carries.pipelineSortsTotally_join (hr : r.Admissible) {x : Expansion} {row : Document}
    (hx : r.Carries x row) {j : Join} (h : TotallyOrdered (r.joinKeys j) (r.related records x j)) :
    pipelineSortsTotally records (r.joinPipeline j (conjunction (r.joinConditions.get j)))
      (bind (j.correlation.map Correlation.toVariable) row) (records j.level) := by
  rw [joinPipeline]
  refine pipelineSortsTotally_append (transform_joinFilters records hr j)
    (pipelineSortsTotally_of_isFilter ?_) ?_
  · rw [List.forall_mem_cons]
    exact ⟨⟨_, rfl⟩, isFilter_of_mem_filterStages⟩
  · rw [sortStage_joinSortOf hr]
    rw [← hx.correlated_eq hr] at h
    exact pipelineSortsTotally_sort h

/-- The stages of joins sort the records related to the expansions that the rows carry. -/
theorem pipelineSortsTotally_joinedStages (hr : r.Admissible) {js : List Join} {bound : Bindings}
    {xs : List Expansion} {rows : List Document} (hcarries : List.Forall₂ r.Carries xs rows)
    (h : ∀ x ∈ xs, r.ExpandsTotally records js x) :
    pipelineSortsTotally records (r.joinedStages js) bound rows := by
  induction js generalizing xs rows with
  | nil => trivial
  | cons j rest ih =>
    refine pipelineSortsTotally_append (transform_joinStages hr j) ⟨fun row hrow => ?_, ?_⟩ ?_
    · obtain ⟨x, hx, hxrow⟩ := exists_of_forall₂ hcarries hrow
      exact hxrow.pipelineSortsTotally_join hr (h x hx).1
    · intro run _
      split
      · exact ⟨trivial, fun _ _ => trivial⟩
      · trivial
    · refine ih (forall₂_carries_joinedRows hr hcarries j) fun y hy => ?_
      obtain ⟨x, hx, hy⟩ := List.mem_flatMap.mp hy
      exact (h x hx).2 y hy

/-- Where all that is sorted for a request stands in a total order, so it is when its pipeline runs. -/
theorem SortsTotally.pipelineFrom (h : r.SortsTotally records) (hr : r.Admissible)
    {cursor : List Stage} (hcursor : r.cursorStages = .ok cursor) (n : Nat) :
    pipelineSortsTotally records (r.pipelineFrom cursor n) [] (records .poly) := by
  obtain ⟨root, hroot, hfirst⟩ := exists_transform_rootStages records hr hcursor n
  obtain ⟨joins, hjoins, hcarries⟩ := exists_transform_joinedStages records hr r.activeJoins
  rw [Request.pipelineFrom]
  refine pipelineSortsTotally_append (pipelineTransform_append_of_ok hroot hjoins)
    (pipelineSortsTotally_append hroot (pipelineSortsTotally_rootStages hr hcursor h.roots n) ?_)
    ⟨trivial, fun _ _ => trivial⟩
  rw [hfirst]
  refine pipelineSortsTotally_joinedStages hr (forall₂_carries_ofRoot hr _) fun x hx => ?_
  obtain ⟨d, hd, rfl⟩ := List.mem_map.mp hx
  exact h.joins d (mem_sortRows.mp (List.mem_of_mem_take hd))

section Store

variable {s : Store} {cursor : List Stage}

theorem aggregateWith_pipelineFrom (S : Sorter) (h : r.SortsTotally s.snapshot) (hr : r.Admissible)
    (hcursor : r.cursorStages = .ok cursor) (n budget : Nat) :
    s.aggregateWith S .poly (r.pipelineFrom cursor n) budget
      = s.aggregate .poly (r.pipelineFrom cursor n) budget :=
  aggregateWith_eq S (h.pipelineFrom hr hcursor n) budget

theorem aggregateWith_rootStages (S : Sorter) (h : r.SortsTotally s.snapshot) (hr : r.Admissible)
    (hcursor : r.cursorStages = .ok cursor) (n budget : Nat) :
    s.aggregateWith S .poly (r.rootStages cursor n) budget
      = s.aggregate .poly (r.rootStages cursor n) budget :=
  aggregateWith_eq S (pipelineSortsTotally_rootStages hr hcursor h.roots n) budget

end Store

/-! ## The one answer -/

theorem forall₂_iff_eq_map {α β : Type} {R : α → β → Prop} {f : α → β} {xs : List α} {ys : List β}
    (h : ∀ x ∈ xs, ∀ y, R x y ↔ y = f x) : List.Forall₂ R xs ys ↔ ys = xs.map f := by
  induction xs generalizing ys with
  | nil => simp
  | cons x rest ih =>
    rw [List.forall_mem_cons] at h
    rw [List.forall₂_cons_left_iff, List.map_cons]
    constructor
    · rintro ⟨y, tail, hy, htail, rfl⟩
      rw [(h.1 y).mp hy, (ih h.2).mp htail]
    · rintro rfl
      exact ⟨_, _, (h.1 _).mpr rfl, (ih h.2).mpr rfl, rfl⟩

/-- Where the records found for joins stand in a total order, there is one expansion by them. -/
theorem expands_iff {js : List Join} {x : Expansion} (h : r.ExpandsTotally records js x)
    (xs : List Expansion) : r.Expands records js x xs ↔ xs = r.expand records js x := by
  induction js generalizing x xs with
  | nil => exact Iff.rfl
  | cons j rest ih =>
    have hparts : ∀ parts, List.Forall₂ (r.Expands records rest) (r.expandBy records x j) parts
        ↔ parts = (r.expandBy records x j).map (r.expand records rest) := fun parts =>
      forall₂_iff_eq_map fun y hy => ih (h.2 y hy)
    rw [expand, List.flatMap_def]
    constructor
    · rintro ⟨sorted, parts, hsorted, hrest, rfl⟩
      rw [(sortedBy_iff_eq_sortRows h.1).mp hsorted] at hrest
      rw [(hparts parts).mp hrest]
    · rintro rfl
      exact ⟨_, _, sortedBy_sortRows h.1, (hparts _).mpr rfl, rfl⟩

/-- Where all that is sorted stands in a total order, there is one answer. -/
theorem SortsTotally.isAnswer_iff (h : r.SortsTotally records) (n : Nat) (rows : List Document) :
    r.IsAnswer records n rows ↔ rows = r.nestedLoop records n := by
  have hparts : ∀ parts, List.Forall₂ (fun d => r.Expands records r.activeJoins (.ofRoot d))
      ((r.matchingRoots records).take n) parts ↔ parts = ((r.matchingRoots records).take n).map
        fun d => r.expand records r.activeJoins (.ofRoot d) := fun parts =>
    forall₂_iff_eq_map fun d hd =>
      expands_iff (h.joins d (mem_sortRows.mp (List.mem_of_mem_take hd)))
  have hrows : r.nestedLoop records n = (((r.matchingRoots records).take n).map fun d =>
      r.expand records r.activeJoins (.ofRoot d)).flatten.map r.outputRow := by
    rw [nestedLoop, List.flatMap_def, List.map_flatten, List.map_map]
    rfl
  rw [hrows]
  constructor
  · rintro ⟨roots, parts, hroots, hrest, rfl⟩
    rw [(sortedBy_iff_eq_sortRows h.roots).mp hroots] at hrest
    rw [(hparts parts).mp hrest]
  · rintro rfl
    exact ⟨_, _, sortedBy_sortRows h.roots, (hparts _).mpr rfl, rfl⟩

/-- **Compiling and running is going through the levels.** Whatever the store holds, if all that is
sorted for a request stands in a total order, then running the pipeline that the request compiles to
gives the one answer for one record more than its page has, however rows are sorted. -/
theorem aggregate_of_compile {q : Query} (h : r.compile = .ok q) (s : Store)
    (hsorts : r.SortsTotally s.snapshot) {budget : Nat} (hbudget : 0 < budget) :
    ∃ rows, s.aggregate .poly q.pipeline budget = .ok rows ∧
      (∀ S : Sorter, s.aggregateWith S .poly q.pipeline budget = .ok rows) ∧
      ∀ rows', r.IsAnswer s.snapshot (r.pageSize + 1) rows' ↔ rows' = rows := by
  obtain ⟨hr, cursor, hcursor, rfl⟩ := compile_eq_ok_iff.mp h
  have hrows := aggregate_pipelineFrom hr hcursor s (r.pageSize + 1) hbudget
  refine ⟨_, hrows, fun S => ?_, hsorts.isAnswer_iff (r.pageSize + 1)⟩
  exact (aggregateWith_pipelineFrom S hsorts hr hcursor (r.pageSize + 1) budget).trans hrows

/-- The geometries and Swiss cheese entries of a family, and its two records. -/
theorem aggregate_familyRequest :
    ∃ q rows, familyRequest.compile = .ok q ∧ familyStore.aggregate .poly q.pipeline 1 = .ok rows ∧
      rows.length = 3 := by
  have hsome : familyRequest.compile.toOption.isSome := by decide
  have hsorts : familyRequest.SortsTotally familyStore.snapshot := by decide +kernel
  cases h : familyRequest.compile with
  | error e => simp [h, Except.toOption] at hsome
  | ok q =>
    obtain ⟨rows, hrows, -, hanswer⟩ := aggregate_of_compile h familyStore hsorts (show 0 < 1 by decide)
    refine ⟨q, rows, rfl, hrows, ?_⟩
    rw [← (hanswer _).mp ((hsorts.isAnswer_iff _ _).mpr rfl)]
    decide +kernel

end Request

end Strata
