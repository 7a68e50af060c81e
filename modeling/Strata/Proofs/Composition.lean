import Strata.Proofs.Paging

/-!
# Running a pipeline in parts

Reading with the filter in front gives the same rows as the filter step behind a reading without it,
so it does not matter where a pipeline is cut: running the rest on the rows of a first part is
running the whole. For a request this means that the rows of its pipeline come from the rows of its
probe, which neither joins nor opens anything.
-/

namespace Strata

variable {records : Records}

/-! ## Parts -/

theorem planAll_append {a : List Stage} {steps : List Step} (ha : planAll a = .ok steps)
    (b : List Stage) : planAll (a ++ b) = (planAll b).map (steps ++ ·) := by
  induction a generalizing steps with
  | nil =>
    obtain rfl := Except.ok.inj ha
    rw [List.nil_append]
    cases planAll b <;> rfl
  | cons s rest ih =>
    rw [planAll] at ha
    cases hs : s.plan with
    | error e => simp [hs] at ha
    | ok step =>
      cases hrest : planAll rest with
      | error e => simp [hs, hrest] at ha
      | ok later =>
        simp only [hs, hrest, Except.ok.injEq] at ha
        subst ha
        rw [List.cons_append, planAll, hs, ih hrest]
        cases planAll b <;> rfl

theorem runAll_append (records : Records) (first others : List Step) (bound : Bindings)
    (rows : List Document) :
    runAll records (first ++ others) bound rows
      = runAll records others bound (runAll records first bound rows) := by
  induction first generalizing rows with
  | nil => rfl
  | cons s rest ih =>
    show runAll records (rest ++ others) bound (s.run records bound rows) = _
    exact ih (s.run records bound rows)

/-- Under any variables, steps behind others read what these give. -/
theorem scan_append (records : Records) (first others : List Step) (bound : Bindings)
    (input : List Document) :
    scan records (first ++ others) bound input
      = scan records others bound (scan records first bound input) := by
  rw [scan_eq_runAll, scan_eq_runAll, scan_eq_runAll, runAll_append]

/-- Stages behind others run on the rows that these give. -/
theorem exists_runOn_append {a : List Stage} {steps : List Step} (ha : planAll a = .ok steps)
    (b : List Stage) (input : List Document) {budget : Nat} (hbudget : 0 < budget) :
    ∃ rows, runOn records a input budget = .ok rows ∧
      runOn records (a ++ b) input budget = runOn records b rows budget := by
  refine ⟨scan records steps [] input, by rw [runOn, ha]; exact if_neg hbudget.ne', ?_⟩
  rw [runOn, runOn, planAll_append ha]
  cases planAll b with
  | error e => rfl
  | ok others =>
    show (if budget = 0 then _ else Except.ok (scan records (steps ++ others) [] input)) = _
    rw [scan_append]

theorem exists_planAll_of_aggregate {level : Level} {stages : List Stage} {budget : Nat}
    {rows : List Document} (h : aggregate records level stages budget = .ok rows) :
    ∃ steps, planAll stages = .ok steps := by
  rw [aggregate_eq_runOn, runOn] at h
  cases hplan : planAll stages with
  | error e => simp [hplan] at h
  | ok steps => exact ⟨steps, rfl⟩

/-! ## The probe -/

/-- Whether a stage joins rows or opens a list. -/
def Stage.fansOut : Stage → Bool
  | lookup .. | unwind _ => true
  | _ => false

theorem probeStages_prefix (stages : List Stage) : probeStages stages <+: stages := by
  induction stages with
  | nil => exact List.prefix_rfl
  | cons s rest ih =>
    rw [probeStages]
    split
    · exact List.prefix_cons_inj s |>.mpr (List.nil_prefix)
    · exact (List.prefix_cons_inj s).mpr ih

namespace Request

variable {r : Request}

/-- The stages on the root level neither join nor open anything. -/
theorem fansOut_of_mem_rootStages {cursor : List Stage} (hcursor : r.cursorStages = .ok cursor)
    {n : Nat} {s : Stage} (hs : s ∈ r.rootStages cursor n) : s.fansOut = false := by
  rcases List.mem_append.mp hs with hs | hs
  · obtain ⟨p, rfl⟩ := isFilter_of_mem hcursor s hs
    rfl
  · simp only [List.mem_cons, List.not_mem_nil, or_false] at hs
    rcases hs with rfl | rfl | rfl <;> rfl

end Request

/-- **Execution is compositional.** Running a pipeline on a level of a store is reading the records
of the level, where it makes no difference whether a filter in front decides while they are read. So
any pipeline can be cut behind a part whose patterns compile: the whole gives what the rest gives,
without variables, when it reads the rows of the first part. In particular the probe of a request
that compiles joins and opens nothing, and the rows of its pipeline are what the stages behind the
probe give for the rows of the probe. -/
theorem Store.aggregate_append (s : Store) {main probe : Nat} (hmain : 0 < main)
    (hprobe : 0 < probe) :
    (∀ level stages, s.aggregate level stages main
      = runOn s.snapshot stages (s.snapshot level) main) ∧
    (∀ steps bound input, scan s.snapshot steps bound input = runAll s.snapshot steps bound input) ∧
    (∀ level a b steps, planAll a = .ok steps →
      ∃ rows, s.aggregate level a main = .ok rows ∧
        s.aggregate level (a ++ b) main = runOn s.snapshot b rows main) ∧
    ∀ (r : Request) (q : Query), r.compile = .ok q →
      (∀ stage ∈ probeStages q.pipeline, stage.fansOut = false) ∧
      ∃ rest roots rows, q.pipeline = probeStages q.pipeline ++ rest ∧
        s.aggregate .poly (probeStages q.pipeline) probe = .ok roots ∧
        s.aggregate .poly q.pipeline main = .ok rows ∧
        runOn s.snapshot rest roots main = .ok rows := by
  have hread : ∀ level stages, s.aggregate level stages main
      = runOn s.snapshot stages (s.snapshot level) main :=
    fun level stages => aggregate_eq_runOn s.snapshot level stages main
  have hcut : ∀ level a b steps, planAll a = .ok steps →
      ∃ rows, s.aggregate level a main = .ok rows ∧
        s.aggregate level (a ++ b) main = runOn s.snapshot b rows main := by
    intro level a b steps ha
    rw [hread, hread]
    exact exists_runOn_append ha b (s.snapshot level) hmain
  refine ⟨hread, fun steps bound input => by rw [scan_eq_runAll], hcut, ?_⟩
  intro r q hcompile
  obtain ⟨hr, cursor, hcursor, rfl⟩ := Request.compile_eq_ok_iff.mp hcompile
  have hwhole := Request.aggregate_pipelineFrom hr hcursor s (r.pageSize + 1) hmain
  refine ⟨fun stage hstage => ?_, ?_⟩
  · rw [Request.probeStages_pipelineFrom hcursor] at hstage
    exact Request.fansOut_of_mem_rootStages hcursor hstage
  · -- The roots do not depend on the budget, as long as there is one.
    have hroots := Request.aggregate_probeStages hr hcursor s (r.pageSize + 1) hprobe
    have hagain := Request.aggregate_probeStages hr hcursor s (r.pageSize + 1) hmain
    obtain ⟨rest, hrest⟩ := probeStages_prefix (r.pipelineFrom cursor (r.pageSize + 1))
    obtain ⟨steps, hsteps⟩ := exists_planAll_of_aggregate hagain
    obtain ⟨rows, hrows, happend⟩ := hcut .poly _ rest steps hsteps
    obtain rfl := Except.ok.inj (hrows.symm.trans hagain)
    rw [hrest] at happend
    exact ⟨rest, _, _, hrest.symm, hroots, hwhole, happend.symm.trans hwhole⟩

/-- The geometries of every root record, sought by its name, and then a row for each of them. -/
def familyLookup : List Stage :=
  [.filter (.compare "POLYID" .gte (.int32 1)),
   .lookup .geom [⟨"p", "$POLYID"⟩] [.filter (.correlate [("POLYID", "p")])] "geom"]

/-- Behind the lookup, a filter in front reads the joined rows; the probe of a request has both
roots. -/
theorem aggregate_append_familyStore :
    (∃ steps rows, planAll familyLookup = .ok steps ∧
      Request.familyStore.aggregate .poly familyLookup 1 = .ok rows ∧ rows.length = 2 ∧
      Request.familyStore.aggregate .poly
          (familyLookup ++ [.filter (.compare "POLYID" .lt (.int32 2)), .unwind "geom"]) 1
        = runOn Request.familyStore.snapshot
          [.filter (.compare "POLYID" .lt (.int32 2)), .unwind "geom"] rows 1) ∧
    ∃ q roots, Request.familyRequest.compile = .ok q ∧
      Request.familyStore.aggregate .poly (probeStages q.pipeline) 1 = .ok roots := by
  obtain ⟨-, -, hcut, hquery⟩ :=
    Request.familyStore.aggregate_append (show 0 < 1 by decide) (show 0 < 1 by decide)
  constructor
  · obtain ⟨rows, hrows, happend⟩ := hcut .poly familyLookup _ _ rfl
    refine ⟨_, rows, rfl, hrows, ?_, happend⟩
    obtain rfl := Except.ok.inj hrows
    decide +kernel
  · have hsome : Request.familyRequest.compile.toOption.isSome := by decide
    cases h : Request.familyRequest.compile with
    | error e => simp [h, Except.toOption] at hsome
    | ok q =>
      obtain ⟨-, rest, roots, rows, -, hroots, -⟩ := hquery _ _ h
      exact ⟨q, roots, rfl, hroots⟩

end Strata
