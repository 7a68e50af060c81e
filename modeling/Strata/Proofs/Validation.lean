import Strata.Proofs.Compilation
import Strata.Request.Validation

/-!
# Validated requests compile

A list of issues is empty exactly if the place it is about is in order; so a request without issues
names only what the allowlist has. Normalising activates every join that has columns or conditions.
Together: what validation lets through, compiling accepts.
-/

namespace Strata

/-! ## When a place has no issues -/

/-- A list of columns is in order if they are columns of the level, none of them given twice. -/
theorem columnIssues_eq_nil_iff {path : String} {l : Level} {seen columns : List String} :
    columnIssues path l seen columns = [] ↔
      (∀ c ∈ columns, c ∉ seen ∧ c ∈ l.columns) ∧ columns.Nodup := by
  induction columns generalizing seen with
  | nil => simp [columnIssues]
  | cons c rest ih =>
    rw [columnIssues, List.append_eq_nil_iff, ih, List.forall_mem_cons, List.nodup_cons]
    have hhere : (if seen.contains c then [(⟨path, "duplicate column " ++ c⟩ : Issue)]
        else if l.isColumn c then []
        else [⟨path, "unknown column " ++ l.name ++ "." ++ c⟩]) = [] ↔ c ∉ seen ∧ c ∈ l.columns := by
      rw [← Level.isColumn_iff]
      by_cases hs : c ∈ seen <;> by_cases hc : l.isColumn c = true <;> simp [hs, hc]
    rw [hhere]
    constructor
    · rintro ⟨hc, hrest, hnodup⟩
      refine ⟨⟨hc, fun c' hc' => ⟨fun h => (hrest c' hc').1 (List.mem_cons_of_mem c h),
        (hrest c' hc').2⟩⟩, fun h => ?_, hnodup⟩
      exact (hrest c h).1 List.mem_cons_self
    · rintro ⟨⟨hc, hrest⟩, hnot, hnodup⟩
      refine ⟨hc, fun c' hc' => ⟨fun h => ?_, (hrest c' hc').2⟩, hnodup⟩
      rcases List.mem_cons.mp h with rfl | h
      · exact hnot hc'
      · exact (hrest c' hc').1 h

/-- Why a condition is refused: for its field, for its operator, or for its value, which is a pattern or a
list that is too long. -/
theorem Condition.check_eq_error {l : Level} {c : Condition} {e : Fault} (h : c.check l = .error e) :
    e = .fieldNotFilterable l c.field ∨ e = .operatorNotAllowed l c.field c.op ∨
      (∃ reason, e = .invalidPattern l c.field reason) ∨ ∃ i, e = .validation [i] := by
  rw [check] at h
  cases hops : l.operators? c.field with
  | none =>
    rw [hops] at h
    exact .inl (Except.error.inj h).symm
  | some ops =>
    simp only [hops] at h
    split at h
    · rw [checkValue] at h
      split at h
      · split at h
        · cases h
        · exact .inr (.inr (.inl ⟨_, (Except.error.inj h).symm⟩))
      · dsimp only at h
        split at h
        · cases h
        · exact .inr (.inr (.inr ⟨_, (Except.error.inj h).symm⟩))
      · cases h
    · exact .inr (.inl (Except.error.inj h).symm)

/-- A refused condition always has an issue. -/
theorem refusalIssues_ne_nil {path : String} {l : Level} {c : Condition} {e : Fault}
    (h : c.check l = .error e) : refusalIssues path e ≠ [] := by
  rcases Condition.check_eq_error h with rfl | rfl | ⟨reason, rfl⟩ | ⟨i, rfl⟩ <;>
    simp [refusalIssues]

theorem conditionIssues_eq_nil_iff {path : String} {l : Level} {c : Condition} :
    conditionIssues path l c = [] ↔ Text.isBlankText c.field = false ∧ c.check l = .ok () := by
  rw [conditionIssues]
  by_cases hb : Text.isBlankText c.field = true
  · simp [hb]
  · rw [if_neg hb]
    cases h : c.check l with
    | ok u => simpa using hb
    | error e => simp [refusalIssues_ne_nil h]

theorem conditionListIssues_eq_nil_iff {path : String} {l : Level} {i : Nat}
    {cs : List Condition} :
    conditionListIssues path l i cs = [] ↔
      ∀ c ∈ cs, Text.isBlankText c.field = false ∧ c.check l = .ok () := by
  induction cs generalizing i with
  | nil => simp [conditionListIssues]
  | cons c rest ih =>
    rw [conditionListIssues, List.append_eq_nil_iff, ih, conditionIssues_eq_nil_iff,
      List.forall_mem_cons]

theorem sortIssues_eq_nil_iff {path : String} {allowed : List String} {field : String} :
    sortIssues path allowed field = [] ↔ Text.isBlankText field = false ∧ field ∈ allowed := by
  rw [sortIssues]
  by_cases hb : Text.isBlankText field = true
  · simp [hb]
  · by_cases hf : field ∈ allowed <;> simp [hb, hf]

namespace Request

theorem cursorIssues_eq_nil_iff {r : Request} :
    r.cursorIssues = [] ↔ ∃ cursor, r.cursorStages = .ok cursor := by
  rw [cursorIssues, cursorStages]
  cases r.token? with
  | none => simp
  | some token =>
    cases h : Cursor.continuation r.sort.direction token with
    | ok p => simp [h]
    | error e => simp [h, Fault.issues]

/-- The issues of everything but the cursor. -/
def bodyIssues (r : Request) : List Issue := { r with cursor := none }.issues

theorem issues_eq (r : Request) : r.issues = r.bodyIssues ++ r.cursorIssues := by
  have hnone : { r with cursor := none }.cursorIssues = [] := rfl
  rw [bodyIssues, issues, issues, hnone, List.append_nil]
  rfl

theorem validate_eq_ok_iff {r v : Request} :
    r.validate = .ok v ↔ r.issues = [] ∧ v = r.normalize := by
  rw [validate]
  cases r.issues <;> simp [eq_comm]

/-- A valid request is in order wherever compiling looks. -/
theorem places_of_bodyIssues_eq_nil {r : Request} (h : r.bodyIssues = []) :
    (∀ c ∈ r.base.columns, c ∈ Level.poly.columns) ∧
    (∀ c ∈ r.base.conditions, c.check .poly = .ok ()) ∧
    r.sort.field ∈ Level.poly.sortable ∧
    ∀ j, (∀ c ∈ r.joinColumns.get j, c ∈ j.level.columns) ∧
      (∀ c ∈ r.joinConditions.get j, c.check j.level = .ok ()) ∧
      (r.joinSortOf j).field ∈ j.sortFields := by
  simp only [bodyIssues, issues, List.append_eq_nil_iff, List.flatMap_eq_nil_iff, joinIssues,
    columnIssues_eq_nil_iff, conditionListIssues_eq_nil_iff, sortIssues_eq_nil_iff] at h
  obtain ⟨⟨⟨⟨⟨-, hsort⟩, hcolumns⟩, hconditions⟩, hjoins⟩, -⟩ := h
  refine ⟨fun c hc => (hcolumns.1 c hc).2, fun c hc => (hconditions c hc).2, hsort.2, fun j => ?_⟩
  obtain ⟨⟨hcolumns, hconditions⟩, hsort⟩ := hjoins j j.mem_all
  refine ⟨fun c hc => (hcolumns.1 c hc).2, fun c hc => (hconditions c hc).2, ?_⟩
  -- a sort that is not given has no issues, but compiling checks the default in its place
  rw [joinSortOf]
  cases hs : r.joinSort.get j with
  | none => exact j.defaultSort_mem_sortFields
  | some s =>
    simp only [hs, sortIssues_eq_nil_iff] at hsort
    exact hsort.2

/-! ## Normalising -/

theorem mem_activeJoins_of_mem_joins {r : Request} {j : Join} (h : j ∈ r.joins) :
    j ∈ r.activeJoins := by
  simp only [activeJoins, effectiveJoins, List.mem_filter, Bool.or_eq_true, List.any_eq_true]
  exact ⟨j.mem_all, .inr ⟨j, h, by simpa using j.mem_path_self⟩⟩

/-- Every join that is used or requested takes part after normalising. -/
theorem mem_joins_normalize {r : Request} {j : Join} (h : r.uses j = true ∨ j ∈ r.joins) :
    j ∈ r.normalize.joins := by
  simp only [normalize, closeJoins, List.mem_filter, List.any_eq_true, Bool.and_eq_true,
    Bool.or_eq_true]
  exact ⟨j.mem_all, j, j.mem_all, by simpa using h, by simpa using j.mem_path_self⟩

/-- A blank cursor is none, before normalising and after it. -/
theorem token?_normalize (r : Request) : r.normalize.token? = r.token? := by
  by_cases h : r.token?.isSome = true
  · have hcursor : r.normalize.cursor = r.cursor := by simp [normalize, h]
    rw [token?, token?, hcursor]
  · have hcursor : r.normalize.cursor = none := by simp [normalize, h]
    rw [Option.not_isSome_iff_eq_none] at h
    rw [h, token?, hcursor]

theorem cursorStages_normalize (r : Request) : r.normalize.cursorStages = r.cursorStages := by
  rw [cursorStages, cursorStages, token?_normalize]
  rfl

theorem uses_eq_false_iff {r : Request} {j : Join} :
    r.uses j = false ↔ r.joinColumns.get j = [] ∧ r.joinConditions.get j = [] := by
  simp [uses]

theorem admissible_normalize {r : Request} (h : r.bodyIssues = []) : r.normalize.Admissible := by
  obtain ⟨hcolumns, hconditions, hsort, hjoins⟩ := places_of_bodyIssues_eq_nil h
  -- a join that is idle after normalising was not used before
  have hidle : ∀ j, j ∉ r.normalize.activeJoins →
      r.joinColumns.get j = [] ∧ r.joinConditions.get j = [] := by
    intro j hj
    rw [← uses_eq_false_iff, Bool.eq_false_iff]
    intro huses
    exact hj (mem_activeJoins_of_mem_joins (mem_joins_normalize (.inl huses)))
  exact ⟨hcolumns, fun j => (hjoins j).1, hconditions, fun j => (hjoins j).2.1, hsort,
    fun j => (hjoins j).2.2, fun j hj => (hidle j hj).1, fun j hj => (hidle j hj).2⟩

/-- What compiling gives for a validated request. -/
theorem compile_of_validate {q r : Request} (h : q.validate = .ok r) :
    r.Admissible ∧ ∃ cursor, r.cursorStages = .ok cursor ∧
      r.compile = .ok ⟨r.pipelineFrom cursor (r.pageSize + 1), r.outputColumns, r.activeJoins⟩ := by
  obtain ⟨hissues, rfl⟩ := validate_eq_ok_iff.mp h
  rw [issues_eq, List.append_eq_nil_iff, cursorIssues_eq_nil_iff] at hissues
  obtain ⟨hbody, cursor, hcursor⟩ := hissues
  -- the cursor was checked before normalising, and compiling reads it afterwards
  rw [← cursorStages_normalize] at hcursor
  have hadmissible := admissible_normalize hbody
  exact ⟨hadmissible, cursor, hcursor,
    compile_eq_ok_iff.mpr ⟨hadmissible, cursor, hcursor, rfl⟩⟩

/-- What compiling gives for a body that is read and validated. -/
theorem compile_of_parse {body : String} {r : Request} (h : parse body = .ok r) :
    r.Admissible ∧ ∃ cursor, r.cursorStages = .ok cursor ∧
      r.compile = .ok ⟨r.pipelineFrom cursor (r.pageSize + 1), r.outputColumns, r.activeJoins⟩ := by
  rw [parse] at h
  cases hread : read body with
  | error e => simp [hread] at h
  | ok given =>
    simp only [hread] at h
    exact compile_of_validate h

/-- **Validation implies compilation.** Whatever a body asks for, if it is read and validated, then
the request that comes out compiles. -/
theorem exists_compile_of_parse {body : String} {r : Request} (h : parse body = .ok r) :
    ∃ q, r.compile = .ok q := by
  rw [parse] at h
  cases hread : read body with
  | error e => simp [hread] at h
  | ok given =>
    simp only [hread] at h
    obtain ⟨-, cursor, -, hcompile⟩ := compile_of_validate h
    exact ⟨_, hcompile⟩

/-- A body that names a column of a join without requesting the join. -/
def bodyWithIdleJoin : String :=
  "\x7b\"resultLevel\":\"TRIANG\",\"joinColumns\":\x7b\"SWISSCHEESE\":[\"EXPLICIT\"]\x7d\x7d"

theorem exists_compile_of_parse_bodyWithIdleJoin :
    ∃ r, parse bodyWithIdleJoin = .ok r ∧ ∃ q, r.compile = .ok q := by
  have hsome : (parse bodyWithIdleJoin).toOption.isSome := by decide +kernel
  cases h : parse bodyWithIdleJoin with
  | error e => simp [h, Except.toOption] at hsome
  | ok r => exact ⟨r, rfl, exists_compile_of_parse h⟩

end Request

end Strata
