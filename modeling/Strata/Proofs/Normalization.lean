import Mathlib.Data.List.Nodup
import Strata.Proofs.Validation

/-!
# Normal requests

Validation puts a request into a normal form: its joins become the least closed list of what the
request wants, in the order of the levels. Two such lists with the same wants are equal, and this is
all that is needed of them. So normalising twice is normalising once; and as compiling closes the
joins again, together with those of the result level, a request that compiles gives the same query in
its normal form.
-/

namespace Strata

namespace Join

variable {a j k : Join} {js ks : List Join} {wanted : Join → Prop}

/-- Joins that come with all joins above them. -/
def Closed (js : List Join) : Prop := ∀ j ∈ js, ∀ a ∈ j.ancestors, a ∈ js

/-- The least closed list with all wanted joins, in the order of the levels. -/
structure IsClosure (wanted : Join → Prop) (js : List Join) : Prop where
  nodup : js.Nodup
  ordered : js.Sublist all
  closed : Closed js
  contains : ∀ j, wanted j → j ∈ js
  least : ∀ ks, Closed ks → (∀ j, wanted j → j ∈ ks) → js ⊆ ks

theorem mem_path_iff : a ∈ j.path ↔ a ∈ j.ancestors ∨ a = j := by
  simp [path]

theorem mem_path_trans (ha : a ∈ j.path) (hj : j ∈ k.path) : a ∈ k.path := by
  revert ha hj
  cases a <;> cases j <;> cases k <;> decide

/-- A closed list has the whole way down to each of its joins. -/
theorem Closed.mem_of_mem_path (h : Closed js) (hj : j ∈ js) (ha : a ∈ j.path) : a ∈ js := by
  rcases mem_path_iff.mp ha with hancestor | rfl
  · exact h j hj a hancestor
  · exact hj

/-- The joins on the ways down to the wanted ones are their closure. -/
theorem isClosure_filter {onWay : Join → Bool}
    (h : ∀ a, onWay a = true ↔ ∃ j, wanted j ∧ a ∈ j.path) :
    IsClosure wanted (all.filter onWay) := by
  have hmem : ∀ a, a ∈ all.filter onWay ↔ ∃ j, wanted j ∧ a ∈ j.path := fun a => by
    rw [List.mem_filter, h, and_iff_right a.mem_all]
  refine ⟨List.Nodup.filter _ (by decide), List.filter_sublist, fun j hj a ha => ?_,
    fun j hj => (hmem j).mpr ⟨j, hj, j.mem_path_self⟩, fun ks hclosed hwanted a ha => ?_⟩
  · obtain ⟨k, hk, hjk⟩ := (hmem j).mp hj
    exact (hmem a).mpr ⟨k, hk, mem_path_trans (mem_path_iff.mpr (.inl ha)) hjk⟩
  · obtain ⟨j, hj, haj⟩ := (hmem a).mp ha
    exact hclosed.mem_of_mem_path (hwanted j hj) haj

/-- What is wanted has one closure. -/
theorem IsClosure.unique (hjs : IsClosure wanted js) (hks : IsClosure wanted ks) : js = ks := by
  have hperm : js.Perm ks := by
    rw [List.perm_ext_iff_of_nodup hjs.nodup hks.nodup]
    exact fun a => ⟨fun h => hjs.least ks hks.closed hks.contains h,
      fun h => hks.least js hjs.closed hjs.contains h⟩
  -- both are in the order of the levels, in which no two joins change places
  have hordered : all.Pairwise fun a b => all.idxOf a < all.idxOf b := by decide
  refine hperm.eq_of_pairwise (fun a b _ _ hab hba => ?_) (hordered.sublist hjs.ordered)
    (hordered.sublist hks.ordered)
  exact absurd hab (Nat.lt_asymm hba)

/-- A closure stays one when some of its joins are wanted besides. -/
theorem IsClosure.of_mem {more : Join → Prop} (h : IsClosure wanted js)
    (hwanted : ∀ j, wanted j → more j) (hmore : ∀ j, more j → j ∈ js) : IsClosure more js :=
  ⟨h.nodup, h.ordered, h.closed, hmore,
    fun ks hclosed hks => h.least ks hclosed fun j hj => hks j (hwanted j hj)⟩

end Join

namespace Request

open Join (IsClosure Closed)

variable {r v : Request} {j : Join}

/-- Whether a request wants a join: it requests the join, or gives columns or conditions for it. -/
def Wants (r : Request) (j : Join) : Prop :=
  j ∈ r.joins ∨ r.joinColumns.get j ≠ [] ∨ r.joinConditions.get j ≠ []

theorem wants_iff : r.Wants j ↔ (r.uses j || r.joins.contains j) = true := by
  simp [Wants, uses, or_comm]

/-! ## The normal form -/

theorem isClosure_joins_normalize (r : Request) : IsClosure r.Wants r.normalize.joins := by
  show IsClosure r.Wants (closeJoins _)
  refine Join.isClosure_filter fun a => ?_
  simp only [List.any_eq_true, Bool.and_eq_true, List.contains_iff_mem, ← wants_iff]
  exact ⟨fun ⟨j, _, h⟩ => ⟨j, h⟩, fun ⟨j, h⟩ => ⟨j, j.mem_all, h⟩⟩

/-- Normalising twice is normalising once. -/
theorem normalize_normalize (r : Request) : r.normalize.normalize = r.normalize := by
  have hclosure := r.isClosure_joins_normalize
  have hjoins : r.normalize.normalize.joins = r.normalize.joins := by
    -- the normal form wants its own joins, and what the request wants is among them
    refine r.normalize.isClosure_joins_normalize.unique
      (hclosure.of_mem (fun j hj => ?_) fun j hj => ?_)
    · exact .inl (hclosure.contains j hj)
    · rcases hj with hjoins | hused
      · exact hjoins
      · exact hclosure.contains j (.inr hused)
  have hcursor : r.normalize.normalize.cursor = r.normalize.cursor := by
    show (if r.normalize.token?.isSome then r.normalize.cursor else none) = r.normalize.cursor
    rw [token?_normalize, normalize]
    split <;> rfl
  calc r.normalize.normalize
      = { r.normalize with
          joins := r.normalize.normalize.joins, cursor := r.normalize.normalize.cursor } := rfl
    _ = r.normalize := by rw [hjoins, hcursor]

theorem issues_normalize (r : Request) : r.normalize.issues = r.issues := by
  have hcursor : r.normalize.cursorIssues = r.cursorIssues := by
    rw [cursorIssues, cursorIssues, token?_normalize]
    rfl
  rw [issues_eq, issues_eq, hcursor]
  rfl

/-! ## Compiling the normal form -/

/-- The joins that take part are the closure of the requested ones and that of the result level. -/
theorem isClosure_activeJoins (r : Request) :
    IsClosure (fun j => r.resultLevel.join? = some j ∨ j ∈ r.joins) r.activeJoins := by
  rw [activeJoins, effectiveJoins]
  refine Join.isClosure_filter fun a => ?_
  simp only [Bool.or_eq_true, List.contains_iff_mem, List.any_eq_true, or_and_right, exists_or]
  refine or_congr ?_ Iff.rfl
  rw [Level.requiredJoins]
  cases r.resultLevel.join? <;> simp

/-- If the joins with columns or conditions take part anyhow, then normalising makes no join take part
and none idle. -/
theorem activeJoins_normalize (h : ∀ j, j ∉ r.activeJoins → r.joinColumns.get j = [])
    (h' : ∀ j, j ∉ r.activeJoins → r.joinConditions.get j = []) :
    r.normalize.activeJoins = r.activeJoins := by
  have hactive := r.isClosure_activeJoins
  have hwants : ∀ j, r.Wants j → j ∈ r.activeJoins := by
    rintro j (hjoins | hcolumns | hconditions)
    · exact hactive.contains j (.inr hjoins)
    · exact not_imp_comm.mp (h j) hcolumns
    · exact not_imp_comm.mp (h' j) hconditions
  have hnormal := r.isClosure_joins_normalize
  refine r.normalize.isClosure_activeJoins.unique (hactive.of_mem (fun j hj => ?_) fun j hj => ?_)
  · exact hj.imp_right fun hjoins => hnormal.contains j (.inl hjoins)
  · rcases hj with hresult | hjoins
    · exact hactive.contains j (.inl hresult)
    · exact hnormal.least _ hactive.closed hwants hjoins

/-- A request that compiles gives the same query in its normal form. -/
theorem compile_normalize {q : Query} (h : r.compile = .ok q) : r.normalize.compile = .ok q := by
  obtain ⟨hadmissible, cursor, hcursor, rfl⟩ := compile_eq_ok_iff.mp h
  have hactive : r.normalize.activeJoins = r.activeJoins :=
    activeJoins_normalize hadmissible.idle_columns hadmissible.idle_conditions
  refine compile_eq_ok_iff.mpr ⟨?_, cursor, by rwa [cursorStages_normalize], ?_⟩
  · obtain ⟨hcolumns, hjoinColumns, hconditions, hjoinConditions, hsort, hjoinSort, hidle, hidle'⟩ :=
      hadmissible
    rw [← hactive] at hidle hidle'
    exact ⟨hcolumns, hjoinColumns, hconditions, hjoinConditions, hsort, hjoinSort, hidle, hidle'⟩
  · -- the stages and the columns read the joins only through those that take part
    have hjoined : r.normalize.joinedOutput = r.joinedOutput := by
      rw [joinedOutput, joinedOutput, hactive]
      rfl
    have hstages : r.normalize.joinedStages r.activeJoins = r.joinedStages r.activeJoins := by
      simp only [joinedStages, joinStages, hactive]
      rfl
    rw [pipelineFrom, pipelineFrom, outputColumns, outputColumns, outputStage, outputStage, hactive,
      hstages, hjoined]
    rfl

/-- A validated request is valid. -/
theorem validate_of_validate (h : r.validate = .ok v) : v.validate = .ok v := by
  obtain ⟨hissues, rfl⟩ := validate_eq_ok_iff.mp h
  exact validate_eq_ok_iff.mpr ⟨r.issues_normalize.trans hissues, r.normalize_normalize.symm⟩

/-- **Validation normalises once and keeps the meaning.** A validated request is valid and its own
normal form. It differs from the given one in its joins, which are the closure of what that one
wants, and in a blank cursor, which it drops. If the given one compiles by itself, then the
validated one compiles to the same query. -/
theorem normal_of_validate (h : r.validate = .ok v) :
    v.validate = .ok v ∧ IsClosure r.Wants v.joins ∧
      (v = { r with joins := v.joins, cursor := v.cursor } ∧ v.token? = r.token?) ∧
      ∀ q, r.compile = .ok q → v.compile = .ok q := by
  have hvalid := validate_of_validate h
  obtain ⟨-, rfl⟩ := validate_eq_ok_iff.mp h
  exact ⟨hvalid, r.isClosure_joins_normalize, ⟨rfl, r.token?_normalize⟩, fun q => compile_normalize⟩

/-- A request that names an involution twice, before the geometry above it, gives a column for the
triangulation between them, and has a blank cursor. -/
def scatteredRequest : Request :=
  { joins := [.invol, .geom, .invol]
    joinColumns := ⟨[], ["TRIANGN"], ["INVOLN"], []⟩
    cursor := some " " }

/-- Its normal form has the three joins in order and no cursor, is valid, and compiles to the same
query. -/
theorem normal_scatteredRequest :
    let v := { scatteredRequest with joins := [.geom, .triang, .invol], cursor := none }
    scatteredRequest.validate = .ok v ∧ v.validate = .ok v ∧
      IsClosure scatteredRequest.Wants v.joins ∧ ∃ q, scatteredRequest.compile = .ok q ∧ v.compile = .ok q := by
  intro v
  have hv : scatteredRequest.validate = .ok v := by
    rw [validate_eq_ok_iff]
    decide +kernel
  obtain ⟨hvalid, hclosure, -, hcompile⟩ := normal_of_validate hv
  have hsome : scatteredRequest.compile.toOption.isSome := by decide +kernel
  cases hq : scatteredRequest.compile with
  | error e => simp [hq, Except.toOption] at hsome
  | ok q => exact ⟨hv, hvalid, hclosure, q, rfl, hcompile q hq⟩

end Request

end Strata
