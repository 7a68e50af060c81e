import Strata.Proofs.OutputColumns

/-!
# Pipelines stay within the allowlist

Compiling is the boundary of what a request can reach. In a compiled pipeline every stage on a level,
however deep it is nested, names only what the allowlist has for that level, apart from the fields
that the pipeline adds itself: the identifier, the keys of the joins and the bound of the cursor. A
request that names anything else, be it for a join that does not take part, is refused with a fault
that lies in the request.
-/

namespace Strata

/-! ## Stages within the allowlist -/

/-- The operator of conditions that compare in this way. -/
def Comparison.operator : Comparison → Operator
  | eq => .eq
  | ne => .ne
  | gt => .gt
  | gte => .gte
  | lt => .lt
  | lte => .lte

namespace Level

/-- Conditions on a level may use a field with an operator. -/
def Allows (l : Level) (field : String) (op : Operator) : Prop :=
  ∃ ops, l.operators? field = some ops ∧ op ∈ ops

/-- The fields that order the rows of a level in a pipeline: those by which the root may be sorted,
and for a join those that order its rows below one parent. -/
def sortKeys (l : Level) : List String :=
  match l.join? with
  | none => l.sortable
  | some j => j.sortFields

end Level

/-- A predicate tests only fields that conditions on a level may use, each with an operator that the
field takes. -/
inductive Predicate.Within (l : Level) : Predicate → Prop
  | all {parts : List Predicate} (h : ∀ p ∈ parts, Within l p) : Within l (.all parts)
  | compare {path : String} {op : Comparison} (value : Value) (h : l.Allows path op.operator) :
      Within l (.compare path op value)
  | oneOf {path : String} (values : List Value) (h : l.Allows path .within) :
      Within l (.oneOf path values)
  | pattern {path : String} (text : String) (ignoreCase : Bool) (h : l.Allows path .contains) :
      Within l (.pattern path text ignoreCase)

/-- A stage on a level names only what the allowlist has for the level. Filters may also be the
correlation of a join, or the bound of a cursor on the root; a lookup lists the rows of a join by its
keys, and its own stages are within the allowlist for that join. -/
inductive Stage.Within : Level → Stage → Prop
  | filter {l : Level} {p : Predicate} (h : p.Within l) : Within l (.filter p)
  | correlation (j : Join) :
      Within j.level (.filter (.correlate (j.correlation.map fun k => (k.field, k.var))))
  | beyond (direction : Direction) (id : ObjectId) :
      Within .poly (.filter (Cursor.beyond direction id))
  | sort {l : Level} {keys : List SortKey}
      (h : ∀ k ∈ keys, k.field = idField ∨ k.field ∈ l.sortKeys) : Within l (.sort keys)
  | limit (l : Level) (count : Nat) : Within l (.limit count)
  | lookup (l : Level) (j : Join) {pipeline : List Stage} (h : ∀ s ∈ pipeline, Within j.level s) :
      Within l (.lookup j.level (j.correlation.map fun k => ⟨k.var, k.parentPath⟩) pipeline
        j.listField)
  | unwind (l : Level) (j : Join) : Within l (.unwind j.listField)
  | keep {l : Level} {names : List String} (h : ∀ n ∈ names, n = idField ∨ n ∈ l.columns) :
      Within l (.project (names.map fun n => ⟨n, .keep⟩))

/-- A field of the last projection: the identifier or a column of the root, or a column of a join that
is read under the field of the join. -/
inductive Projected.IsOutput : Projected → Prop
  | root {c : String} (h : c = idField ∨ c ∈ Level.poly.columns) : IsOutput ⟨c, .keep⟩
  | joined (name : String) (j : Join) {c : String} (h : c ∈ j.level.columns) :
      IsOutput ⟨name, .path (j.listField ++ "." ++ c)⟩

/-- All stages of a pipeline but the last are within the allowlist for the root, and the last one
projects to output fields. -/
def WithinAllowlist (pipeline : List Stage) : Prop :=
  ∃ stages fields, pipeline = stages ++ [.project fields] ∧
    (∀ s ∈ stages, s.Within .poly) ∧ ∀ f ∈ fields, f.IsOutput

/-! ## The stages of a request -/

namespace Condition

variable {l : Level} {c : Condition}

theorem allows_of_check (h : c.check l = .ok ()) : l.Allows c.field c.op := by
  rw [check] at h
  cases hops : l.operators? c.field with
  | none => simp [hops] at h
  | some ops =>
    simp only [hops] at h
    split at h
    next hop => exact ⟨ops, hops, by simpa using hop⟩
    next => simp at h

theorem within_toPredicate (h : c.check l = .ok ()) : c.toPredicate.Within l := by
  have hallows := allows_of_check h
  rw [toPredicate]
  cases hop : c.op <;> rw [hop] at hallows
  case contains => exact .pattern c.value true hallows
  case within => exact .oneOf _ hallows
  all_goals exact .compare _ hallows

end Condition

theorem within_sortStage {l : Level} {s : SortKey} (h : s.field ∈ l.sortKeys) :
    (sortStage s).Within l := by
  rw [sortStage]
  refine .sort fun k hk => ?_
  split at hk
  next => exact .inr (List.mem_singleton.mp hk ▸ h)
  next =>
    simp only [List.mem_cons, List.not_mem_nil, or_false] at hk
    rcases hk with rfl | rfl
    · exact .inr h
    · exact .inl rfl

theorem within_keepFields {l : Level} {names : List String} (h : ∀ n ∈ names, n ∈ l.columns) :
    (keepFields names).Within l := by
  refine .keep fun n hn => ?_
  exact (List.mem_cons.mp (mem_firstOccurrences.mp hn).1).imp_right (h n)

theorem Join.sortKeys_level (j : Join) : j.level.sortKeys = j.sortFields := by
  cases j <;> rfl

namespace Request

variable {r : Request}

theorem within_filterStages {l : Level} {cs : List Condition} (h : ∀ c ∈ cs, c.check l = .ok ()) :
    ∀ s ∈ filterStages (conjunction cs), s.Within l := by
  intro s hs
  rw [conjunction] at hs
  split at hs
  next => simp [filterStages] at hs
  next =>
    obtain rfl := List.mem_singleton.mp hs
    refine .filter (.all fun p hp => ?_)
    obtain ⟨c, hc, rfl⟩ := List.mem_map.mp hp
    exact Condition.within_toPredicate (h c hc)

theorem within_cursorStages {cursor : List Stage} (h : r.cursorStages = .ok cursor) :
    ∀ s ∈ cursor, s.Within .poly := by
  intro s hs
  obtain ⟨id, rfl⟩ := exists_of_mem_cursorStages h hs
  exact .beyond r.sort.direction id

theorem within_rootStages (hr : r.Admissible) {cursor : List Stage}
    (hcursor : r.cursorStages = .ok cursor) (n : Nat) : ∀ s ∈ r.rootStages cursor n, s.Within .poly := by
  have hkept : ∀ c ∈ rootKey :: r.sort.field :: r.base.columns, c ∈ Level.poly.columns := by
    intro c hc
    simp only [List.mem_cons] at hc
    rcases hc with rfl | rfl | hc
    · exact Level.rootKey_mem_columns .poly
    · exact Level.mem_columns_of_mem_sortable hr.sort
    · exact hr.base_columns c hc
  intro s hs
  simp only [rootStages, List.mem_append, List.mem_cons, List.not_mem_nil, or_false] at hs
  rcases hs with (hs | hs) | rfl | rfl | rfl
  · exact within_filterStages hr.base_conditions s hs
  · exact within_cursorStages hcursor s hs
  · exact within_sortStage hr.sort
  · exact .limit .poly n
  · exact within_keepFields hkept

theorem within_joinPipeline (hr : r.Admissible) (j : Join) :
    ∀ s ∈ r.joinPipeline j (conjunction (r.joinConditions.get j)), s.Within j.level := by
  have hkept : ∀ c ∈ j.ownKeys ++ r.joinColumns.get j, c ∈ j.level.columns := by
    intro c hc
    rcases List.mem_append.mp hc with hc | hc
    · exact Join.mem_columns_of_mem_ownKeys hc
    · exact hr.join_columns j c hc
  intro s hs
  simp only [joinPipeline, List.mem_append, List.mem_cons, List.not_mem_nil, or_false] at hs
  rcases hs with (rfl | hs) | rfl | rfl | rfl
  · exact .correlation j
  · exact within_filterStages (hr.join_conditions j) s hs
  · exact within_sortStage (j.sortKeys_level ▸ hr.join_sort j)
  · exact .limit j.level (r.cap j)
  · exact within_keepFields hkept

theorem within_joinedStages (hr : r.Admissible) (js : List Join) :
    ∀ s ∈ r.joinedStages js, s.Within .poly := by
  intro s hs
  obtain ⟨j, -, hs⟩ := List.mem_flatMap.mp hs
  rw [joinStages, List.mem_cons] at hs
  rcases hs with rfl | hs
  · exact .lookup .poly j (within_joinPipeline hr j)
  · split at hs
    next => exact List.mem_singleton.mp hs ▸ .unwind .poly j
    next => simp at hs

/-- The last projection shows columns of the root and of joins. -/
theorem isOutput_of_mem_output (hr : r.Admissible) {f : Projected}
    (hf : f ∈ ⟨idField, .keep⟩ :: r.baseOutput.map (fun c => ⟨c, .keep⟩) ++ r.joinedOutput) :
    f.IsOutput := by
  rw [List.cons_append, List.mem_cons, List.mem_append] at hf
  rcases hf with rfl | hf | hf
  · exact .root (.inl rfl)
  · obtain ⟨c, hc, rfl⟩ := List.mem_map.mp hf
    exact .root (.inr (hr.base_columns c (mem_baseOutput.mp hc)))
  · rw [joinedOutput, joinsOutput_eq] at hf
    obtain ⟨⟨name, j, c⟩, hc, rfl⟩ := List.mem_map.mp hf
    exact .joined name j (hr.join_columns j c (mem_namedColumns hc).1)

theorem withinAllowlist_pipelineFrom (hr : r.Admissible) {cursor : List Stage}
    (hcursor : r.cursorStages = .ok cursor) (n : Nat) : WithinAllowlist (r.pipelineFrom cursor n) := by
  refine ⟨_, _, rfl, fun s hs => ?_, fun f hf => isOutput_of_mem_output hr hf⟩
  rcases List.mem_append.mp hs with hs | hs
  · exact within_rootStages hr hcursor n s hs
  · exact within_joinedStages hr r.activeJoins s hs

end Request

/-! ## What compiling refuses -/

/-- If this fails, the fault lies in the request. -/
def Refuses {α : Type} (x : Except Fault α) : Prop := ∀ e, x = .error e → e.isValidation = true

namespace Refuses

variable {α β : Type}

theorem ok (a : α) : Refuses (.ok a) := fun _ h => by simp at h

theorem error {e : Fault} (h : e.isValidation = true) : Refuses (.error e : Except Fault α) := by
  rintro _ ⟨⟩
  exact h

theorem bind {x : Except Fault α} {f : α → Except Fault β} (hx : Refuses x)
    (hf : ∀ a, Refuses (f a)) : Refuses (x >>= f) := by
  cases x with
  | error e => exact error (hx e rfl)
  | ok a => exact hf a

end Refuses

theorem refuses_checkColumns (l : Level) (columns : List String) :
    Refuses (checkColumns l columns) := by
  rw [checkColumns]
  split
  · exact .error rfl
  · exact .ok ()

theorem refuses_checkSort (l : Level) (allowed : List String) (field : String) :
    Refuses (checkSort l allowed field) := by
  rw [checkSort]
  split
  · exact .ok ()
  · exact .error rfl

theorem refuses_checkEach {check : Join → Except Fault Unit} (h : ∀ j, Refuses (check j))
    (js : List Join) : Refuses (checkEach check js) := by
  induction js with
  | nil => exact .ok ()
  | cons j rest ih =>
    rw [checkEach]
    split
    next e he => exact .error (h j e he)
    next => exact ih

theorem Condition.refuses_check (l : Level) (c : Condition) : Refuses (c.check l) := by
  rw [check]
  split
  · exact .error rfl
  · split
    · rw [checkValue]
      split
      · split
        · exact .ok ()
        · exact .error rfl
      · dsimp only
        split
        · exact .ok ()
        · exact .error rfl
      · exact .ok ()
    · exact .error rfl

theorem refuses_checkConditions (l : Level) (cs : List Condition) :
    Refuses (checkConditions l cs) := by
  induction cs with
  | nil => exact .ok ()
  | cons c rest ih =>
    rw [checkConditions]
    split
    next e he => exact .error (c.refuses_check l e he)
    next => exact ih

theorem refuses_compileConditions (l : Level) (cs : List Condition) :
    Refuses (compileConditions l cs) := by
  rw [compileConditions]
  split
  next e he => exact .error (refuses_checkConditions l cs e he)
  next =>
    split
    · exact .ok _
    · exact .ok _

namespace Request

theorem refuses_check (r : Request) : Refuses r.check := by
  rw [check]
  refine (refuses_checkColumns _ _).bind fun _ => ?_
  refine (refuses_checkEach (fun j => refuses_checkColumns _ _) _).bind fun _ => ?_
  refine (refuses_checkSort _ _ _).bind fun _ => ?_
  refine (refuses_checkEach (fun j => ?_) _).bind fun _ => ?_
  · exact (refuses_checkSort _ _ _).bind fun _ => refuses_checkConditions _ _
  · dsimp only
    split
    · exact .error rfl
    · split
      · exact .error rfl
      · exact .ok ()

theorem refuses_cursorStages (r : Request) : Refuses r.cursorStages := by
  rw [cursorStages]
  split
  · exact .ok _
  · split
    · exact .error rfl
    · exact .ok _

theorem refuses_joinsStages (r : Request) (js : List Join) : Refuses (r.joinsStages js) := by
  induction js with
  | nil => exact .ok _
  | cons j rest ih =>
    rw [joinsStages]
    exact (refuses_compileConditions _ _).bind fun _ => ih.bind fun _ => .ok _

/-- Compiling fails only with faults that lie in the request. -/
theorem refuses_compile (r : Request) : Refuses r.compile := by
  rw [compile]
  refine r.refuses_check.bind fun _ => ?_
  refine (refuses_compileConditions _ _).bind fun _ => ?_
  refine r.refuses_cursorStages.bind fun _ => ?_
  exact (r.refuses_joinsStages _).bind fun _ => .ok _

/-- A request names something that the allowlist does not have for the level it is named at, whether
the level takes part or not. -/
inductive Strays (r : Request) : Prop
  | baseColumn {c : String} (hc : c ∈ r.base.columns) (h : c ∉ Level.poly.columns)
  | joinColumn {j : Join} {c : String} (hc : c ∈ r.joinColumns.get j) (h : c ∉ j.level.columns)
  | baseCondition {c : Condition} (hc : c ∈ r.base.conditions)
      (h : ¬ Level.poly.Allows c.field c.op)
  | joinCondition {j : Join} {c : Condition} (hc : c ∈ r.joinConditions.get j)
      (h : ¬ j.level.Allows c.field c.op)
  | sort (h : r.sort.field ∉ Level.poly.sortable)
  | joinSort {j : Join} {s : SortKey} (hs : r.joinSort.get j = some s) (h : s.field ∉ j.sortFields)

theorem Strays.not_admissible {r : Request} (h : r.Strays) : ¬ r.Admissible := by
  intro hr
  cases h with
  | baseColumn hc h => exact h (hr.base_columns _ hc)
  | joinColumn hc h => exact h (hr.join_columns _ _ hc)
  | baseCondition hc h => exact h (Condition.allows_of_check (hr.base_conditions _ hc))
  | joinCondition hc h => exact h (Condition.allows_of_check (hr.join_conditions _ _ hc))
  | sort h => exact h hr.sort
  | @joinSort j s hs h =>
    have hsort := hr.join_sort j
    rw [joinSortOf, hs] at hsort
    exact h hsort

/-- **The allowlist is the boundary.** Whatever a request holds, the pipeline that it compiles to is
within the allowlist; and a request that names anything outside of it does not compile, the fault
lying in the request. -/
theorem withinAllowlist_of_compile (r : Request) :
    (∀ q, r.compile = .ok q → WithinAllowlist q.pipeline) ∧
    (r.Strays → ∃ e, r.compile = .error e ∧ e.isValidation = true) := by
  refine ⟨fun q hq => ?_, fun hstrays => ?_⟩
  · obtain ⟨hr, cursor, hcursor, rfl⟩ := compile_eq_ok_iff.mp hq
    exact withinAllowlist_pipelineFrom hr hcursor _
  · cases h : r.compile with
    | ok q => exact absurd (compile_eq_ok_iff.mp h).1 hstrays.not_admissible
    | error e => exact ⟨e, rfl, r.refuses_compile e h⟩

/-- The request for Swiss cheese entries, with conditions on them and on the root. -/
def cheeseRequest : Request where
  base := { columns := ["H11"], conditions := [⟨"FAV", .within, "true,1"⟩] }
  resultLevel := .swisscheese
  joinColumns := .ofFun fun
    | .swisscheese => ["EXPLICIT", "H11"]
    | _ => []
  joinConditions := .ofFun fun
    | .swisscheese => [⟨"H11", .gte, "2"⟩]
    | _ => []

/-- The same request with a column of Swiss cheese entries asked of involutions, which do not take
part. -/
def strayingRequest : Request :=
  { cheeseRequest with
    joinColumns := .ofFun fun
      | .invol => ["EXPLICIT"]
      | _ => [] }

theorem withinAllowlist_cheeseRequest :
    (∃ q, cheeseRequest.compile = .ok q ∧ WithinAllowlist q.pipeline) ∧
    strayingRequest.Strays ∧ ∃ e, strayingRequest.compile = .error e ∧ e.isValidation = true := by
  refine ⟨?_, ?_⟩
  · have hsome : cheeseRequest.compile.toOption.isSome := by decide +kernel
    cases h : cheeseRequest.compile with
    | error e => simp [h, Except.toOption] at hsome
    | ok q => exact ⟨q, rfl, (withinAllowlist_of_compile cheeseRequest).1 q h⟩
  · have hstrays : strayingRequest.Strays :=
      .joinColumn (j := .invol) (c := "EXPLICIT") (List.mem_singleton_self _) (by decide)
    exact ⟨hstrays, (withinAllowlist_of_compile strayingRequest).2 hstrays⟩

end Request

end Strata
