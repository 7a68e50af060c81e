import Mathlib.Data.List.Forall2
import Strata.Proofs.OutputColumns
import Strata.Store.Basic

/-!
# Running compiled pipelines

Running the pipeline of a request gives the rows that the request means. The rows between the stages
*carry* expansions: the columns of the root record under their own names, and what is joined at a
level under the field of that level. The stages of a join take rows that carry expansions to rows
that carry the expansions by that join, and the last projection writes the row of an expansion.
-/

namespace Strata

/-! ## Stages one after the other -/

/-- Running stages one after the other is running their transforms one after the other. -/
theorem pipelineTransform_append (records : Records) (a b : List Stage) :
    pipelineTransform records (a ++ b) =
      match pipelineTransform records a with
      | .error e => .error e
      | .ok first =>
        match pipelineTransform records b with
        | .error e => .error e
        | .ok others => .ok fun bound rows => others bound (first bound rows) := by
  induction a with
  | nil =>
    rw [List.nil_append, pipelineTransform]
    cases pipelineTransform records b <;> rfl
  | cons s rest ih =>
    rw [List.cons_append, pipelineTransform, pipelineTransform, ih]
    cases Stage.transform records s with
    | error e => rfl
    | ok first =>
      cases pipelineTransform records rest with
      | error e => rfl
      | ok others => cases pipelineTransform records b <;> rfl

section Stages

variable {records : Records}

theorem pipelineTransform_append_of_ok {a b : List Stage} {first others : Transform}
    (ha : pipelineTransform records a = .ok first)
    (hb : pipelineTransform records b = .ok others) :
    pipelineTransform records (a ++ b)
      = .ok fun bound rows => others bound (first bound rows) := by
  rw [pipelineTransform_append, ha, hb]

theorem pipelineTransform_cons_of_ok {s : Stage} {rest : List Stage} {first others : Transform}
    (hs : s.transform records = .ok first)
    (hrest : pipelineTransform records rest = .ok others) :
    pipelineTransform records (s :: rest)
      = .ok fun bound rows => others bound (first bound rows) := by
  simp only [pipelineTransform, hs, hrest]

end Stages

/-! ## Conditions -/

/-- A pattern that compiles within a limit compiles within a larger one. -/
theorem Pattern.compile_mono {text : String} {ignoreCase : Bool} {small large : Nat} {p : Pattern}
    (hle : small ≤ large) (h : Pattern.compile text ignoreCase small = .ok p) :
    Pattern.compile text ignoreCase large = .ok p := by
  rw [compile] at h ⊢
  cases hread : Pattern.Expr.read text ignoreCase with
  | error e => simp [hread] at h
  | ok expr =>
    simp only [hread] at h ⊢
    by_cases hsmall : (expr.footprint?.any (· ≤ small) || expr.isTexts) = true
    · have hlarge : (expr.footprint?.any (· ≤ large) || expr.isTexts) = true := by
        rw [Bool.or_eq_true] at hsmall ⊢
        refine hsmall.imp_left fun hany => ?_
        cases hf : expr.footprint? with
        | none => simp [hf] at hany
        | some n =>
          simp only [hf, Option.any_some, decide_eq_true_eq] at hany ⊢
          exact Nat.le_trans hany hle
      rw [if_pos hsmall] at h
      rw [if_pos hlarge, h]
    · simp [hsmall] at h

/-- The predicate of a condition that has been checked tests whether the condition holds. -/
theorem Condition.test_toPredicate {l : Level} {c : Condition} (h : c.check l = .ok ()) :
    c.toPredicate.test = .ok fun _ row => c.holds row := by
  rw [check] at h
  cases hops : l.operators? c.field with
  | none => simp [hops] at h
  | some ops =>
    simp only [hops] at h
    split at h
    next =>
      rw [checkValue] at h
      cases hop : c.op with
      | contains =>
        simp only [hop] at h
        cases hp : Pattern.compile c.value true patternLimit with
        | error e => simp [hp] at h
        | ok p =>
          have hlarge : Pattern.compile c.value true = .ok p := Pattern.compile_mono (by decide) hp
          simp [toPredicate, holds, hop, Predicate.test, hlarge]
      | within =>
        simp [toPredicate, holds, hop, Predicate.test, List.any_map, Function.comp_def]
      | _ => simp [toPredicate, holds, hop, Predicate.test]
    next => simp at h

theorem testAll_toPredicate {l : Level} {cs : List Condition} (h : ∀ c ∈ cs, c.check l = .ok ()) :
    Predicate.testAll (cs.map Condition.toPredicate)
      = .ok fun _ row => cs.all fun c => c.holds row := by
  induction cs with
  | nil => rfl
  | cons c rest ih =>
    rw [List.forall_mem_cons] at h
    simp only [List.map_cons, Predicate.testAll, Condition.test_toPredicate h.1, ih h.2,
      List.all_cons]

/-- The filter of checked conditions keeps the records for which all of them hold. -/
theorem transform_filterStages {l : Level} {cs : List Condition} (records : Records)
    (h : ∀ c ∈ cs, c.check l = .ok ()) :
    pipelineTransform records (Request.filterStages (conjunction cs))
      = .ok fun _ rows => rows.filter fun row => cs.all fun c => c.holds row := by
  rw [conjunction]
  cases cs with
  | nil => simp [Request.filterStages, pipelineTransform]
  | cons c rest =>
    rw [if_neg (by simp), Request.filterStages]
    simp only [pipelineTransform, Stage.transform, Predicate.test, testAll_toPredicate h]

/-! ## The root level -/

/-- A row with its identifier and some fields only. -/
def keepRow (names : List String) (row : Document) : Document :=
  projectRow ((firstOccurrences [] (idField :: names)).map fun n => ⟨n, .keep⟩) row

theorem get?_keepRow {names : List String} (hnames : ∀ n ∈ names, IsSegment n) (row : Document)
    (n : String) :
    (keepRow names row).get? n = if n = idField ∨ n ∈ names then row.get? n else none := by
  have hall : ∀ m ∈ firstOccurrences [] (idField :: names), IsSegment m := by
    intro m hm
    rcases List.mem_cons.mp (mem_firstOccurrences.mp hm).1 with rfl | hm
    · exact isSegment_idField
    · exact hnames m hm
  rw [keepRow, get?_projectRow_keep hall]
  simp [mem_firstOccurrences]

/-- What a sort by a column does: equal rows are sorted by their identifiers. -/
theorem sortStage_of_mem_columns {l : Level} {s : SortKey} (h : s.field ∈ l.columns) :
    sortStage s = .sort [s, ⟨idField, s.direction⟩] := by
  rw [sortStage, if_neg (Level.ne_idField_of_mem_columns h)]

namespace Request

variable {r : Request} {records : Records}

/-- The filter of the cursor keeps the records behind it. -/
theorem transform_cursorStages (records : Records) {cursor : List Stage} (h : r.cursorStages = .ok cursor) :
    pipelineTransform records cursor = .ok fun _ rows => rows.filter r.isBeyondCursor := by
  rw [cursorStages] at h
  cases htoken : r.token? with
  | none =>
    simp only [htoken, Except.ok.injEq] at h
    have hall : r.isBeyondCursor = fun _ => true := by
      funext d
      simp [isBeyondCursor, cursorId?, htoken]
    simp [← h, pipelineTransform, hall]
  | some token =>
    simp only [htoken, Cursor.continuation] at h
    cases hid : Cursor.decode token with
    | error e => simp [hid] at h
    | ok id =>
      cases hoid : ObjectId.ofHex? id with
      | none => simp [hid, hoid] at h
      | some oid =>
        simp only [hid, hoid, Except.ok.injEq] at h
        have hbeyond : r.isBeyondCursor = r.isBeyond oid := by
          funext d
          simp [isBeyondCursor, cursorId?, htoken, hid, hoid, Except.toOption]
        rw [← h, hbeyond]
        rfl

/-- The fields of a root record that a request needs. -/
def rootNames (r : Request) : List String := rootKey :: r.sort.field :: r.base.columns

theorem isSegment_of_mem_rootNames (hr : r.Admissible) {n : String} (h : n ∈ r.rootNames) :
    IsSegment n := by
  simp only [rootNames, List.mem_cons] at h
  rcases h with rfl | rfl | h
  · exact Level.isSegment_of_mem_columns (Level.rootKey_mem_columns .poly)
  · exact Level.isSegment_of_mem_columns (Level.mem_columns_of_mem_sortable hr.sort)
  · exact Level.isSegment_of_mem_columns (hr.base_columns n h)

theorem sortStage_sort (hr : r.Admissible) : sortStage r.sort = .sort r.rootKeys :=
  sortStage_of_mem_columns (Level.mem_columns_of_mem_sortable hr.sort)

theorem sortStage_joinSortOf (hr : r.Admissible) (j : Join) :
    sortStage (r.joinSortOf j) = .sort (r.joinKeys j) :=
  sortStage_of_mem_columns (Join.mem_columns_of_mem_sortFields (hr.join_sort j))

/-- The stages in front of the sort leave the root records that match. -/
theorem exists_transform_rootFilters (records : Records) (hr : r.Admissible) {cursor : List Stage}
    (hcursor : r.cursorStages = .ok cursor) :
    ∃ run, pipelineTransform records (filterStages (conjunction r.base.conditions) ++ cursor)
        = .ok run ∧ run [] (records .poly) = r.matching records := by
  refine ⟨_, pipelineTransform_append_of_ok (transform_filterStages records hr.base_conditions)
    (transform_cursorStages records hcursor), ?_⟩
  rw [matching]
  simp only [List.filter_filter, Bool.and_comm]

/-- The stages on the root level give the first records that match, with the fields in use. -/
theorem exists_transform_rootStages (records : Records) (hr : r.Admissible) {cursor : List Stage}
    (hcursor : r.cursorStages = .ok cursor) (n : Nat) :
    ∃ run, pipelineTransform records (r.rootStages cursor n) = .ok run ∧
      run [] (records .poly) = ((r.matchingRoots records).take n).map (keepRow r.rootNames) := by
  obtain ⟨filters, hfilters, hmatching⟩ := exists_transform_rootFilters records hr hcursor
  have hlast : pipelineTransform records
      [sortStage r.sort, .limit n, keepFields (rootKey :: r.sort.field :: r.base.columns)]
      = .ok fun _ rows => ((sortRows r.rootKeys rows).take n).map (keepRow r.rootNames) := by
    rw [sortStage_sort hr]
    rfl
  exact ⟨_, pipelineTransform_append_of_ok hfilters hlast, by rw [hmatching, matchingRoots]⟩

end Request

/-! ## Variables -/

theorem withoutDollar_append (path : String) : withoutDollar ("$" ++ path) = path := by
  rw [withoutDollar, String.toList_append]
  exact String.ofList_toList

theorem bindOne_eq (row : Document) (v : Variable) :
    bindOne row v = (present? (row.getPath? (withoutDollar v.path))).map fun w => (v.name, w) := by
  rw [bindOne]
  cases row.getPath? (withoutDollar v.path) with
  | none => rfl
  | some w => cases w <;> rfl

/-- A variable holds the value at its path, if that is there and not null. -/
theorem lookup_bind {vars : List Variable} (hnodup : (vars.map (·.name)).Nodup) {v : Variable}
    (hv : v ∈ vars) (row : Document) :
    (bind vars row).lookup v.name = present? (row.getPath? (withoutDollar v.path)) := by
  have hother : ∀ {ws : List Variable} {name : String}, name ∉ ws.map (·.name) →
      (ws.filterMap (bindOne row)).reverse.lookup name = none := by
    intro ws name hname
    rw [funext (bindOne_eq row)]
    refine Document.lookup_reverse_filterMap_eq_none fun w hw => ?_
    rintro rfl
    exact hname (List.mem_map_of_mem hw)
  rw [bind]
  induction vars with
  | nil => simp at hv
  | cons w rest ih =>
    rw [List.map_cons, List.nodup_cons] at hnodup
    have hcons : (((w :: rest).filterMap (bindOne row)).reverse).lookup v.name
        = ((rest.filterMap (bindOne row)).reverse.lookup v.name).or
            ((bindOne row w).toList.lookup v.name) := by
      rw [List.filterMap_cons]
      cases bindOne row w with
      | none => simp
      | some f => rw [List.reverse_cons, List.lookup_append]; rfl
    rw [hcons]
    by_cases hvw : v = w
    · subst hvw
      rw [hother hnodup.1, Option.none_or, bindOne_eq]
      cases present? (row.getPath? (withoutDollar v.path)) <;> simp
    · have hv : v ∈ rest := (List.mem_cons.mp hv).resolve_left hvw
      have hname : v.name ≠ w.name := fun h => hnodup.1 (h ▸ List.mem_map_of_mem hv)
      have hsingle : (bindOne row w).toList.lookup v.name = none := by
        rw [bindOne_eq]
        cases present? (row.getPath? (withoutDollar w.path)) with
        | none => rfl
        | some u => simp [hname]
      rw [ih hnodup.2 hv, hsingle, Option.or_none]

/-- The variable that holds the value of a key. -/
def Correlation.toVariable (k : Correlation) : Variable := ⟨k.var, k.parentPath⟩

/-! ## Rows that carry expansions -/

/-- What is stored for what is joined at a level, when `keep` says what is kept of a record. -/
def Attached.stored? (keep : Document → Document) : Attached → Option Value
  | nothing => none
  | record d => some (.document (keep d))
  | list ds => some (.array (ds.map fun d => .document (keep d)))

namespace Request

/-- The fields of a joined record that are kept. -/
def joinNames (r : Request) (j : Join) : List String := j.ownKeys ++ r.joinColumns.get j

/-- A row has the fields of the root record that a request needs, and what is joined at a level under
the field of the level. -/
structure Carries (r : Request) (x : Expansion) (row : Document) : Prop where
  root : ∀ n, n = idField ∨ n ∈ r.rootNames → row.get? n = x.root.get? n
  joined : ∀ j, row.get? j.listField = (x.attached j).stored? (keepRow (r.joinNames j))

variable {r : Request} {records : Records} {x : Expansion} {row : Document}

theorem isSegment_of_mem_joinNames (hr : r.Admissible) {j : Join} {n : String}
    (h : n ∈ r.joinNames j) : IsSegment n := by
  rw [joinNames, List.mem_append] at h
  rcases h with h | h
  · exact Level.isSegment_of_mem_columns (Join.mem_columns_of_mem_ownKeys h)
  · exact Level.isSegment_of_mem_columns (hr.join_columns j n h)

theorem get?_keepRow_joinNames (hr : r.Admissible) {j : Join} {n : String}
    (h : n ∈ r.joinNames j) (d : Document) : (keepRow (r.joinNames j) d).get? n = d.get? n := by
  rw [get?_keepRow fun m hm => isSegment_of_mem_joinNames hr hm, if_pos (.inr h)]

theorem rootNames_ne_listField (hr : r.Admissible) {n : String}
    (h : n = idField ∨ n ∈ r.rootNames) (j : Join) : n ≠ j.listField := by
  simp only [rootNames, List.mem_cons] at h
  rcases h with rfl | rfl | rfl | h
  · cases j <;> decide
  · exact Level.ne_listField_of_mem_columns (Level.rootKey_mem_columns .poly) j
  · exact Level.ne_listField_of_mem_columns (Level.mem_columns_of_mem_sortable hr.sort) j
  · exact Level.ne_listField_of_mem_columns (hr.base_columns n h) j

/-- The first rows carry root records with nothing joined to them. -/
theorem carries_ofRoot (hr : r.Admissible) (d : Document) :
    r.Carries (.ofRoot d) (keepRow r.rootNames d) := by
  have hget := get?_keepRow (fun n hn => isSegment_of_mem_rootNames hr hn) d
  refine ⟨fun n hn => by rw [hget, if_pos hn]; rfl, fun j => ?_⟩
  rw [hget, if_neg fun hn => rootNames_ne_listField hr hn j rfl]
  rfl

theorem forall₂_carries_ofRoot (hr : r.Admissible) (docs : List Document) :
    List.Forall₂ r.Carries (docs.map .ofRoot) (docs.map (keepRow r.rootNames)) := by
  rw [List.forall₂_map_left_iff, List.forall₂_map_right_iff, List.forall₂_same]
  exact fun d _ => carries_ofRoot hr d

/-- Setting the field of a level in a row is joining something at that level. -/
theorem Carries.attach (hr : r.Admissible) (h : r.Carries x row) {j : Join} {a : Attached}
    {row' : Document} (hother : ∀ n, n ≠ j.listField → row'.get? n = row.get? n)
    (hown : row'.get? j.listField = a.stored? (keepRow (r.joinNames j))) :
    r.Carries (x.attach j a) row' := by
  refine ⟨fun n hn => ?_, fun k => ?_⟩
  · rw [hother n (rootNames_ne_listField hr hn j)]
    exact h.root n hn
  · by_cases hk : k = j
    · subst hk
      rw [hown, Expansion.attach]
      simp only [if_true]
    · simp only [Expansion.attach, if_neg hk]
      rw [hother _ fun hfield => hk (Join.listField_injective hfield)]
      exact h.joined k

/-! ### What belongs to an expansion -/

theorem Carries.getPath?_rootKey (h : r.Carries x row) :
    row.getPath? (withoutDollar ("$" ++ rootKey)) = x.root.get? rootKey := by
  have hkey := Level.isSegment_of_mem_columns (Level.rootKey_mem_columns .poly)
  rw [withoutDollar_append, Document.getPath?_of_isSegment hkey]
  exact h.root rootKey (.inr (by simp [rootNames]))

/-- The index of what is joined at a level is read off the row. -/
theorem Carries.fieldAt?_eq (hr : r.Admissible) (h : r.Carries x row) {j : Join} {index : String}
    (hj : j.localIndex? = some index) :
    x.fieldAt? j index
      = present? (row.getPath? (withoutDollar ("$" ++ j.listField ++ "." ++ index))) := by
  have hown := Join.localIndex_mem_ownKeys hj
  have hsegment := Level.isSegment_of_mem_columns (Join.mem_columns_of_mem_ownKeys hown)
  have hpath : "$" ++ j.listField ++ "." ++ index = "$" ++ (j.listField ++ "." ++ index) := by
    simp only [String.append_assoc]
  rw [hpath, withoutDollar_append, Document.getPath?_append j.isSegment_listField hsegment,
    h.joined j, Expansion.fieldAt?]
  cases x.attached j with
  | nothing => rfl
  | list ds =>
    -- a path does not look into a list, and a list ties no rows below it
    rfl
  | record d =>
    simp only [Attached.stored?]
    rw [get?_keepRow_joinNames hr (List.mem_append_left _ hown)]

/-- The variables that a row binds for a join hold the values that tie the rows of the join to the
expansion that the row carries. -/
theorem Carries.ties_eq (hr : r.Admissible) (h : r.Carries x row) (j : Join) :
    x.ties j = j.correlation.map fun k =>
      (k.field, present? (row.getPath? (withoutDollar k.parentPath))) := by
  rw [Expansion.ties, Join.correlation, List.map_cons, Join.rootCorrelation, h.getPath?_rootKey,
    List.map_filterMap]
  congr 1
  refine List.filterMap_congr fun a _ => ?_
  rw [Join.indexCorrelation?, Option.map_map]
  cases ha : a.localIndex? with
  | none => rfl
  | some index => simp [h.fieldAt?_eq hr ha]

/-- Under the bindings by a row, the records of a join that correlate are those that belong to the
expansion that the row carries. -/
theorem Carries.correlates_eq (hr : r.Admissible) (h : r.Carries x row) (j : Join) (d : Document) :
    (j.correlation.map fun k => (k.field, k.var)).all
        (correlates (bind (j.correlation.map Correlation.toVariable) row) d) = x.owns j d := by
  have hnodup : ((j.correlation.map Correlation.toVariable).map (·.name)).Nodup := by
    rw [List.map_map]
    exact j.nodup_correlation_vars
  rw [Expansion.owns, h.ties_eq hr, List.all_map, List.all_map, Bool.eq_iff_iff, List.all_eq_true,
    List.all_eq_true]
  refine forall₂_congr fun k hk => ?_
  have hfield : IsSegment k.field :=
    Level.isSegment_of_mem_columns (Join.mem_columns_of_mem_ownKeys (Join.field_mem_ownKeys hk))
  have hbound := lookup_bind hnodup (List.mem_map_of_mem (f := Correlation.toVariable) hk) row
  simp only [Correlation.toVariable] at hbound
  have hread := Document.getPath?_of_isSegment hfield d
  cases hv : d.get? k.field <;> cases hw : present? (row.getPath? (withoutDollar k.parentPath)) <;>
    simp [correlates, hread, hbound, hv, hw]

/-! ### The stages of a join -/

theorem unwindRow_of_array {field : String} {row : Document} {items : List Value}
    (h : row.get? field = some (.array items)) :
    unwindRow field row = if items.isEmpty then [row.erase field]
      else items.map fun v => (row.erase field).insert field v := by
  rw [unwindRow, h]
  cases items <;> rfl

/-- The records of a join that correlate with a row and satisfy the conditions. -/
def correlated (r : Request) (records : Records) (j : Join) (row : Document) : List Document :=
  let bound := bind (j.correlation.map Correlation.toVariable) row
  ((records j.level).filter fun d =>
    (j.correlation.map fun k => (k.field, k.var)).all (correlates bound d)).filter fun d =>
      (r.joinConditions.get j).all fun c => c.holds d

/-- What the pipeline of a join lists for a row. -/
def foundBy (r : Request) (records : Records) (j : Join) (row : Document) : List Document :=
  ((sortRows (r.joinKeys j) (r.correlated records j row)).take (r.cap j)).map (keepRow (r.joinNames j))

/-- A row with what the pipeline of a join lists for it. -/
def listedRow (r : Request) (records : Records) (j : Join) (row : Document) : Document :=
  row.insert j.listField (.array ((r.foundBy records j row).map .document))

/-- What the stages of a join make of a row. -/
def joinedRows (r : Request) (records : Records) (j : Join) (row : Document) : List Document :=
  if shouldFlatten j r.resultLevel r.activeJoins then
    unwindRow j.listField (r.listedRow records j row)
  else [r.listedRow records j row]

/-- The stages in front of the sort of a join leave the records that correlate. -/
theorem transform_joinFilters (records : Records) (hr : r.Admissible) (j : Join) :
    pipelineTransform records (.filter (.correlate (j.correlation.map fun k => (k.field, k.var))) ::
        filterStages (conjunction (r.joinConditions.get j)))
      = .ok fun bound rows => (rows.filter fun d =>
          (j.correlation.map fun k => (k.field, k.var)).all (correlates bound d)).filter fun d =>
            (r.joinConditions.get j).all fun c => c.holds d :=
  pipelineTransform_cons_of_ok rfl (transform_filterStages records (hr.join_conditions j))

/-- The lookup of a join lists for every row what the pipeline of the join finds. -/
theorem transform_lookup (records : Records) (hr : r.Admissible) (j : Join) :
    Stage.transform records (.lookup j.level (j.correlation.map Correlation.toVariable)
      (r.joinPipeline j (conjunction (r.joinConditions.get j))) j.listField)
      = .ok fun _ rows => rows.map (r.listedRow records j) := by
  have hlast : pipelineTransform records [sortStage (r.joinSortOf j), .limit (r.cap j),
      keepFields (j.ownKeys ++ r.joinColumns.get j)] = .ok fun _ rows =>
        ((sortRows (r.joinKeys j) rows).take (r.cap j)).map (keepRow (r.joinNames j)) := by
    rw [sortStage_joinSortOf hr]
    rfl
  have hpipeline := pipelineTransform_append_of_ok (transform_joinFilters records hr j) hlast
  rw [Stage.transform, joinPipeline, hpipeline]
  rfl

/-- The stages of a join work row by row. -/
theorem transform_joinStages (hr : r.Admissible) (j : Join) :
    pipelineTransform records (r.joinStages j (conjunction (r.joinConditions.get j)))
      = .ok fun _ rows => rows.flatMap (r.joinedRows records j) := by
  have hlookup := transform_lookup records hr j
  rw [joinStages]
  by_cases hopen : shouldFlatten j r.resultLevel r.activeJoins = true
  · have hrows : r.joinedRows records j
        = fun row => unwindRow j.listField (r.listedRow records j row) := by
      funext row
      rw [joinedRows, if_pos hopen]
    rw [if_pos hopen, hrows]
    refine (pipelineTransform_cons_of_ok hlookup rfl).trans (congrArg Except.ok ?_)
    funext _ rows
    exact List.flatMap_map _ _ rows
  · have hrows : r.joinedRows records j = fun row => [r.listedRow records j row] := by
      funext row
      rw [joinedRows, if_neg hopen]
    rw [if_neg hopen, hrows]
    refine (pipelineTransform_cons_of_ok hlookup rfl).trans (congrArg Except.ok ?_)
    funext _ rows
    exact List.map_eq_flatMap

/-- The records that correlate with a row are those that are related to the expansion that it carries. -/
theorem Carries.correlated_eq (hr : r.Admissible) (h : r.Carries x row) (j : Join) :
    r.correlated records j row = r.related records x j := by
  simp only [correlated, related, h.correlates_eq hr, List.filter_filter, Bool.and_comm]

/-- What the pipeline of a join lists for a row are the records below the expansion that the row
carries. -/
theorem Carries.foundBy_eq (hr : r.Admissible) (h : r.Carries x row) (j : Join) :
    r.foundBy records j row = (r.children records x j).map (keepRow (r.joinNames j)) := by
  rw [foundBy, children, h.correlated_eq hr]

/-- **One join.** From a row that carries an expansion, the stages of a join make rows that carry its
expansions by that join. -/
theorem Carries.joinedRows (hr : r.Admissible) (h : r.Carries x row) (j : Join) :
    List.Forall₂ r.Carries (r.expandBy records x j) (r.joinedRows records j row) := by
  rw [expandBy, joinedWith, Request.joinedRows, listedRow, h.foundBy_eq hr]
  generalize r.children records x j = found
  split
  next =>
    -- an opened level: the list is taken apart, or its field goes if it is empty
    rw [unwindRow_of_array (Document.get?_insert_self _ _ _)]
    generalize hv : Value.array _ = v
    have hother : ∀ n, n ≠ j.listField →
        ((row.insert j.listField v).erase j.listField).get? n = row.get? n := by
      intro n hn
      rw [Document.get?_erase_of_ne _ hn, Document.get?_insert_of_ne _ _ hn]
    simp only [List.map_map, List.isEmpty_map]
    split
    next => exact .cons (h.attach hr hother (Document.get?_erase_self _ _)) .nil
    next =>
      rw [List.forall₂_map_left_iff, List.forall₂_map_right_iff, List.forall₂_same]
      intro d _
      refine h.attach hr (fun n hn => ?_) (Document.get?_insert_self _ _ _)
      rw [Function.comp_apply, Document.get?_insert_of_ne _ _ hn, hother n hn]
  next =>
    refine .cons (h.attach hr (fun n hn => Document.get?_insert_of_ne _ _ hn) ?_) .nil
    rw [Document.get?_insert_self, Attached.stored?, List.map_map]
    rfl

theorem forall₂_carries_joinedRows (hr : r.Admissible) {xs : List Expansion} {rows : List Document}
    (h : List.Forall₂ r.Carries xs rows) (j : Join) :
    List.Forall₂ r.Carries (xs.flatMap fun x => r.expandBy records x j)
      (rows.flatMap (r.joinedRows records j)) :=
  List.rel_flatMap h fun _ _ hx => hx.joinedRows hr j

/-- **All joins.** From rows that carry expansions, the stages of joins make rows that carry their
expansions by these joins. -/
theorem exists_transform_joinedStages (records : Records) (hr : r.Admissible) (js : List Join) :
    ∃ run, pipelineTransform records (r.joinedStages js) = .ok run ∧
      ∀ bound {xs rows}, List.Forall₂ r.Carries xs rows →
        List.Forall₂ r.Carries (xs.flatMap (r.expand records js)) (run bound rows) := by
  induction js with
  | nil =>
    refine ⟨_, rfl, fun bound xs rows h => ?_⟩
    have hexpand : r.expand records [] = fun x => [x] := rfl
    rw [hexpand, List.flatMap_singleton']
    exact h
  | cons j rest ih =>
    obtain ⟨run, hrun, hcarries⟩ := ih
    refine ⟨_, pipelineTransform_append_of_ok (transform_joinStages hr j) hrun,
      fun bound xs rows h => ?_⟩
    have hexpand : xs.flatMap (r.expand records (j :: rest))
        = (xs.flatMap fun x => r.expandBy records x j).flatMap (r.expand records rest) :=
      List.flatMap_assoc.symm
    rw [hexpand]
    exact hcarries bound (forall₂_carries_joinedRows hr h j)

/-! ## Output -/

/-- The last projection reads a column of a level as the column of what is joined there. -/
theorem Carries.resolve?_column (hr : r.Admissible) (h : r.Carries x row) {j : Join} {c : String}
    (hc : c ∈ r.joinColumns.get j) :
    row.resolve? (j.listField ++ "." ++ c) = (x.attached j).column? c := by
  have hkept : c ∈ r.joinNames j := List.mem_append_right _ hc
  have hsegment := isSegment_of_mem_joinNames hr hkept
  have hget := get?_keepRow_joinNames hr hkept
  rw [Document.resolve?_append j.isSegment_listField hsegment, h.joined]
  cases x.attached j with
  | nothing => rfl
  | record d =>
    rw [Attached.stored?, Option.bind_some, Value.resolveIn, Value.resolveField_eq, hget,
      Attached.column?]
    cases d.get? c <;> simp
  | list ds =>
    have hitems : ds.map (fun d => Value.document (keepRow (r.joinNames j) d))
        = (ds.map (keepRow (r.joinNames j))).map Value.document := (List.map_map ..).symm
    rw [Attached.stored?, Option.bind_some, hitems, Value.resolveIn, Value.resolveItems_documents,
      Attached.column?, List.filterMap_map]
    simp only [Function.comp_def, hget]

/-- The last projection makes the row of the expansion that a row carries. -/
theorem Carries.outputRow_eq (hr : r.Admissible) (h : r.Carries x row) :
    projectRow (⟨idField, .keep⟩ :: r.baseOutput.map (fun c => ⟨c, .keep⟩) ++ r.joinedOutput) row
      = r.outputRow x := by
  have hown : ∀ c ∈ idField :: r.baseOutput, row.getPath? c = x.root.get? c := by
    intro c hc
    rcases List.mem_cons.mp hc with rfl | hc
    · rw [Document.getPath?_of_isSegment isSegment_idField, h.root _ (.inl rfl)]
    · have hkept : c ∈ r.rootNames := by
        simp only [rootNames, List.mem_cons]
        exact .inr (.inr (mem_baseOutput.mp hc))
      rw [Document.getPath?_of_isSegment (isSegment_of_mem_rootNames hr hkept),
        h.root c (.inr hkept)]
  have hfields : ⟨idField, .keep⟩ :: r.baseOutput.map (fun c => (⟨c, .keep⟩ : Projected))
      = (idField :: r.baseOutput).map fun c => ⟨c, .keep⟩ := rfl
  rw [projectRow, hfields, joinedOutput, joinsOutput_eq, List.filterMap_append, List.filterMap_map,
    List.filterMap_map, outputRow]
  refine congrArg Document.ofFields (congrArg₂ (· ++ ·) ?_ ?_)
  · refine List.filterMap_congr fun c hc => ?_
    simp only [Function.comp_apply, hown c hc]
  · refine List.filterMap_congr fun column hc => ?_
    obtain ⟨name, j, c⟩ := column
    simp only [Function.comp_apply, h.resolve?_column hr (mem_namedColumns hc).1]

/-! ## The whole pipeline -/

/-- The pipeline of a request for `n` records gives the rows of the first `n` records that match. -/
theorem exists_transform_pipelineFrom (records : Records) (hr : r.Admissible) {cursor : List Stage}
    (hcursor : r.cursorStages = .ok cursor) (n : Nat) :
    ∃ run, pipelineTransform records (r.pipelineFrom cursor n) = .ok run ∧
      run [] (records .poly) = r.nestedLoop records n := by
  obtain ⟨root, hroot, hfirst⟩ := exists_transform_rootStages records hr hcursor n
  obtain ⟨joins, hjoins, hcarries⟩ :=
    exists_transform_joinedStages records hr r.activeJoins
  have houtput : pipelineTransform records [r.outputStage] = .ok fun _ rows => rows.map
      (projectRow (⟨idField, .keep⟩ :: r.baseOutput.map (fun c => ⟨c, .keep⟩) ++ r.joinedOutput)) :=
    rfl
  refine ⟨_, pipelineTransform_append_of_ok (pipelineTransform_append_of_ok hroot hjoins) houtput,
    ?_⟩
  -- the rows of the root level carry the root records, and so the rows behind the joins carry the
  -- expansions
  have hbegin : List.Forall₂ r.Carries (((r.matchingRoots records).take n).map .ofRoot)
      (root [] (records .poly)) := by
    rw [hfirst]
    exact forall₂_carries_ofRoot hr _
  have hend := hcarries [] hbegin
  have hrows : ∀ {xs rows}, List.Forall₂ r.Carries xs rows → rows.map (projectRow
      (⟨idField, .keep⟩ :: r.baseOutput.map (fun c => ⟨c, .keep⟩) ++ r.joinedOutput))
        = xs.map r.outputRow := by
    intro xs rows h
    induction h with
    | nil => rfl
    | cons hx _ ih => rw [List.map_cons, List.map_cons, hx.outputRow_eq hr, ih]
  rw [hrows hend, nestedLoop, List.flatMap_map, List.map_flatMap]
  rfl

theorem aggregate_pipelineFrom (hr : r.Admissible) {cursor : List Stage}
    (hcursor : r.cursorStages = .ok cursor) (s : Store) (n : Nat) {budget : Nat}
    (hbudget : 0 < budget) :
    s.aggregate .poly (r.pipelineFrom cursor n) budget = .ok (r.nestedLoop s.snapshot n) := by
  obtain ⟨run, hrun, hrows⟩ := exists_transform_pipelineFrom s.snapshot hr hcursor n
  rw [Store.aggregate, Strata.aggregate, hrun]
  simp only [if_neg (Nat.ne_of_gt hbudget), hrows]

/-- A root record with two geometries, of which the second has a Swiss cheese entry, and a root record
without any. -/
def familyStore : Store :=
  let record (id : Nat) (fields : List (String × Value)) : Document :=
    (idField, .objectId (.ofNat id)) :: fields
  ⟨{ poly := [record 1 [("POLYID", .int32 1)], record 2 [("POLYID", .int32 2)]]
     geom := [record 11 [("POLYID", .int32 1), ("GEOMN", .int32 2)],
              record 12 [("POLYID", .int32 1), ("GEOMN", .int32 1)]]
     triang := []
     invol := []
     swisscheese := [record 21 [("POLYID", .double ⟨0x3ff0000000000000⟩), ("GEOMN", .int32 2),
                                ("EXPLICIT", .bool true)]] }, 0⟩

/-- The request for geometries with their Swiss cheese entries. -/
def familyRequest : Request where
  resultLevel := .geom
  joins := [.swisscheese]
  joinColumns := .ofFun fun
    | .geom => ["GEOMN"]
    | .swisscheese => ["EXPLICIT"]
    | _ => []

end Request

end Strata
