import Strata.Proofs.CursorToken
import Strata.Proofs.SortedRuns
import Strata.Proofs.Validation
import Strata.Service

/-!
# Pages

A page of a validated request shows the rows of the first records that match, whole groups of them.
Every record that matches has rows, and they carry its identifier, because expanding a record never
drops it and no output column is named like the identifier. So cutting off the rows behind a number
of groups of equal identifiers is the same as taking fewer records in the first place, and the probe,
which stops before anything is joined, finds the record that the page ends with.
-/

namespace Strata

/-! ## Identified records -/

/-- Records with different identifiers. -/
structure Identified (docs : List Document) : Prop where
  isSome : ∀ d ∈ docs, (rootId? d).isSome
  nodup : (docs.map rootId?).Nodup

theorem rootId?_eq_some_iff {d : Document} {id : ObjectId} :
    rootId? d = some id ↔ d.get? idField = some (.objectId id) := by
  rw [rootId?]
  cases d.get? idField with
  | none => simp
  | some v => cases v <;> simp

/-- The identifier of a record depends on its field only. -/
theorem rootId?_congr {a b : Document} (h : a.get? idField = b.get? idField) :
    rootId? a = rootId? b := by
  rw [rootId?, rootId?, h]

namespace Identified

variable {docs : List Document}

theorem sublist {sub : List Document} (h : Identified docs) (hsub : sub.Sublist docs) :
    Identified sub :=
  ⟨fun d hd => h.isSome d (hsub.subset hd), h.nodup.sublist (hsub.map rootId?)⟩

theorem perm {other : List Document} (h : Identified docs) (hperm : other.Perm docs) :
    Identified other :=
  ⟨fun d hd => h.isSome d (hperm.mem_iff.mp hd), (hperm.map rootId?).nodup_iff.mpr h.nodup⟩

theorem exists_id (h : Identified docs) {d : Document} (hd : d ∈ docs) :
    ∃ id, rootId? d = some id :=
  Option.isSome_iff_exists.mp (h.isSome d hd)

theorem tail {d : Document} (h : Identified (d :: docs)) : Identified docs :=
  h.sublist (List.sublist_cons_self d docs)

/-- The records behind the first one have other identifiers. -/
theorem rootId?_ne {d d' : Document} (h : Identified (d :: docs)) (hd' : d' ∈ docs) :
    rootId? d' ≠ rootId? d := by
  have hnodup := h.nodup
  rw [List.map_cons, List.nodup_cons] at hnodup
  exact fun heq => hnodup.1 (heq ▸ List.mem_map_of_mem hd')

end Identified

/-! ## Groups of rows -/

/-- Rows of the record that the row before belongs to are taken without counting. -/
theorem takeGroups_append {id : ObjectId} {rows : List Document}
    (h : ∀ row ∈ rows, rootId? row = some id) (n : Nat) (rest : List Document) :
    takeGroups (some (.objectId id)) n (rows ++ rest)
      = rows ++ takeGroups (some (.objectId id)) n rest := by
  induction rows with
  | nil => rfl
  | cons row tail ih =>
    rw [List.forall_mem_cons, rootId?_eq_some_iff] at h
    have hsame : continuesGroup (some (.objectId id)) (some (.objectId id)) = true := by
      simp [continuesGroup, Value.same]
    simp only [List.cons_append, takeGroups, h.1, hsame, if_true, ih h.2]

/-- Taking the rows of some groups is taking as many records, if every record has rows and they carry
its identifier. -/
theorem takeGroups_flatMap {rowsOf : Document → List Document} {docs : List Document}
    (hdocs : Identified docs) (hne : ∀ d ∈ docs, rowsOf d ≠ [])
    (hid : ∀ d ∈ docs, ∀ row ∈ rowsOf d, rootId? row = rootId? d) {previous : Option Value}
    (hprevious : ∀ d ∈ docs, continuesGroup previous (d.get? idField) = false) (n : Nat) :
    takeGroups previous n (docs.flatMap rowsOf) = (docs.take n).flatMap rowsOf := by
  induction docs generalizing previous n with
  | nil => simp [takeGroups]
  | cons d rest ih =>
    obtain ⟨id, hd⟩ := hdocs.exists_id List.mem_cons_self
    rw [List.forall_mem_cons] at hne hid hprevious
    cases hrows : rowsOf d with
    | nil => exact absurd hrows hne.1
    | cons row tail =>
      have hall : ∀ row' ∈ row :: tail, rootId? row' = some id := by
        rw [← hrows, ← hd]
        exact hid.1
      have hrow := rootId?_eq_some_iff.mp (hall row List.mem_cons_self)
      have hnew : continuesGroup previous (some (.objectId id)) = false := by
        rw [← rootId?_eq_some_iff.mp hd]
        exact hprevious.1
      -- the records behind `d` begin groups of their own
      have hother : ∀ d' ∈ rest, continuesGroup (some (.objectId id)) (d'.get? idField) = false := by
        intro d' hd'
        obtain ⟨id', hid'⟩ := hdocs.exists_id (.tail d hd')
        have hne : id' ≠ id := by
          rintro rfl
          exact hdocs.rootId?_ne hd' (hid'.trans hd.symm)
        rw [rootId?_eq_some_iff.mp hid']
        simpa [continuesGroup, Value.same] using hne
      have ih := ih hdocs.tail hne.2 hid.2 hother
      simp only [List.flatMap_cons, hrows, List.cons_append, takeGroups, hrow, hnew,
        Bool.false_eq_true, if_false]
      cases n with
      | zero => simp
      | succ n =>
        dsimp only
        rw [takeGroups_append fun row' hrow' => hall row' (.tail row hrow'), ih n]
        simp [hrows]

/-- The different identifiers of rows in their order are those of the records. -/
theorem eraseDups_map_flatMap {rowsOf : Document → List Document} {docs : List Document}
    (hdocs : Identified docs) (hne : ∀ d ∈ docs, rowsOf d ≠ [])
    (hid : ∀ d ∈ docs, ∀ row ∈ rowsOf d, rootId? row = rootId? d) :
    ((docs.flatMap rowsOf).map rootId?).eraseDups = docs.map rootId? := by
  induction docs with
  | nil => rfl
  | cons d rest ih =>
    rw [List.forall_mem_cons] at hne hid
    have ih := ih hdocs.tail hne.2 hid.2
    cases hrows : rowsOf d with
    | nil => exact absurd hrows hne.1
    | cons row tail =>
      have hall : ∀ row' ∈ row :: tail, rootId? row' = rootId? d := hrows ▸ hid.1
      have hown : (tail.map rootId?).filter (fun i => !i == rootId? d) = [] := by
        rw [List.filter_eq_nil_iff]
        intro i hi
        obtain ⟨row', hrow', rfl⟩ := List.mem_map.mp hi
        simp [hall row' (.tail row hrow')]
      have hothers : ((rest.flatMap rowsOf).map rootId?).filter (fun i => !i == rootId? d)
          = (rest.flatMap rowsOf).map rootId? := by
        rw [List.filter_eq_self]
        intro i hi
        obtain ⟨row', hrow', rfl⟩ := List.mem_map.mp hi
        obtain ⟨d', hd', hrow'⟩ := List.mem_flatMap.mp hrow'
        rw [hid.2 d' hd' row' hrow']
        simpa using hdocs.rootId?_ne hd'
      rw [List.flatMap_cons, hrows, List.cons_append, List.map_cons, List.map_append,
        List.eraseDups_cons, hall row List.mem_cons_self, List.filter_append, hown, hothers,
        List.nil_append, ih, List.map_cons]

/-! ## The rows of a record -/

namespace Request

variable {r : Request} {records : Records}

theorem root_of_mem_expandBy {x y : Expansion} {j : Join} (h : y ∈ r.expandBy records x j) :
    y.root = x.root := by
  simp only [expandBy, joinedWith] at h
  split at h
  · split at h
    · rw [List.mem_singleton.mp h]
      rfl
    · obtain ⟨d, _, rfl⟩ := List.mem_map.mp h
      rfl
  · rw [List.mem_singleton.mp h]
    rfl

theorem expandBy_ne_nil (x : Expansion) (j : Join) : r.expandBy records x j ≠ [] := by
  simp only [expandBy, joinedWith]
  split
  · split
    next => exact List.cons_ne_nil _ _
    next h => simpa using h
  · exact List.cons_ne_nil _ _

/-- Expanding keeps the root record. -/
theorem root_of_mem_expand {x y : Expansion} {js : List Join} (h : y ∈ r.expand records js x) :
    y.root = x.root := by
  induction js generalizing x with
  | nil => rw [List.mem_singleton.mp h]
  | cons j rest ih =>
    obtain ⟨z, hz, hy⟩ := List.mem_flatMap.mp h
    rw [ih hy, root_of_mem_expandBy hz]

/-- Expanding never drops a record. -/
theorem expand_ne_nil (x : Expansion) (js : List Join) : r.expand records js x ≠ [] := by
  induction js generalizing x with
  | nil => exact List.cons_ne_nil x []
  | cons j rest ih =>
    have hne : r.expandBy records x j ≠ [] := expandBy_ne_nil x j
    obtain ⟨z, hz⟩ := List.exists_mem_of_ne_nil _ hne
    obtain ⟨y, hy⟩ := List.exists_mem_of_ne_nil _ (ih z)
    exact List.ne_nil_of_mem (List.mem_flatMap.mpr ⟨z, hz, hy⟩)

/-- The row of an expansion has the identifier of its root record. -/
theorem get?_outputRow_idField (hr : r.Admissible) (x : Expansion) :
    (r.outputRow x).get? idField = x.root.get? idField := by
  have hjoined : ((namedColumns r.joinColumns.get r.baseOutput r.activeJoins).filterMap
      fun column => ((x.attached column.2.1).column? column.2.2).map fun v =>
        (column.1, v)).reverse.lookup idField = none :=
    Document.lookup_reverse_filterMap_eq_none fun _ h => ne_idField_of_mem_namedColumns hr h
  have hbase : (r.baseOutput.filterMap fun c => (x.root.get? c).map fun v => (c, v)).reverse.lookup
      idField = none :=
    Document.lookup_reverse_filterMap_eq_none fun c h =>
      Level.ne_idField_of_mem_columns (hr.base_columns c (mem_baseOutput.mp h))
  rw [outputRow, Document.get?_ofFields, List.reverse_append, List.lookup_append, hjoined,
    Option.none_or, List.filterMap_cons]
  cases hid : x.root.get? idField with
  | none => simp only [Option.map_none, hbase]
  | some v =>
    simp only [Option.map_some, List.reverse_cons, List.lookup_append, hbase, Option.none_or]
    simp

theorem rowsOf_ne_nil (d : Document) : r.rowsOf records d ≠ [] := by
  rw [rowsOf, ne_eq, List.map_eq_nil_iff]
  exact expand_ne_nil _ _

/-- All rows of a record carry its identifier. -/
theorem rootId?_of_mem_rowsOf (hr : r.Admissible) {d row : Document}
    (h : row ∈ r.rowsOf records d) : rootId? row = rootId? d := by
  obtain ⟨x, hx, rfl⟩ := List.mem_map.mp h
  refine rootId?_congr ?_
  rw [get?_outputRow_idField hr, root_of_mem_expand hx]
  rfl

theorem mem_of_mem_matchingRoots {d : Document} (h : d ∈ r.matchingRoots records) :
    d ∈ records .poly := by
  rw [matchingRoots, mem_sortRows] at h
  exact (List.mem_filter.mp h).1

/-- The records that match have different identifiers if those of the level have. -/
theorem identified_matchingRoots (h : Identified (records .poly)) :
    Identified (r.matchingRoots records) :=
  (h.sublist List.filter_sublist).perm (sortRows_perm _ _)

/-- The page of the rows of the records that match is that of the first of them. -/
theorem takePage_nestedLoop (hr : r.Admissible) (h : Identified (records .poly)) {m n : Nat}
    (hle : n ≤ m) : takePage (r.nestedLoop records m) n = r.nestedLoop records n := by
  have hroots := (identified_matchingRoots (r := r) h).sublist (List.take_sublist m _)
  rw [takePage, nestedLoop, takeGroups_flatMap hroots (fun d _ => rowsOf_ne_nil d)
    (fun d _ row hrow => rootId?_of_mem_rowsOf hr hrow) (fun d _ => rfl), List.take_take,
    Nat.min_eq_left hle, nestedLoop]

/-! ## The probe -/

end Request

/-- The stages with the count of their first limit replaced. -/
def limitFirst (n : Nat) : List Stage → List Stage
  | [] => []
  | .limit _ :: rest => .limit n :: rest
  | s :: rest => s :: limitFirst n rest

theorem probeStages_append {stages rest : List Stage} (h : ∀ s ∈ stages, s.IsFilter) :
    probeStages (stages ++ rest) = stages ++ probeStages rest := by
  induction stages with
  | nil => rfl
  | cons s tail ih =>
    rw [List.forall_mem_cons] at h
    obtain ⟨⟨p, rfl⟩, htail⟩ := h
    rw [List.cons_append, probeStages, ih htail]
    rfl

theorem limitFirst_append {n : Nat} {stages rest : List Stage} (h : ∀ s ∈ stages, s.IsFilter) :
    limitFirst n (stages ++ rest) = stages ++ limitFirst n rest := by
  induction stages with
  | nil => rfl
  | cons s tail ih =>
    rw [List.forall_mem_cons] at h
    obtain ⟨⟨p, rfl⟩, htail⟩ := h
    rw [List.cons_append, limitFirst, ih htail]
    · rfl
    · simp

namespace Request

variable {r : Request} {records : Records}

/-- The probe of a pipeline are its stages on the root level. -/
theorem probeStages_pipelineFrom {cursor : List Stage} (hcursor : r.cursorStages = .ok cursor)
    (n : Nat) : probeStages (r.pipelineFrom cursor n) = r.rootStages cursor n := by
  rw [pipelineFrom, rootStages, List.append_assoc, List.append_assoc,
    probeStages_append (isFilter_of_mem hcursor)]
  rfl

/-- The probe of a pipeline gives the first records that match, with the fields in use. -/
theorem aggregate_probeStages (hr : r.Admissible) {cursor : List Stage}
    (hcursor : r.cursorStages = .ok cursor) (s : Store) (n : Nat) {budget : Nat}
    (hbudget : 0 < budget) :
    s.aggregate .poly (probeStages (r.pipelineFrom cursor n)) budget
      = .ok (((r.matchingRoots s.snapshot).take n).map (keepRow r.rootNames)) := by
  obtain ⟨run, hrun, hfound⟩ := exists_transform_rootStages s.snapshot hr hcursor n
  rw [probeStages_pipelineFrom hcursor, Store.aggregate, Strata.aggregate, hrun]
  simp only [if_neg (Nat.ne_of_gt hbudget), hfound]

theorem limitFirst_pipelineFrom {cursor : List Stage} (hcursor : r.cursorStages = .ok cursor)
    (m n : Nat) : limitFirst n (r.pipelineFrom cursor m) = r.pipelineFrom cursor n := by
  rw [pipelineFrom, pipelineFrom, rootStages, rootStages, List.append_assoc, List.append_assoc,
    limitFirst_append (isFilter_of_mem hcursor)]
  simp only [List.append_assoc]
  rfl

theorem pageSize_pos (r : Request) : 0 < r.pageSize := by
  simp only [pageSize, clampPageSize, minPageSize, maxPageSize]
  omega

/-- The probe finds the identifier of the record that a page ends with. -/
theorem pageInfo?_probe (hr : r.Admissible) (roots : List Document) :
    pageInfo? ((roots.take (r.pageSize + 1)).map (keepRow r.rootNames)) r.pageSize
      = if roots.length ≤ r.pageSize then some .last
        else (roots[r.pageSize - 1]?.bind rootId?).map fun id =>
          ⟨true, some (Cursor.encode id.toHex)⟩ := by
  have hpos := r.pageSize_pos
  have hkeep : ∀ d, rootId? (keepRow r.rootNames d) = rootId? d := fun d => by
    refine rootId?_congr ?_
    rw [get?_keepRow fun n hn => isSegment_of_mem_rootNames hr hn, if_pos (.inl rfl)]
  have hlast : ((roots.take (r.pageSize + 1)).map (keepRow r.rootNames))[r.pageSize - 1]?.bind rootId?
      = roots[r.pageSize - 1]?.bind rootId? := by
    rw [List.getElem?_map, List.getElem?_take_of_lt (by omega)]
    cases roots[r.pageSize - 1]? with
    | none => rfl
    | some d => exact hkeep d
  rw [pageInfo?, hlast, List.length_map, List.length_take]
  -- the probe reads one record more than the page, so it is longer exactly if more records match
  by_cases hle : roots.length ≤ r.pageSize
  · rw [if_pos (.inr (by omega)), if_pos hle]
  · rw [if_neg (by omega), if_neg hle]
    cases roots[r.pageSize - 1]?.bind rootId? <;> rfl

/-! ## Pages of requests -/

/-- What a page says about the pages behind it: nothing if it shows all the records that match, else
the identifier of the last record that it shows. -/
inductive Continues (size : Nat) (roots : List Document) : PageInfo → Prop where
  | last (h : roots.length ≤ size) : Continues size roots .last
  | next {d : Document} {id : ObjectId} (h : size < roots.length)
      (hd : roots[size - 1]? = some d) (hid : rootId? d = some id) :
      Continues size roots ⟨true, some (Cursor.encode id.toHex)⟩

namespace Continues

variable {size : Nat} {roots : List Document} {info : PageInfo}

theorem hasNext_iff (h : Continues size roots info) : info.hasNext = true ↔ size < roots.length := by
  cases h with
  | last hle =>
    simp only [PageInfo.last, Bool.false_eq_true, false_iff]
    omega
  | next hlt _ _ => simpa using hlt

theorem nextCursor_eq_none_iff (h : Continues size roots info) :
    info.nextCursor = none ↔ info.hasNext = false := by
  cases h <;> simp [PageInfo.last]

/-- The next page begins behind the last record of this one. -/
theorem nextCursor_eq (h : Continues size roots info) (hlt : size < roots.length) {d : Document}
    (hd : roots[size - 1]? = some d) {id : ObjectId} (hid : rootId? d = some id) :
    info.nextCursor = some (Cursor.encode id.toHex) := by
  cases h with
  | last hle => omega
  | next _ hd' hid' =>
    rw [Option.some.inj (hd.symm.trans hd')] at hid
    rw [Option.some.inj (hid.symm.trans hid')]

theorem exists_of_nextCursor (h : Continues size roots info) {token : String}
    (htoken : info.nextCursor = some token) :
    ∃ d id, roots[size - 1]? = some d ∧ rootId? d = some id ∧ token = Cursor.encode id.toHex := by
  cases h with
  | last _ => simp [PageInfo.last] at htoken
  | @next d id _ hd hid => exact ⟨d, id, hd, hid, (Option.some.inj htoken).symm⟩

end Continues

/-- A page is put together from two reads. -/
theorem page_eq_ok_iff {read : Reader} {budgets : Budgets} {p : Page} :
    r.page read budgets = .ok p ↔ ∃ q rows probe info, r.compile = .ok q ∧
      read .poly q.pipeline budgets.main = .ok rows ∧
      read .poly (probeStages q.pipeline) budgets.probe = .ok probe ∧
      pageInfo? probe r.pageSize = some info ∧
      p = ⟨takePage rows r.pageSize, q.columns, info, pipelineDigest q.pipeline⟩ := by
  simp only [page, bind_eq_ok_iff]
  constructor
  · rintro ⟨q, hcompile, rows, hrows, probe, hprobe, h⟩
    split at h
    next => exact absurd h (by simp [throw, throwThe, MonadExceptOf.throw])
    next info hinfo =>
      exact ⟨q, rows, probe, info, hcompile, hrows, hprobe, hinfo, (Except.ok.inj h).symm⟩
  · rintro ⟨q, rows, probe, info, hcompile, hrows, hprobe, hinfo, rfl⟩
    refine ⟨q, hcompile, rows, hrows, probe, hprobe, ?_⟩
    rw [hinfo]
    rfl

/-- A page is the same if the two reads that it is put together from are. -/
theorem page_congr {read read' : Reader} {budgets budgets' : Budgets}
    (h : ∀ q, r.compile = .ok q →
      read .poly q.pipeline budgets.main = read' .poly q.pipeline budgets'.main ∧
      read .poly (probeStages q.pipeline) budgets.probe
        = read' .poly (probeStages q.pipeline) budgets'.probe) :
    r.page read budgets = r.page read' budgets' := by
  rw [page, page]
  cases hcompile : r.compile with
  | error e => rfl
  | ok q =>
    obtain ⟨hmain, hprobe⟩ := h q hcompile
    show (read .poly q.pipeline budgets.main >>= _) = (read' .poly q.pipeline budgets'.main >>= _)
    rw [hmain, hprobe]

/-- Where all that is sorted for a request stands in a total order, its page does not depend on the
sort. -/
theorem page_aggregateWith (S : Sorter) {s : Store} (hsorts : r.SortsTotally s.snapshot)
    (budgets : Budgets) : r.page (s.aggregateWith S) budgets = r.page s.aggregate budgets := by
  refine page_congr fun q hq => ?_
  obtain ⟨hr, cursor, hcursor, rfl⟩ := compile_eq_ok_iff.mp hq
  rw [probeStages_pipelineFrom hcursor]
  exact ⟨aggregateWith_pipelineFrom S hsorts hr hcursor _ _,
    aggregateWith_rootStages S hsorts hr hcursor _ _⟩

/-- Where all records have identifiers, the probe tells whether another page follows. -/
theorem exists_pageInfo?_probe (hr : r.Admissible) {roots : List Document}
    (hids : ∀ d ∈ roots, (rootId? d).isSome) :
    ∃ info, pageInfo? ((roots.take (r.pageSize + 1)).map (keepRow r.rootNames)) r.pageSize = some info ∧
      Continues r.pageSize roots info := by
  have hinfo := pageInfo?_probe hr roots
  by_cases hle : roots.length ≤ r.pageSize
  · rw [if_pos hle] at hinfo
    exact ⟨_, hinfo, .last hle⟩
  · rw [if_neg hle] at hinfo
    have hpos := r.pageSize_pos
    have hlt : r.pageSize - 1 < roots.length := by omega
    obtain ⟨id, hid⟩ := Option.isSome_iff_exists.mp (hids _ (List.getElem_mem hlt))
    have hd := List.getElem?_eq_getElem hlt
    rw [hd, Option.bind_some, hid, Option.map_some] at hinfo
    exact ⟨_, hinfo, .next (by omega) hd hid⟩

/-- The page of an admissible request with a readable cursor, where all records have identifiers, which
may be the same. -/
theorem exists_page_of_isSome (hr : r.Admissible) {cursor : List Stage}
    (hcursor : r.cursorStages = .ok cursor) {s : Store}
    (hids : ∀ d ∈ s.snapshot .poly, (rootId? d).isSome) {budgets : Budgets}
    (hmain : 0 < budgets.main) (hprobe : 0 < budgets.probe) :
    ∃ p, r.page s.aggregate budgets = .ok p ∧
      p.rows = takePage (r.nestedLoop s.snapshot (r.pageSize + 1)) r.pageSize ∧
      Continues r.pageSize (r.matchingRoots s.snapshot) p.info := by
  have hcompile := compile_eq_ok_iff.mpr ⟨hr, cursor, hcursor, rfl⟩
  have hrows := aggregate_pipelineFrom hr hcursor s (r.pageSize + 1) hmain
  have hfirst := aggregate_probeStages hr hcursor s (r.pageSize + 1) hprobe
  obtain ⟨info, hinfo, hcontinues⟩ := exists_pageInfo?_probe hr fun d hd =>
    hids d (mem_of_mem_matchingRoots hd)
  exact ⟨_, page_eq_ok_iff.mpr ⟨_, _, _, info, hcompile, hrows, hfirst, hinfo, rfl⟩, rfl, hcontinues⟩

/-- The page of an admissible request with a readable cursor. -/
theorem exists_page (hr : r.Admissible) {cursor : List Stage}
    (hcursor : r.cursorStages = .ok cursor) {s : Store} (hids : Identified (s.snapshot .poly))
    {budgets : Budgets} (hmain : 0 < budgets.main) (hprobe : 0 < budgets.probe) :
    ∃ p, r.page s.aggregate budgets = .ok p ∧ p.rows = r.nestedLoop s.snapshot r.pageSize ∧
      Continues r.pageSize (r.matchingRoots s.snapshot) p.info := by
  obtain ⟨p, hp, hrows, hcontinues⟩ := exists_page_of_isSome hr hcursor hids.isSome hmain hprobe
  exact ⟨p, hp, hrows.trans (takePage_nestedLoop hr hids (Nat.le_succ r.pageSize)), hcontinues⟩

/-- The last row belongs to the last record. -/
theorem getLast?_nestedLoop (hr : r.Admissible) {n : Nat} (hn : 0 < n) {d : Document}
    (hd : (r.matchingRoots records)[n - 1]? = some d) :
    (r.nestedLoop records n).getLast?.bind rootId? = rootId? d := by
  -- the record has rows, so the last one of all is the last of its own
  have htake : (r.matchingRoots records).take n = (r.matchingRoots records).take (n - 1) ++ [d] := by
    have hsucc : n = n - 1 + 1 := by omega
    rw [hsucc, List.take_add_one, hd]
    rfl
  rw [nestedLoop, htake, List.flatMap_append, List.flatMap_cons, List.flatMap_nil, List.append_nil,
    List.getLast?_append_of_ne_nil _ (rowsOf_ne_nil d)]
  cases hlast : (r.rowsOf records d).getLast? with
  | none => exact absurd (List.getLast?_eq_none_iff.mp hlast) (rowsOf_ne_nil d)
  | some row => exact rootId?_of_mem_rowsOf hr (List.mem_of_getLast? hlast)

/-- The different identifiers of the rows are those of the records. -/
theorem eraseDups_nestedLoop (hr : r.Admissible) (h : Identified (records .poly)) (n : Nat) :
    ((r.nestedLoop records n).map rootId?).eraseDups
      = ((r.matchingRoots records).take n).map rootId? :=
  eraseDups_map_flatMap ((identified_matchingRoots h).sublist (List.take_sublist n _))
    (fun d _ => rowsOf_ne_nil d) fun _ _ _ hrow => rootId?_of_mem_rowsOf hr hrow

/-- **Every page is the right page.** Let all that is sorted for a validated request stand in a total
order, so that the records that match have one order. However rows are sorted, the page of the request
shows the rows that its pipeline gives with one record less, which are those of the first records in
that order. It says that another page follows exactly if more records match, and then its cursor is the
identifier of the last record that it shows. -/
theorem page_of_validate {q : Request} (hq : q.validate = .ok r) (s : Store)
    (hids : Identified (s.snapshot .poly)) (hsorts : r.SortsTotally s.snapshot) {budgets : Budgets}
    (hmain : 0 < budgets.main) (hprobe : 0 < budgets.probe) :
    ∃ roots compiled p,
      (∀ sorted, SortedBy r.rootKeys (r.matching s.snapshot) sorted ↔ sorted = roots) ∧
      r.compile = .ok compiled ∧
      r.page s.aggregate budgets = .ok p ∧
      (∀ S : Sorter, r.page (s.aggregateWith S) budgets = .ok p) ∧
      (∀ S : Sorter, s.aggregateWith S .poly (limitFirst r.pageSize compiled.pipeline) budgets.main
        = .ok p.rows) ∧
      (p.rows.map rootId?).eraseDups = (roots.take r.pageSize).map rootId? ∧
      (p.info.hasNext = true ↔ r.pageSize < roots.length) ∧
      (p.info.nextCursor = none ↔ p.info.hasNext = false) ∧
      ∀ token, p.info.nextCursor = some token → ∃ id,
        Cursor.decode token = .ok id.toHex ∧
        roots[r.pageSize - 1]?.bind rootId? = some id ∧
        p.rows.getLast?.bind rootId? = some id := by
  obtain ⟨hr, cursor, hcursor, hcompile⟩ := compile_of_validate hq
  obtain ⟨p, hp, hrows, hinfo⟩ := exists_page hr hcursor hids hmain hprobe
  refine ⟨r.matchingRoots s.snapshot, _, p, fun sorted => sortedBy_iff_eq_sortRows hsorts.roots,
    hcompile, hp, fun S => (page_aggregateWith S hsorts budgets).trans hp, fun S => ?_, ?_,
    hinfo.hasNext_iff, hinfo.nextCursor_eq_none_iff, fun token htoken => ?_⟩
  · rw [limitFirst_pipelineFrom hcursor, aggregateWith_pipelineFrom S hsorts hr hcursor, hrows]
    exact aggregate_pipelineFrom hr hcursor s r.pageSize hmain
  · rw [hrows]
    exact eraseDups_nestedLoop hr hids r.pageSize
  · obtain ⟨d, id, hd, hid, rfl⟩ := hinfo.exists_of_nextCursor htoken
    refine ⟨id, Cursor.decode_encode_toHex id, ?_, ?_⟩
    · rw [hd, Option.bind_some, hid]
    · rw [hrows, getLast?_nestedLoop hr r.pageSize_pos hd, hid]

/-- The request of `familyRequest` with one record on a page. -/
def familyPage : Request := { familyRequest with paging := { poly := 1 } }

/-- The first page shows the first record alone, and another page follows. -/
theorem page_familyPage :
    ∃ p, familyPage.normalize.page familyStore.aggregate {} = .ok p ∧ p.info.hasNext = true ∧
      (p.rows.map rootId?).eraseDups = [some (.ofNat 1)] := by
  have hids : Identified (familyStore.snapshot .poly) := by
    refine ⟨fun d hd => ?_, ?_⟩
    · simp only [familyStore, Store.snapshot, PerLevel.get, List.mem_cons, List.not_mem_nil,
        or_false] at hd
      rcases hd with rfl | rfl <;> rfl
    · decide
  have hsorts : familyPage.normalize.SortsTotally familyStore.snapshot := by decide +kernel
  obtain ⟨_, _, p, hroots, -, hp, -, -, hrows, hnext, -⟩ := page_of_validate (q := familyPage) rfl
    familyStore hids hsorts (show 0 < ({} : Budgets).main by decide)
    (show 0 < ({} : Budgets).probe by decide)
  obtain rfl := (hroots _).mp (sortedBy_sortRows hsorts.roots)
  exact ⟨p, hp, hnext.mpr (by decide +kernel), hrows.trans (by decide +kernel)⟩

end Request

end Strata
