import Strata.Proofs.Allowlist
import Strata.Proofs.Paging

/-!
# What a response depends on

A request refers to some fields of the records of each level that takes part: the keys of the level,
and the fields of its conditions, its sort and its columns. It *sees* of a record the identifier and
these fields. Every step of going through the levels gives the same on the records that it sees as on
all of them, so nothing else in a record, and nothing on a level that takes no part, can have an
influence on a response or turn up in it.
-/

namespace Strata

/-- Two records agree on the identifier and on some fields: each of these has the same value in both,
or is missing in both. -/
def AgreeOn (names : List String) (d e : Document) : Prop :=
  ∀ n, n = idField ∨ n ∈ names → d.get? n = e.get? n

/-! ## What reads a field -/

theorem keepRow_congr {names : List String} (hnames : ∀ n ∈ names, IsSegment n) {d e : Document}
    (h : AgreeOn names d e) : keepRow names d = keepRow names e := by
  rw [keepRow, keepRow, projectRow_keep, projectRow_keep]
  refine congrArg Document.ofFields (List.filterMap_congr fun n hn => ?_)
  have hn := List.mem_cons.mp (mem_firstOccurrences.mp hn).1
  have hsegment : IsSegment n := by
    rcases hn with rfl | hn
    · exact isSegment_idField
    · exact hnames n hn
  rw [Document.getPath?_of_isSegment hsegment, Document.getPath?_of_isSegment hsegment, h n hn]

theorem Condition.mem_columns_of_check {l : Level} {c : Condition} (h : c.check l = .ok ()) :
    c.field ∈ l.columns := by
  obtain ⟨ops, hops, -⟩ := allows_of_check h
  rw [Level.operators?] at hops
  split at hops
  next hcolumn => exact Level.isColumn_iff.mp hcolumn
  next => cases hops

theorem Condition.holds_congr {c : Condition} (hfield : IsSegment c.field) {d e : Document}
    (h : d.get? c.field = e.get? c.field) : c.holds d = c.holds e := by
  have hcandidates : d.candidates c.field = e.candidates c.field := by
    rw [Document.candidates_of_isSegment hfield, Document.candidates_of_isSegment hfield, h]
  rw [holds, holds, hcandidates]

theorem SortKey.value_congr {k : SortKey} (hfield : IsSegment k.field) {d e : Document}
    (h : d.get? k.field = e.get? k.field) : k.value d = k.value e := by
  rw [value, value, Document.getPath?_of_isSegment hfield, Document.getPath?_of_isSegment hfield, h]

/-- The first of the sorted rows with a property, seen through what keeps the property and the values
by the keys. -/
theorem map_take_sortRows_filter {f : Document → Document} {p p' : Document → Bool}
    {keys : List SortKey} (hp : ∀ d, p' (f d) = p d) (hkeys : ∀ k ∈ keys, ∀ d, k.value (f d) = k.value d)
    (rows : List Document) (n : Nat) :
    ((sortRows keys (rows.filter p)).take n).map f
      = (sortRows keys ((rows.map f).filter p')).take n := by
  have hfilter : p' ∘ f = p := funext hp
  rw [List.map_take, map_sortRows hkeys, List.filter_map, hfilter]

theorem Level.eq_poly_or_level (l : Level) : l = .poly ∨ ∃ j : Join, l = j.level := by
  cases l
  case poly => exact .inl rfl
  case geom => exact .inr ⟨.geom, rfl⟩
  case triang => exact .inr ⟨.triang, rfl⟩
  case invol => exact .inr ⟨.invol, rfl⟩
  case swisscheese => exact .inr ⟨.swisscheese, rfl⟩

namespace Request

/-! ## What a request sees -/

/-- The fields of a level that a request refers to: the keys of the level, and the fields of its sort,
its columns and its conditions. -/
def referredFields (r : Request) (l : Level) : List String :=
  match l.join? with
  | none => r.rootNames ++ r.base.conditions.map (·.field)
  | some j => r.joinNames j ++ (r.joinSortOf j).field :: (r.joinConditions.get j).map (·.field)

/-- The levels that take part. -/
def levels (r : Request) : List Level := .poly :: r.activeJoins.map Join.level

/-- What a request sees of a record. -/
def seen (r : Request) (l : Level) (d : Document) : Document := keepRow (r.referredFields l) d

/-- What a request sees of the records of every level. -/
def seenRecords (r : Request) (records : Records) : Records :=
  fun l => if l ∈ r.levels then (records l).map (r.seen l) else []

variable {r : Request} {records : Records}

theorem referredFields_poly (r : Request) :
    r.referredFields .poly = r.rootNames ++ r.base.conditions.map (·.field) := rfl

theorem referredFields_level (r : Request) (j : Join) :
    r.referredFields j.level
      = r.joinNames j ++ (r.joinSortOf j).field :: (r.joinConditions.get j).map (·.field) := by
  cases j <;> rfl

theorem mem_referredFields_of_mem_rootNames {n : String} (h : n ∈ r.rootNames) :
    n ∈ r.referredFields .poly :=
  List.mem_append_left _ h

theorem mem_referredFields_of_mem_joinNames {j : Join} {n : String} (h : n ∈ r.joinNames j) :
    n ∈ r.referredFields j.level := by
  rw [referredFields_level]
  exact List.mem_append_left _ h

theorem isSegment_of_mem_referredFields (hr : r.Admissible) {l : Level} {n : String}
    (h : n ∈ r.referredFields l) : IsSegment n := by
  rcases l.eq_poly_or_level with rfl | ⟨j, rfl⟩
  · rw [referredFields_poly, List.mem_append] at h
    rcases h with h | h
    · exact isSegment_of_mem_rootNames hr h
    · obtain ⟨c, hc, rfl⟩ := List.mem_map.mp h
      exact Level.isSegment_of_mem_columns (Condition.mem_columns_of_check (hr.base_conditions c hc))
  · rw [referredFields_level, List.mem_append, List.mem_cons] at h
    rcases h with h | rfl | h
    · exact isSegment_of_mem_joinNames hr h
    · exact Level.isSegment_of_mem_columns (Join.mem_columns_of_mem_sortFields (hr.join_sort j))
    · obtain ⟨c, hc, rfl⟩ := List.mem_map.mp h
      exact Level.isSegment_of_mem_columns
        (Condition.mem_columns_of_check (hr.join_conditions j c hc))

/-- A request sees the fields that it refers to as they are. -/
theorem get?_seen (hr : r.Admissible) {l : Level} {n : String}
    (h : n = idField ∨ n ∈ r.referredFields l) (d : Document) : (r.seen l d).get? n = d.get? n := by
  rw [seen, get?_keepRow fun m hm => isSegment_of_mem_referredFields hr hm, if_pos h]

/-- A request sees the same of records that agree on what it refers to. -/
theorem seen_congr (hr : r.Admissible) {l : Level} {d e : Document}
    (h : AgreeOn (r.referredFields l) d e) : r.seen l d = r.seen l e :=
  keepRow_congr (fun _ hn => isSegment_of_mem_referredFields hr hn) h

theorem all_holds_seen (hr : r.Admissible) {l : Level} {cs : List Condition}
    (h : ∀ c ∈ cs, c.field ∈ r.referredFields l) (d : Document) :
    (cs.all fun c => c.holds (r.seen l d)) = cs.all fun c => c.holds d := by
  rw [Bool.eq_iff_iff, List.all_eq_true, List.all_eq_true]
  refine forall₂_congr fun c hc => ?_
  rw [Condition.holds_congr (isSegment_of_mem_referredFields hr (h c hc))
    (get?_seen hr (.inr (h c hc)) d)]

theorem value_seen (hr : r.Admissible) {l : Level} {s : SortKey}
    (h : s.field ∈ r.referredFields l) :
    ∀ k ∈ [s, ⟨idField, s.direction⟩], ∀ d, k.value (r.seen l d) = k.value d := by
  intro k hk d
  simp only [List.mem_cons, List.not_mem_nil, or_false] at hk
  rcases hk with rfl | rfl
  · exact SortKey.value_congr (isSegment_of_mem_referredFields hr h) (get?_seen hr (.inr h) d)
  · exact SortKey.value_congr isSegment_idField (get?_seen hr (.inl rfl) d)

theorem seenRecords_poly (r : Request) (records : Records) :
    r.seenRecords records .poly = (records .poly).map (r.seen .poly) := by
  rw [seenRecords, if_pos]
  exact List.mem_cons_self

theorem seenRecords_level {j : Join} (hj : j ∈ r.activeJoins) :
    r.seenRecords records j.level = (records j.level).map (r.seen j.level) := by
  rw [seenRecords, if_pos]
  exact .tail _ (List.mem_map_of_mem hj)

end Request

/-! ## Expansions of what is seen -/

/-- What is joined, each record of it replaced by what is seen of it. -/
def Attached.map (f : Document → Document) : Attached → Attached
  | nothing => nothing
  | record d => record (f d)
  | list ds => list (ds.map f)

/-- An expansion, each record in it replaced by what a request sees of it. -/
def Expansion.seenBy (r : Request) (x : Expansion) : Expansion :=
  ⟨r.seen .poly x.root, fun j => (x.attached j).map (r.seen j.level)⟩

namespace Request

variable {r : Request} {records : Records}

theorem seenBy_attach (x : Expansion) (j : Join) (a : Attached) :
    (x.attach j a).seenBy r = (x.seenBy r).attach j (a.map (r.seen j.level)) := by
  rw [Expansion.seenBy, Expansion.attach, Expansion.attach, Expansion.seenBy]
  congr 1
  funext k
  by_cases hk : k = j
  · subst hk
    simp only [if_true]
  · simp only [if_neg hk]

theorem fieldAt?_seenBy (hr : r.Admissible) (x : Expansion) {j : Join} {n : String}
    (h : n ∈ j.ownKeys) : (x.seenBy r).fieldAt? j n = x.fieldAt? j n := by
  have hattached : (x.seenBy r).attached j = (x.attached j).map (r.seen j.level) := rfl
  rw [Expansion.fieldAt?, Expansion.fieldAt?, hattached]
  cases x.attached j with
  | nothing => rfl
  | list ds => rfl
  | record d =>
    show present? ((r.seen j.level d).get? n) = present? (d.get? n)
    rw [get?_seen hr (.inr (mem_referredFields_of_mem_joinNames (List.mem_append_left _ h)))]

/-- Records belong to an expansion by keys that the request sees. -/
theorem ties_seenBy (hr : r.Admissible) (x : Expansion) (j : Join) :
    (x.seenBy r).ties j = x.ties j := by
  have hroot : (x.seenBy r).root.get? rootKey = x.root.get? rootKey :=
    get?_seen hr (.inr (mem_referredFields_of_mem_rootNames List.mem_cons_self)) _
  rw [Expansion.ties, Expansion.ties, hroot]
  congr 1
  refine List.filterMap_congr fun a _ => ?_
  cases hindex : a.localIndex? with
  | none => rfl
  | some index =>
    rw [Option.map_some, Option.map_some, fieldAt?_seenBy hr x (Join.localIndex_mem_ownKeys hindex)]

theorem fst_mem_ownKeys_of_mem_ties {x : Expansion} {j : Join} {tie : String × Option Value}
    (h : tie ∈ x.ties j) : tie.1 ∈ j.ownKeys := by
  rw [Expansion.ties, List.mem_cons] at h
  rcases h with rfl | h
  · exact Join.field_mem_ownKeys (k := Join.rootCorrelation) List.mem_cons_self
  · obtain ⟨a, ha, htie⟩ := List.mem_filterMap.mp h
    obtain ⟨index, hindex, rfl⟩ := Option.map_eq_some_iff.mp htie
    refine Join.field_mem_ownKeys (.tail _ (List.mem_filterMap.mpr ⟨a, ha, ?_⟩))
      (k := ⟨index, Text.asciiLower index, "$" ++ a.listField ++ "." ++ index⟩)
    rw [Join.indexCorrelation?, hindex]
    rfl

theorem owns_seenBy (hr : r.Admissible) (x : Expansion) (j : Join) (d : Document) :
    (x.seenBy r).owns j (r.seen j.level d) = x.owns j d := by
  rw [Expansion.owns, Expansion.owns, ties_seenBy hr, Bool.eq_iff_iff, List.all_eq_true,
    List.all_eq_true]
  refine forall₂_congr fun tie htie => ?_
  have hown : tie.1 ∈ r.joinNames j := List.mem_append_left _ (fst_mem_ownKeys_of_mem_ties htie)
  rw [get?_seen hr (.inr (mem_referredFields_of_mem_joinNames hown))]

/-- The records found below an expansion are seen as they are found among those that are seen. -/
theorem children_seen (hr : r.Admissible) (x : Expansion) {j : Join} (hj : j ∈ r.activeJoins) :
    r.children (r.seenRecords records) (x.seenBy r) j
      = (r.children records x j).map (r.seen j.level) := by
  have hsort : (r.joinSortOf j).field ∈ r.referredFields j.level := by
    rw [referredFields_level]
    exact List.mem_append_right _ List.mem_cons_self
  have hcondition : ∀ c ∈ r.joinConditions.get j, c.field ∈ r.referredFields j.level := by
    intro c hc
    rw [referredFields_level]
    exact List.mem_append_right _ (.tail _ (List.mem_map_of_mem hc))
  simp only [children, related, joinKeys]
  rw [seenRecords_level hj]
  refine (map_take_sortRows_filter (fun d => ?_) (value_seen hr hsort) _ _).symm
  rw [owns_seenBy hr, all_holds_seen hr hcondition]

theorem expandBy_seen (hr : r.Admissible) (x : Expansion) {j : Join} (hj : j ∈ r.activeJoins) :
    r.expandBy (r.seenRecords records) (x.seenBy r) j
      = (r.expandBy records x j).map (Expansion.seenBy r) := by
  simp only [expandBy, joinedWith, children_seen hr x hj, List.isEmpty_map]
  -- as many records are found, so the same of the three shapes of an expansion is taken
  split
  · split
    · rw [List.map_singleton, seenBy_attach]
      rfl
    · rw [List.map_map, List.map_map]
      refine List.map_congr_left fun d _ => ?_
      rw [Function.comp_apply, Function.comp_apply, seenBy_attach]
      rfl
  · rw [List.map_singleton, seenBy_attach]
    rfl

theorem expand_seen (hr : r.Admissible) {js : List Join} (hjs : ∀ j ∈ js, j ∈ r.activeJoins)
    (x : Expansion) :
    r.expand (r.seenRecords records) js (x.seenBy r)
      = (r.expand records js x).map (Expansion.seenBy r) := by
  induction js generalizing x with
  | nil => rfl
  | cons j rest ih =>
    rw [List.forall_mem_cons] at hjs
    rw [expand, expand, expandBy_seen hr x hjs.1, List.flatMap_map, List.map_flatMap]
    congr 1
    funext y
    exact ih hjs.2 y

/-! ## Rows of what is seen -/

/-- The row of an expansion shows columns that the request sees. -/
theorem outputRow_seenBy (hr : r.Admissible) (x : Expansion) :
    r.outputRow (x.seenBy r) = r.outputRow x := by
  rw [outputRow, outputRow]
  refine congrArg Document.ofFields (congrArg₂ (· ++ ·) ?_ ?_)
  · refine List.filterMap_congr fun c hc => ?_
    have hseen : c = idField ∨ c ∈ r.referredFields .poly := by
      refine (List.mem_cons.mp hc).imp_right fun hc => ?_
      exact mem_referredFields_of_mem_rootNames (.tail _ (.tail _ (mem_baseOutput.mp hc)))
    rw [Expansion.seenBy, get?_seen hr hseen]
  · refine List.filterMap_congr fun column hc => ?_
    obtain ⟨name, j, c⟩ := column
    have hseen : c ∈ r.referredFields j.level :=
      mem_referredFields_of_mem_joinNames (List.mem_append_right _ (mem_namedColumns hc).1)
    have hcolumn : ((x.attached j).map (r.seen j.level)).column? c = (x.attached j).column? c := by
      cases x.attached j with
      | nothing => rfl
      | record d => exact get?_seen hr (.inr hseen) d
      | list ds =>
        rw [Attached.map, Attached.column?, Attached.column?, List.filterMap_map]
        simp only [Function.comp_def, get?_seen hr (.inr hseen)]
    simp only [Expansion.seenBy, hcolumn]

theorem rowsOf_seen (hr : r.Admissible) (d : Document) :
    r.rowsOf (r.seenRecords records) (r.seen .poly d) = r.rowsOf records d := by
  have hroot : Expansion.ofRoot (r.seen .poly d) = (Expansion.ofRoot d).seenBy r := rfl
  rw [rowsOf, rowsOf, hroot, expand_seen hr fun _ hj => hj, List.map_map]
  exact List.map_congr_left fun x _ => outputRow_seenBy hr x

theorem isBeyondCursor_seen (hr : r.Admissible) (d : Document) :
    r.isBeyondCursor (r.seen .poly d) = r.isBeyondCursor d := by
  have hid : (r.seen .poly d).candidates idField = d.candidates idField := by
    rw [Document.candidates_of_isSegment isSegment_idField,
      Document.candidates_of_isSegment isSegment_idField, get?_seen hr (.inl rfl)]
  rw [isBeyondCursor, isBeyondCursor]
  congr 1
  funext id
  rw [isBeyond, isBeyond, hid]

/-- The first records that match are seen as they match among those that are seen. -/
theorem matchingRoots_seen (hr : r.Admissible) (n : Nat) :
    (r.matchingRoots (r.seenRecords records)).take n
      = ((r.matchingRoots records).take n).map (r.seen .poly) := by
  have hsort : r.sort.field ∈ r.referredFields .poly :=
    mem_referredFields_of_mem_rootNames (.tail _ List.mem_cons_self)
  have hcondition : ∀ c ∈ r.base.conditions, c.field ∈ r.referredFields .poly := by
    intro c hc
    exact List.mem_append_right _ (List.mem_map_of_mem hc)
  rw [matchingRoots, matchingRoots, matching, matching, rootKeys, seenRecords_poly]
  refine (map_take_sortRows_filter (fun d => ?_) (value_seen hr hsort) _ _).symm
  rw [all_holds_seen hr hcondition, isBeyondCursor_seen hr]

/-- Going through the levels gives the same rows on the records that a request sees. -/
theorem nestedLoop_seen (hr : r.Admissible) (n : Nat) :
    r.nestedLoop (r.seenRecords records) n = r.nestedLoop records n := by
  rw [nestedLoop, nestedLoop, matchingRoots_seen hr, List.flatMap_map]
  simp only [rowsOf_seen hr]

/-! ## Responses -/

/-- A request sees the same of stores whose records agree on what it refers to. -/
theorem seenRecords_congr (hr : r.Admissible) {records' : Records}
    (h : ∀ l ∈ r.levels, List.Forall₂ (AgreeOn (r.referredFields l)) (records l) (records' l)) :
    r.seenRecords records = r.seenRecords records' := by
  funext l
  rw [seenRecords, seenRecords]
  by_cases hl : l ∈ r.levels
  · have hseen : List.Forall₂ Eq ((records l).map (r.seen l)) ((records' l).map (r.seen l)) := by
      rw [List.forall₂_map_left_iff, List.forall₂_map_right_iff]
      exact (h l hl).imp fun _ _ hd => seen_congr hr hd
    rw [List.forall₂_eq_eq_eq] at hseen
    rw [if_pos hl, if_pos hl, hseen]
  · rw [if_neg hl, if_neg hl]

/-- The probe gives the same rows on the records that a request sees. -/
theorem probe_seen (hr : r.Admissible) (n : Nat) :
    ((r.matchingRoots (r.seenRecords records)).take n).map (keepRow r.rootNames)
      = ((r.matchingRoots records).take n).map (keepRow r.rootNames) := by
  rw [matchingRoots_seen hr, List.map_map]
  refine List.map_congr_left fun d _ => ?_
  refine keepRow_congr (fun _ hn => isSegment_of_mem_rootNames hr hn) fun n hn => ?_
  exact get?_seen hr (hn.imp_right mem_referredFields_of_mem_rootNames) d

/-- The page of a request depends on what it sees only. -/
theorem page_congr_of_seen {s s' : Store} (h : r.seenRecords s.snapshot = r.seenRecords s'.snapshot)
    {budgets budgets' : Budgets} (hmain : 0 < budgets.main) (hprobe : 0 < budgets.probe)
    (hmain' : 0 < budgets'.main) (hprobe' : 0 < budgets'.probe) :
    r.page s.aggregate budgets = r.page s'.aggregate budgets' := by
  refine page_congr fun q hq => ?_
  obtain ⟨hr, cursor, hcursor, rfl⟩ := compile_eq_ok_iff.mp hq
  -- each read goes from the records of `s` to what is seen of them, and from there to those of `s'`
  constructor
  · rw [aggregate_pipelineFrom hr hcursor s _ hmain, aggregate_pipelineFrom hr hcursor s' _ hmain',
      ← nestedLoop_seen hr, h, nestedLoop_seen hr]
  · rw [aggregate_probeStages hr hcursor s _ hprobe, aggregate_probeStages hr hcursor s' _ hprobe',
      ← probe_seen hr, h, probe_seen hr]

end Request

namespace Service

/-- A client that is let through, and a body that is read, are answered with the page. -/
theorem fst_handle (v : Service) (read : Reader) (now : Nat) (client body : String) :
    (v.handle read now client body).1
      = (v.allow client now).1 >>= fun _ => Request.parse body >>= fun r =>
          r.page read v.budgets := by
  have hbudgets : (v.allow client now).2.budgets = v.budgets := by
    rw [allow]
    cases v.limiter <;> rfl
  rw [← hbudgets]
  rfl

/-- **What a request does not refer to has no influence.** Two stores may differ in all fields that a
valid request does not refer to, and altogether on the levels that take no part. As long as their
records agree on the other fields, one by one, and the limiter gives the same answer, the outcome is
the same page or the same fault. -/
theorem handle_eq_of_agreeOn {body : String} {r : Request} (hbody : Request.parse body = .ok r)
    {s s' : Store}
    (hagree : ∀ l ∈ r.levels,
      List.Forall₂ (AgreeOn (r.referredFields l)) (s.snapshot l) (s'.snapshot l))
    {v v' : Service} {now now' : Nat} {client client' : String}
    (hallow : (v.allow client now).1 = (v'.allow client' now').1)
    (hmain : 0 < v.budgets.main) (hprobe : 0 < v.budgets.probe)
    (hmain' : 0 < v'.budgets.main) (hprobe' : 0 < v'.budgets.probe) :
    (v.handle s.aggregate now client body).1 = (v'.handle s'.aggregate now' client' body).1 := by
  have hpage : r.page s.aggregate v.budgets = r.page s'.aggregate v'.budgets := by
    cases hcompile : r.compile with
    | error e => exact Request.page_congr fun q hq => by rw [hcompile] at hq; cases hq
    | ok q =>
      obtain ⟨hr, -⟩ := Request.compile_eq_ok_iff.mp hcompile
      exact Request.page_congr_of_seen (Request.seenRecords_congr hr hagree) hmain hprobe hmain'
        hprobe'
  rw [fst_handle, fst_handle, hallow, hbody]
  show ((v'.allow client' now').1 >>= fun _ => r.page s.aggregate v.budgets)
    = ((v'.allow client' now').1 >>= fun _ => r.page s'.aggregate v'.budgets)
  rw [hpage]

/-- A root record and a geometry with other fields in front, and triangulations. -/
def storeWith (others : List (String × Value)) (triangulations : List Document) : Store :=
  ⟨{ poly := [others ++ [(idField, .objectId (.ofNat 1)), ("POLYID", .int32 1)]]
     geom := [others ++ [(idField, .objectId (.ofNat 2)), ("POLYID", .int32 1), ("GEOMN", .int32 1)]]
     triang := triangulations
     invol := []
     swisscheese := [] }, 0⟩

/-- A body that asks for geometries, sorted by their root records. -/
def geometryBody : String :=
  "\x7b\"resultLevel\":\"GEOM\",\"joinColumns\":\x7b\"GEOM\":[\"GEOMN\"]\x7d\x7d"

/-- The request that `geometryBody` is read as. -/
def geometryRequest : Request where
  resultLevel := .geom
  joins := [.geom]
  joinColumns := .ofFun fun
    | .geom => ["GEOMN"]
    | _ => []

theorem parse_geometryBody : Request.parse geometryBody = .ok geometryRequest := by
  have h : (Request.parse geometryBody).toOption = some geometryRequest := by decide +kernel
  cases hparse : Request.parse geometryBody with
  | error e => simp [hparse, Except.toOption] at h
  | ok r => rw [hparse] at h; exact congrArg Except.ok (Option.some.inj h)

/-- Other fields of the records and the level of triangulations are not seen. -/
theorem handle_storeWith :
    (({ limiter := none } : Service).handle (storeWith [("FAV", .bool true)] []).aggregate 0 "a"
        geometryBody).1
      = (({ limiter := none } : Service).handle
          (storeWith [("H11", .int32 7), ("CWS", .null)] [[("TRIANGN", .int32 1)]]).aggregate 5 "b"
          geometryBody).1 := by
  refine handle_eq_of_agreeOn parse_geometryBody (fun l hl => ?_) rfl (by decide) (by decide)
    (by decide) (by decide)
  have hlevels : geometryRequest.levels = [.poly, .geom] := by decide
  rw [hlevels, List.mem_cons, List.mem_singleton] at hl
  rcases hl with rfl | rfl
  · refine .cons (fun n hn => ?_) .nil
    have hfields : geometryRequest.referredFields .poly = ["POLYID", "POLYID"] := by decide
    simp only [hfields, List.mem_cons, List.not_mem_nil, or_false] at hn
    rcases hn with rfl | rfl | rfl <;> rfl
  · refine .cons (fun n hn => ?_) .nil
    have hfields : geometryRequest.referredFields .geom = ["POLYID", "GEOMN", "GEOMN", "GEOMN"] := by
      decide
    simp only [hfields, List.mem_cons, List.not_mem_nil, or_false] at hn
    rcases hn with rfl | rfl | rfl | rfl | rfl <;> rfl

end Service

end Strata
