import Strata.Proofs.Walk

/-!
# When paging loses nothing

With one page size a walk may show every record by luck: only the records at its page boundaries
count. Over all page sizes luck runs out. A walk shows every record once whatever the page size is if
and only if the identifiers ascend with the sort, that is, if sorting by the identifiers alone gives
the same sequence.
-/

namespace Strata

namespace Direction

variable {direction : Direction} {a b : ObjectId}

theorem Before.asymm (h : direction.Before a b) : ¬ direction.Before b a :=
  fun h' => not_before_self direction a (h.trans h')

/-- Of two different identifiers one lies before the other. -/
theorem before_of_ne (hne : a ≠ b) (h : ¬ direction.Before b a) : direction.Before a b := by
  have htoNat : a.toNat ≠ b.toNat := by
    intro heq
    apply hne
    rw [← a.ofNat_toNat, heq, b.ofNat_toNat]
  cases direction with
  | asc =>
    have hle : a.toNat ≤ b.toNat := Nat.not_lt.mp h
    exact Nat.lt_of_le_of_ne hle htoNat
  | desc =>
    have hle : b.toNat ≤ a.toNat := Nat.not_lt.mp h
    exact Nat.lt_of_le_of_ne hle htoNat.symm

end Direction

/-! ## Ascending identifiers -/

/-- The identifiers of records ascend in a direction. -/
def Ascends (direction : Direction) (docs : List Document) : Prop :=
  docs.Pairwise fun d e => ∀ i j, rootId? d = some i → rootId? e = some j → direction.Before i j

variable {direction : Direction} {docs : List Document}

/-- Records with ascending identifiers can stand in one order only. -/
theorem Ascends.eq_of_perm (hids : Identified docs) {other : List Document}
    (h : Ascends direction docs) (h' : Ascends direction other) (hperm : docs.Perm other) :
    docs = other := by
  refine hperm.eq_of_pairwise (fun d e hd he hde hed => ?_) h h'
  obtain ⟨i, hi⟩ := hids.exists_id hd
  obtain ⟨j, hj⟩ := hids.exists_id (hperm.mem_iff.mpr he)
  exact absurd (hed j i hj hi) (hde i j hi hj).asymm

/-- Where identifiers ascend, every page can be resumed. -/
theorem Ascends.resumableAt (h : Ascends direction docs) {n : Nat} (hn : 0 < n) :
    ResumableAt direction docs n := by
  intro id hid
  obtain ⟨last, hlast, hlastId⟩ := Option.bind_eq_some_iff.mp hid
  obtain ⟨hlt, rfl⟩ := List.getElem?_eq_some_iff.mp hlast
  have hget := List.pairwise_iff_getElem.mp h
  constructor
  · intro d hd i hi hbefore
    obtain ⟨m, hm, rfl⟩ := List.mem_take_iff_getElem.mp hd
    have hm : m < docs.length := by omega
    rcases Nat.lt_or_ge m (n - 1) with hless | hge
    · exact (hget m (n - 1) hm hlt hless i id hi hlastId).asymm hbefore
    · -- the last one of the page itself
      obtain rfl : m = n - 1 := by omega
      rw [hlastId] at hi
      obtain rfl := Option.some.inj hi
      exact Direction.not_before_self direction id hbefore
  · intro d hd i hi
    obtain ⟨m, hm, rfl⟩ := List.mem_drop_iff_getElem.mp hd
    exact hget (n - 1) (n + m) hlt (by omega) (by omega) id i hlastId hi

/-- If a page can be resumed wherever it ends, identifiers ascend. -/
theorem ascends_of_resumableAt
    (h : ∀ m, 0 < m → m < docs.length → ResumableAt direction docs m) : Ascends direction docs := by
  refine List.pairwise_iff_getElem.mpr fun m n hm hn hlt i j hi hj => ?_
  have hid : docs[m + 1 - 1]?.bind rootId? = some i := by
    rw [Nat.add_sub_cancel, List.getElem?_eq_getElem hm, Option.bind_some, hi]
  obtain ⟨-, hdrop⟩ := h (m + 1) (by omega) (by omega) i hid
  refine hdrop docs[n] ?_ j hj
  refine List.mem_drop_iff_getElem.mpr ⟨n - (m + 1), by omega, ?_⟩
  congr 1
  omega

theorem compareRows_idField_eq_gt_iff {d e : Document} {i j : ObjectId} (hi : rootId? d = some i)
    (hj : rootId? e = some j) :
    compareRows [⟨idField, direction⟩] d e = .gt ↔ direction.Before j i := by
  rw [compareRows_cons, SortKey.order, SortKey.value_idField hi, SortKey.value_idField hj,
    Value.order_objectId]
  cases direction with
  | asc =>
    show (compare i.toNat j.toNat).then .eq = .gt ↔ j.toNat < i.toNat
    rw [Ordering.then_eq, Nat.compare_eq_gt]
  | desc =>
    show (compare i.toNat j.toNat).swap.then .eq = .gt ↔ i.toNat < j.toNat
    rw [Ordering.then_eq, Ordering.swap_eq_gt, Nat.compare_eq_lt]

/-- Sorting by the identifiers makes them ascend. -/
theorem ascends_sortRows (hids : Identified docs) :
    Ascends direction (sortRows [⟨idField, direction⟩] docs) := by
  have hsorted : (sortRows [⟨idField, direction⟩] docs).Pairwise fun d e =>
      compareRows [⟨idField, direction⟩] d e ≠ .gt := by
    refine pairwise_sortRows (totallyOrdered_of_transitiveOn fun k hk => ?_)
    obtain rfl := List.mem_singleton.mp hk
    exact hids.transitiveOn direction
  have hdifferent : (sortRows [⟨idField, direction⟩] docs).Pairwise fun d e =>
      rootId? d ≠ rootId? e :=
    List.pairwise_map.mp (hids.perm (sortRows_perm _ docs)).nodup
  refine (hsorted.and hdifferent).imp fun ⟨hle, hne⟩ i j hi hj => ?_
  have hij : i ≠ j := by
    rintro rfl
    exact hne (hi.trans hj.symm)
  refine Direction.before_of_ne hij fun hbefore => ?_
  exact hle ((compareRows_idField_eq_gt_iff hi hj).mpr hbefore)

/-! ## Every page size -/

namespace Request

variable {q r : Request} {records : Records}

/-- The request with another page size. -/
def withPageSize (q : Request) (size : Int64) : Request :=
  { q with paging := { q.paging with poly := size } }

/-- A valid request stays valid with another page size within the bounds. -/
theorem validate_withPageSize (hq : q.validate = .ok r) {size : Int64}
    (hmin : minPageSize ≤ size.toInt) (hmax : size.toInt ≤ maxPageSize) :
    (q.withPageSize size).validate = .ok (r.withPageSize size) := by
  obtain ⟨hissues, rfl⟩ := validate_eq_ok_iff.mp hq
  refine validate_eq_ok_iff.mpr ⟨?_, rfl⟩
  have hsize : pagingIssues "poly" size = [] := by
    rw [pagingIssues, if_pos ⟨hmin, hmax⟩]
  have hsameJoins : (q.withPageSize size).joinIssues = q.joinIssues := by
    funext j
    simp only [joinIssues, withPageSize]
  have hsameCursor : (q.withPageSize size).cursorIssues = q.cursorIssues := by
    simp only [cursorIssues, token?, withPageSize]
  -- only the issues of the page size are those of another request
  simp only [issues, Paging.entries, List.append_eq_nil_iff, List.flatMap_cons, hsameJoins,
    hsameCursor] at hissues ⊢
  obtain ⟨⟨⟨⟨⟨⟨hroots, -, hcaps⟩, hsort⟩, hcolumns⟩, hconditions⟩, hjoins⟩, hcursor⟩ := hissues
  exact ⟨⟨⟨⟨⟨⟨hroots, hsize, hcaps⟩, hsort⟩, hcolumns⟩, hconditions⟩, hjoins⟩, hcursor⟩

/-- The root records stand in a total order if their values under the sort are ordered transitively. -/
theorem totallyOrdered_satisfying (hids : Identified (records .poly))
    (htrans : Value.TransitiveOn ((r.rootsBehind records none).map r.sort.value)) :
    TotallyOrdered r.rootKeys (r.satisfying records) := by
  refine (identified_satisfying hids).totallyOrdered (htrans.mono fun v hv => ?_)
  obtain ⟨d, hd, rfl⟩ := List.mem_map.mp hv
  exact List.mem_map_of_mem (mem_rootsBehind.mpr ⟨hd, rfl⟩)

/-- Pages of one record that show every record once make the identifiers ascend. -/
theorem ascends_of_batches (hids : Identified (records .poly)) (hsize : r.pageSize = 1)
    (htrans : Value.TransitiveOn ((r.rootsBehind records none).map r.sort.value))
    {batches : List (List Document)} (hbatches : Batches r records none batches)
    (honce : ∀ d ∈ r.rootsBehind records none, batches.countP (isIn d) = 1) :
    Ascends r.sort.direction (r.rootsBehind records none) := by
  have hleaves : Leaves r records 0 batches := by
    refine ⟨fun d hd => ?_, fun d hd => by simp at hd⟩
    rw [Nat.zero_mul, List.drop_zero] at hd
    exact honce d hd
  refine ascends_of_resumableAt fun m hm hlt => ?_
  have hresumable := resumableAt_of_batches hids (totallyOrdered_satisfying hids htrans) hbatches (k := 0)
    (by simp) hleaves (m := m) hm (by rw [hsize]; omega)
  rwa [hsize, Nat.mul_one] at hresumable

/-- Where identifiers ascend, records are in one batch each, whatever the page size is. -/
theorem countP_isIn_of_ascends (hids : Identified (records .poly))
    (h : Ascends r.sort.direction (r.rootsBehind records none)) {batches : List (List Document)}
    (hbatches : Batches r records none batches) {d : Document}
    (hd : d ∈ r.rootsBehind records none) : batches.countP (isIn d) = 1 :=
  countP_isIn_of_resumable hids hbatches
    (fun _ hm _ => h.resumableAt (Nat.mul_pos hm r.pageSize_pos)) hd

/-- Identifiers ascend exactly if sorting by them alone makes no difference. -/
theorem ascends_rootsBehind_iff (hids : Identified (records .poly)) :
    Ascends r.sort.direction (r.rootsBehind records none)
      ↔ r.rootsBehind records none
          = sortRows [⟨idField, r.sort.direction⟩] (r.satisfying records) := by
  have hbyId : Ascends r.sort.direction
      (sortRows [⟨idField, r.sort.direction⟩] (r.satisfying records)) :=
    ascends_sortRows (identified_satisfying hids)
  constructor
  · intro h
    refine h.eq_of_perm (identified_rootsBehind hids none) hbyId ?_
    rw [rootsBehind_none]
    exact (sortRows_perm _ _).trans (sortRows_perm _ _).symm
  · intro heq
    rw [heq]
    exact hbyId

/-- The page size does not matter for what is sorted. -/
theorem SortsTotally.withPageSize (h : r.SortsTotally records) (size : Int64) :
    (r.withPageSize size).SortsTotally records := by
  refine ⟨h.roots, fun d hd => ?_⟩
  refine expandsTotally_congr (r := r) (t := r.withPageSize size) (fun _ => rfl) (fun _ _ => rfl)
    (fun _ j => ?_) (h.joins d hd)
  cases j <;> rfl

/-- **When paging loses nothing.** For a valid request without a cursor, on a store whose root records
have different identifiers and whose values under the sort are ordered transitively: the walk shows every
record that matches once, for every page size, if and only if sorting these records by their identifiers
alone gives the same sequence. Where what is sorted for the joins stands in a total order as well, these
walks are the same however rows are sorted. -/
theorem forall_shownOnce_iff (hq : q.validate = .ok r) (htoken : q.token? = none) (s : Store)
    (hids : Identified (s.snapshot .poly))
    (htrans : Value.TransitiveOn ((r.matchingRoots s.snapshot).map r.sort.value))
    {budgets : Budgets} (hmain : 0 < budgets.main) (hprobe : 0 < budgets.probe) :
    ((∀ size : Int64, minPageSize ≤ size.toInt → size.toInt ≤ maxPageSize →
      ∃ pages, Walk s.aggregate budgets (q.withPageSize size) pages ∧
        ∀ d ∈ r.matchingRoots s.snapshot,
          ShownOnce (r.withPageSize size) s.snapshot pages d) ↔
      r.matchingRoots s.snapshot
        = sortRows [⟨idField, r.sort.direction⟩] (r.satisfying s.snapshot)) ∧
    (r.JoinsTotally s.snapshot →
      ∀ size : Int64, minPageSize ≤ size.toInt → size.toInt ≤ maxPageSize →
        ∀ pages, Walk s.aggregate budgets (q.withPageSize size) pages →
          ∀ S : Sorter, Walk (s.aggregateWith S) budgets (q.withPageSize size) pages) := by
  have htoken' : r.token? = none := by
    rw [(validate_eq_ok_iff.mp hq).2, token?_normalize, htoken]
  have hroots : r.matchingRoots s.snapshot = r.rootsBehind s.snapshot none :=
    matchingRoots_resume htoken' none
  rw [hroots] at htrans ⊢
  rw [← ascends_rootsBehind_iff hids]
  refine ⟨⟨fun hshown => ?_, fun hascends size hmin hmax => ?_⟩,
    fun hjoins size hmin hmax pages hwalk => ?_⟩
  · -- one record on a page is enough
    obtain ⟨pages, hwalk, honce⟩ := hshown 1 (by decide) (by decide)
    have hvalid : (q.withPageSize 1).validate = .ok (r.withPageSize 1) :=
      validate_withPageSize hq (by decide) (by decide)
    obtain ⟨pages', batches, hwalk', hbatches, hiff⟩ :=
      exists_walk_shownOnce_iff hvalid htoken hids hmain hprobe
    obtain rfl := hwalk.unique hwalk'
    exact ascends_of_batches (r := r.withPageSize 1) hids rfl htrans hbatches fun d hd =>
      (hiff d hd).mp (honce d hd)
  · obtain ⟨pages, batches, hwalk, hbatches, hiff⟩ :=
      exists_walk_shownOnce_iff (validate_withPageSize hq hmin hmax) htoken hids hmain hprobe
    refine ⟨pages, hwalk, fun d hd => (hiff d hd).mpr ?_⟩
    exact countP_isIn_of_ascends (r := r.withPageSize size) hids hascends hbatches hd
  · have htotal : TotallyOrdered r.rootKeys (r.matching s.snapshot) := by
      rw [matching_of_token? htoken']
      exact totallyOrdered_satisfying hids htrans
    have hsorts : r.SortsTotally s.snapshot := ⟨htotal, hjoins⟩
    exact (hsorts.withPageSize size).walk (validate_withPageSize hq hmin hmax) hids hmain hprobe hwalk

theorem transitiveOn_twoRecords (first second : Nat) :
    Value.TransitiveOn ((onePerPage.normalize.matchingRoots (twoRecords first second).snapshot).map
      onePerPage.normalize.sort.value) := by
  rw [matchingRoots_twoRecords]
  show ∀ a ∈ [Value.int32 1, .int32 2], ∀ b ∈ [Value.int32 1, .int32 2],
    ∀ c ∈ [Value.int32 1, .int32 2], a.order b ≠ .gt → b.order c ≠ .gt → a.order c ≠ .gt
  decide

/-- Two records are shown once for every page size if their identifiers ascend with their keys, and
not for every page size if they descend. The walks are the same however rows are sorted. -/
theorem forall_shownOnce_twoRecords :
    (∀ size : Int64, minPageSize ≤ size.toInt → size.toInt ≤ maxPageSize →
      ∃ pages, Walk (twoRecords 1 2).aggregate {} (onePerPage.withPageSize size) pages ∧
        ∀ d ∈ onePerPage.normalize.matchingRoots (twoRecords 1 2).snapshot,
          ShownOnce (onePerPage.normalize.withPageSize size) (twoRecords 1 2).snapshot pages d) ∧
    (∀ size : Int64, minPageSize ≤ size.toInt → size.toInt ≤ maxPageSize →
      ∀ pages, Walk (twoRecords 1 2).aggregate {} (onePerPage.withPageSize size) pages →
        ∀ S : Sorter, Walk ((twoRecords 1 2).aggregateWith S) {} (onePerPage.withPageSize size) pages) ∧
    ¬ ∀ size : Int64, minPageSize ≤ size.toInt → size.toInt ≤ maxPageSize →
      ∃ pages, Walk (twoRecords 2 1).aggregate {} (onePerPage.withPageSize size) pages ∧
        ∀ d ∈ onePerPage.normalize.matchingRoots (twoRecords 2 1).snapshot,
          ShownOnce (onePerPage.normalize.withPageSize size) (twoRecords 2 1).snapshot pages d := by
  have hmain : 0 < ({} : Budgets).main := by decide
  have hprobe : 0 < ({} : Budgets).probe := by decide
  refine ⟨?_, ?_, ?_⟩
  · refine (forall_shownOnce_iff validate_onePerPage rfl (twoRecords 1 2)
      (identified_twoRecords (by decide)) (transitiveOn_twoRecords 1 2) hmain hprobe).1.mpr ?_
    rfl
  · refine (forall_shownOnce_iff validate_onePerPage rfl (twoRecords 1 2)
      (identified_twoRecords (by decide)) (transitiveOn_twoRecords 1 2) hmain hprobe).2 ?_
    -- nothing is joined
    exact fun _ _ => trivial
  · rw [(forall_shownOnce_iff validate_onePerPage rfl (twoRecords 2 1)
      (identified_twoRecords (by decide)) (transitiveOn_twoRecords 2 1) hmain hprobe).1]
    intro heq
    have hids := congrArg (List.map rootId?) heq
    revert hids
    decide

end Request

end Strata
