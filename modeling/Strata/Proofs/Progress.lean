import Strata.Proofs.Walk

/-!
# Walks go forward

Whether or not the identifiers of the records fit the sort, a walk goes forward and ends. What gets
smaller from page to page is the set of the records behind the cursor: the record that a cursor names
lies behind the cursor before it, and not behind its own.
-/

namespace Strata

/-- The identifier in the cursor that a page gives. -/
def Page.nextId? (p : Page) : Option ObjectId :=
  p.info.nextCursor.bind fun token => (Cursor.decode token).toOption.bind ObjectId.ofHex?

theorem Page.nextId?_of_nextCursor {p : Page} {id : ObjectId}
    (h : p.info.nextCursor = some (Cursor.encode id.toHex)) : p.nextId? = some id := by
  rw [nextId?, h, Option.bind_some, Cursor.decode_encode_toHex, Except.toOption, Option.bind_some,
    id.ofHex?_toHex]

/-- A page lies behind an identifier: its rows carry identifiers strictly behind it, and so does its
cursor, if it gives one. -/
structure Page.LiesBehind (direction : Direction) (id : ObjectId) (p : Page) : Prop where
  rows : ∀ row ∈ p.rows, ∃ i, rootId? row = some i ∧ direction.Before id i
  next : ∀ i, p.nextId? = some i → direction.Before id i

theorem Page.LiesBehind.trans {direction : Direction} {a b : ObjectId} {p : Page}
    (h : p.LiesBehind direction b) (hab : direction.Before a b) : p.LiesBehind direction a := by
  refine ⟨fun row hrow => ?_, fun i hi => hab.trans (h.next i hi)⟩
  obtain ⟨i, hi, hbefore⟩ := h.rows row hrow
  exact ⟨i, hi, hab.trans hbefore⟩

/-- Pages go forward from a cursor, if there is one: all of them lie behind it, and every page gives
a cursor that the later pages lie behind. -/
structure Advances (direction : Direction) (bound : Option ObjectId) (pages : List Page) : Prop where
  behind : ∀ id, bound = some id → ∀ p ∈ pages, p.LiesBehind direction id
  later : pages.Pairwise fun p p' => ∃ id, p.nextId? = some id ∧ p'.LiesBehind direction id

namespace Advances

variable {direction : Direction} {bound : Option ObjectId} {p : Page}

theorem singleton (h : ∀ id, bound = some id → p.LiesBehind direction id) :
    Advances direction bound [p] :=
  ⟨fun id hid _ hp => List.mem_singleton.mp hp ▸ h id hid, List.pairwise_singleton _ _⟩

/-- A page in front of pages that go forward from its cursor. -/
theorem cons {id : ObjectId} {pages : List Page}
    (h : ∀ b, bound = some b → p.LiesBehind direction b) (hid : p.nextId? = some id)
    (hpages : Advances direction (some id) pages) : Advances direction bound (p :: pages) := by
  constructor
  · intro b hb p' hp'
    rcases List.mem_cons.mp hp' with rfl | hp'
    · exact h b hb
    · exact (hpages.behind id rfl p' hp').trans ((h b hb).next id hid)
  · exact List.pairwise_cons.mpr ⟨fun p' hp' => ⟨id, hid, hpages.behind id rfl p' hp'⟩, hpages.later⟩

end Advances

namespace Request

variable {q r : Request} {records : Records}

/-- The cursor of a page names the last record that the page shows. -/
theorem Continues.exists_of_nextId? {size : Nat} {roots : List Document} {p : Page}
    (h : Continues size roots p.info) {i : ObjectId} (hi : p.nextId? = some i) :
    ∃ d, roots[size - 1]? = some d ∧ rootId? d = some i := by
  obtain ⟨token, htoken, -⟩ := Option.bind_eq_some_iff.mp hi
  obtain ⟨d, id, hd, hid, rfl⟩ := h.exists_of_nextCursor htoken
  rw [Page.nextId?_of_nextCursor htoken, Option.some.injEq] at hi
  exact ⟨d, hd, hi ▸ hid⟩

theorem exists_before_of_mem_rootsBehind (h : Identified (records .poly)) {id : ObjectId}
    {d : Document} (hd : d ∈ r.rootsBehind records (some id)) :
    ∃ i, rootId? d = some i ∧ r.sort.direction.Before id i := by
  obtain ⟨i, hi⟩ := (identified_rootsBehind h (some id)).exists_id hd
  exact ⟨i, hi, (isBeyond_iff hi).mp (mem_rootsBehind.mp hd).2⟩

/-- A page that shows records behind an identifier lies behind it. -/
theorem liesBehind_of_rows (hr : r.Admissible) (h : Identified (records .poly)) {id : ObjectId}
    {n : Nat} {p : Page}
    (hrows : p.rows = ((r.rootsBehind records (some id)).take n).flatMap (r.rowsOf records))
    (hinfo : Continues n (r.rootsBehind records (some id)) p.info) :
    p.LiesBehind r.sort.direction id := by
  constructor
  · intro row hrow
    rw [hrows] at hrow
    obtain ⟨d, hd, hrow⟩ := List.mem_flatMap.mp hrow
    rw [rootId?_of_mem_rowsOf hr hrow]
    exact exists_before_of_mem_rootsBehind h (List.mem_of_mem_take hd)
  · intro i hi
    obtain ⟨d, hd, hdi⟩ := hinfo.exists_of_nextId? hi
    obtain ⟨i', hi', hbefore⟩ := exists_before_of_mem_rootsBehind h (List.mem_of_getElem? hd)
    rwa [Option.some.inj (hdi.symm.trans hi')]

/-- Every valid request has a walk that goes forward, with at most one page for each record behind its
cursor. -/
theorem exists_walk_behind (hq : q.validate = .ok r) {s : Store}
    (hids : Identified (s.snapshot .poly)) {budgets : Budgets} (hmain : 0 < budgets.main)
    (hprobe : 0 < budgets.probe) :
    ∃ pages, Walk s.aggregate budgets q pages ∧ Advances r.sort.direction r.cursorId? pages ∧
      pages.length ≤ max 1 (r.rootsBehind s.snapshot r.cursorId?).length := by
  -- by induction on the number of records that are left behind the cursor
  induction hn : (r.rootsBehind s.snapshot r.cursorId?).length using Nat.strongRecOn
    generalizing q r with
  | ind n ih =>
    obtain ⟨hr, -⟩ := compile_of_validate hq
    obtain ⟨p, hserve, hrows, hinfo⟩ := exists_serve_of_validate hq hids hmain hprobe
    have hbehind : ∀ b, r.cursorId? = some b → p.LiesBehind r.sort.direction b := by
      intro b hb
      rw [hb] at hrows hinfo
      exact liesBehind_of_rows hr hids hrows hinfo
    by_cases hnext : p.info.hasNext = true
    · have hlt := hinfo.hasNext_iff.mp hnext
      have hpos := r.pageSize_pos
      have hlast : r.pageSize - 1 < (r.rootsBehind s.snapshot r.cursorId?).length := by omega
      have hmem := List.getElem_mem hlast
      obtain ⟨id, hid⟩ := (identified_rootsBehind (r := r) hids r.cursorId?).exists_id hmem
      have htoken := hinfo.nextCursor_eq hlt (List.getElem?_eq_getElem hlast) hid
      -- the next request leaves fewer records, since the one that its cursor names is gone
      have hfewer := length_rootsBehind_lt hids hmem hid
      have hbound := cursorId?_resume_some r id
      have hleft : ((r.resume (some id)).rootsBehind s.snapshot (r.resume (some id)).cursorId?).length
          = (r.rootsBehind s.snapshot (some id)).length := by
        rw [hbound, rootsBehind_resume]
      obtain ⟨pages, hwalk, hadvances, hlength⟩ :=
        ih _ (by omega) (validate_resume hq (some id)) hleft
      rw [hbound] at hadvances
      refine ⟨p :: pages, .next hserve hnext htoken hwalk,
        .cons hbehind (Page.nextId?_of_nextCursor htoken) hadvances, ?_⟩
      rw [List.length_cons]
      omega
    · rw [Bool.not_eq_true] at hnext
      exact ⟨[p], .last hserve hnext, .singleton hbehind, Nat.le_max_left 1 n⟩

/-- **Paging makes progress and ends.** Every valid request for which all that is sorted stands in a total
order has a walk, with whatever cursor it begins, by whatever it is sorted, and however rows are sorted.
The identifiers in its cursors go strictly in the direction of the sort, all rows of a page lie strictly
behind the cursors before it, and it has at most one page for each record that satisfies the conditions,
or one page if there is none. -/
theorem exists_walk_advances {q : Request} (hq : q.validate = .ok r) (s : Store)
    (hids : Identified (s.snapshot .poly)) (hsorts : r.SortsTotally s.snapshot) {budgets : Budgets}
    (hmain : 0 < budgets.main) (hprobe : 0 < budgets.probe) :
    ∃ pages, Walk s.aggregate budgets q pages ∧
      (∀ S : Sorter, Walk (s.aggregateWith S) budgets q pages) ∧
      Advances r.sort.direction r.cursorId? pages ∧
      pages.length ≤ max 1 (r.satisfying s.snapshot).length := by
  obtain ⟨pages, hwalk, hadvances, hlength⟩ := exists_walk_behind hq hids hmain hprobe
  have hsub : (r.rootsBehind s.snapshot r.cursorId?).length ≤ (r.satisfying s.snapshot).length := by
    rw [rootsBehind, length_sortRows]
    exact List.length_filter_le _ _
  exact ⟨pages, hwalk, hsorts.walk hq hids hmain hprobe hwalk, hadvances, by omega⟩

/-- Where the identifiers descend as the keys ascend, the walk from the first record is over after two
pages. -/
theorem exists_walk_advances_descending :
    ∃ pages, Walk (twoRecords 2 1).aggregate {} onePerPage pages ∧
      (∀ S : Sorter, Walk ((twoRecords 2 1).aggregateWith S) {} onePerPage pages) ∧
      Advances .asc none pages ∧ pages.length ≤ 2 :=
  exists_walk_advances validate_onePerPage (twoRecords 2 1) (identified_twoRecords (by decide))
    (by decide +kernel) (show 0 < ({} : Budgets).main by decide)
    (show 0 < ({} : Budgets).probe by decide)

end Request

end Strata
