import Mathlib.Data.List.Nodup
import Strata.Proofs.RootOrder

/-!
# Walking through the pages

A client asks for a page, and as long as another one follows it asks again with the cursor of the
page before. The pages show *batches* of the root records that match, each batch from the records
behind the last one of the batch before. The walk always ends, since every cursor leaves fewer
records behind it; it shows every record exactly once if and only if every page boundary can be
resumed.
-/

namespace Strata

/-! ## Walks -/

/-- Answers a request that has been read: validates it and gives its page. -/
def Request.serve (read : Reader) (budgets : Budgets) (q : Request) : Except Fault Page := do
  let r ← q.validate
  r.page read budgets

/-- The pages of a request and, as long as another one follows, of the request with the cursor of the
page before. -/
inductive Walk (read : Reader) (budgets : Budgets) : Request → List Page → Prop where
  | last {q : Request} {p : Page} (hserve : q.serve read budgets = .ok p)
      (hlast : p.info.hasNext = false) : Walk read budgets q [p]
  | next {q : Request} {p : Page} {token : String} {pages : List Page}
      (hserve : q.serve read budgets = .ok p) (hnext : p.info.hasNext = true)
      (htoken : p.info.nextCursor = some token)
      (rest : Walk read budgets { q with cursor := some token } pages) :
      Walk read budgets q (p :: pages)

/-- A request has one walk at most. -/
theorem Walk.unique {read : Reader} {budgets : Budgets} {q : Request} {pages pages' : List Page}
    (h : Walk read budgets q pages) (h' : Walk read budgets q pages') : pages = pages' := by
  induction h generalizing pages' with
  | last hserve hlast =>
    cases h' with
    | last hserve' _ => rw [Except.ok.inj (hserve.symm.trans hserve')]
    | next hserve' hnext' _ _ =>
      rw [Except.ok.inj (hserve'.symm.trans hserve), hlast] at hnext'
      exact absurd hnext' Bool.false_ne_true
  | next hserve hnext htoken _ ih =>
    cases h' with
    | last hserve' hlast' =>
      rw [Except.ok.inj (hserve'.symm.trans hserve), hnext] at hlast'
      exact absurd hlast'.symm Bool.false_ne_true
    | next hserve' _ htoken' rest' =>
      have hpage := Except.ok.inj (hserve'.symm.trans hserve)
      rw [hpage, htoken] at htoken'
      rw [hpage, ih (Option.some.inj htoken' ▸ rest')]

/-- A walk of one reader is a walk of another one that gives the same pages to all requests of the
walk. -/
theorem Walk.congr {read read' : Reader} {budgets : Budgets} {P : Request → Prop}
    (hserve : ∀ q, P q → q.serve read budgets = q.serve read' budgets)
    (hnext : ∀ q p token, P q → q.serve read budgets = .ok p → p.info.nextCursor = some token →
      P { q with cursor := some token })
    {q : Request} {pages : List Page} (h : Walk read budgets q pages) (hq : P q) :
    Walk read' budgets q pages := by
  induction h with
  | last hp hlast => exact .last ((hserve _ hq).symm.trans hp) hlast
  | next hp hmore htoken _ ih =>
    exact .next ((hserve _ hq).symm.trans hp) hmore htoken (ih (hnext _ _ _ hq hp htoken))

namespace Request

variable {q r : Request} {records : Records}

/-! ## Batches -/

/-- The batches of root records on the pages behind an identifier. -/
inductive Batches (r : Request) (records : Records) :
    Option ObjectId → List (List Document) → Prop where
  | last {bound : Option ObjectId} (h : (r.rootsBehind records bound).length ≤ r.pageSize) :
      Batches r records bound [r.rootsBehind records bound]
  | next {bound : Option ObjectId} {d : Document} {id : ObjectId} {batches : List (List Document)}
      (h : r.pageSize < (r.rootsBehind records bound).length)
      (hd : (r.rootsBehind records bound)[r.pageSize - 1]? = some d) (hid : rootId? d = some id)
      (rest : Batches r records (some id) batches) :
      Batches r records bound ((r.rootsBehind records bound).take r.pageSize :: batches)

/-- Behind every identifier the batches come to an end. -/
theorem exists_batches (h : Identified (records .poly)) (bound : Option ObjectId) :
    ∃ batches, Batches r records bound batches := by
  induction hn : (r.rootsBehind records bound).length using Nat.strongRecOn generalizing bound with
  | ind n ih =>
    by_cases hle : (r.rootsBehind records bound).length ≤ r.pageSize
    · exact ⟨_, .last hle⟩
    · have hpos := r.pageSize_pos
      have hlt : r.pageSize - 1 < (r.rootsBehind records bound).length := by omega
      have hmem := List.getElem_mem hlt
      obtain ⟨id, hid⟩ := (identified_rootsBehind (r := r) h bound).exists_id hmem
      obtain ⟨batches, hbatches⟩ := ih _ (hn ▸ length_rootsBehind_lt h hmem hid) (some id) rfl
      exact ⟨_, .next (by omega) (List.getElem?_eq_getElem hlt) hid hbatches⟩

/-- All records of the batches behind an identifier lie behind it. -/
theorem mem_rootsBehind_of_mem_batch (h : Identified (records .poly)) {bound : Option ObjectId}
    {batches : List (List Document)} (hbatches : Batches r records bound batches)
    {batch : List Document} (hbatch : batch ∈ batches) {e : Document} (he : e ∈ batch) :
    e ∈ r.rootsBehind records bound := by
  induction hbatches with
  | last _ => rwa [List.mem_singleton.mp hbatch] at he
  | @next bound d id batches _ hd hid _ ih =>
    rcases List.mem_cons.mp hbatch with rfl | hbatch
    · exact List.mem_of_mem_take he
    · obtain ⟨hmem, hbehind⟩ := mem_rootsBehind.mp (ih hbatch)
      obtain ⟨i, hi⟩ := (identified_satisfying h).exists_id hmem
      have hbound := (mem_rootsBehind.mp (List.mem_of_getElem? hd)).2
      exact mem_rootsBehind.mpr ⟨hmem, isBehind_of_isBehind hid hi hbound hbehind⟩

/-! ## Batches and pages -/

/-- The request for the page behind an identifier, if there is one. -/
def resume (q : Request) : Option ObjectId → Request
  | none => q
  | some id => { q with cursor := some (Cursor.encode id.toHex) }

theorem token?_resume_some (q : Request) (id : ObjectId) :
    (q.resume (some id)).token? = some (Cursor.encode id.toHex) := by
  simp only [token?, resume, Cursor.isBlankText_encode, Bool.false_eq_true, if_false,
    Cursor.trim_encode]

theorem cursorStages_resume_some (q : Request) (id : ObjectId) :
    (q.resume (some id)).cursorStages = .ok [.filter (Cursor.beyond q.sort.direction id)] := by
  rw [cursorStages, token?_resume_some]
  simp only [Cursor.continuation_encode_toHex]
  rfl

/-- A valid request stays valid with the cursor of a record. -/
theorem validate_resume (hq : q.validate = .ok r) (bound : Option ObjectId) :
    (q.resume bound).validate = .ok (r.resume bound) := by
  cases bound with
  | none => exact hq
  | some id =>
    obtain ⟨hissues, rfl⟩ := validate_eq_ok_iff.mp hq
    rw [issues_eq, List.append_eq_nil_iff] at hissues
    refine validate_eq_ok_iff.mpr ⟨?_, ?_⟩
    · rw [issues_eq, List.append_eq_nil_iff, cursorIssues_eq_nil_iff]
      exact ⟨hissues.1, _, cursorStages_resume_some q id⟩
    · have htoken := token?_resume_some q id
      simp only [normalize, htoken, Option.isSome_some, if_true]
      rfl

theorem cursorId?_resume_some (r : Request) (id : ObjectId) :
    (r.resume (some id)).cursorId? = some id := by
  rw [cursorId?, token?_resume_some, Option.bind_some, Cursor.decode_encode_toHex,
    Except.toOption, Option.bind_some, id.ofHex?_toHex]

theorem cursorId?_resume (htoken : r.token? = none) (bound : Option ObjectId) :
    (r.resume bound).cursorId? = bound := by
  cases bound with
  | none => rw [resume, cursorId?, htoken, Option.bind_none]
  | some id => exact cursorId?_resume_some r id

/-- The cursor of a request does not matter for the rows of a record. -/
theorem rowsOf_resume (bound : Option ObjectId) (d : Document) :
    (r.resume bound).rowsOf records d = r.rowsOf records d := by
  cases bound with
  | none => rfl
  | some id =>
    have hexpand : ∀ js x, (r.resume (some id)).expand records js x = r.expand records js x := by
      intro js
      induction js with
      | nil => intro x; rfl
      | cons j rest ih =>
        intro x
        have hone : (r.resume (some id)).expandBy records x j = r.expandBy records x j := rfl
        rw [expand, expand, hone, funext ih]
    exact congrArg (List.map r.outputRow) (hexpand r.activeJoins (.ofRoot d))

theorem rootsBehind_resume (r : Request) (records : Records) (bound other : Option ObjectId) :
    (r.resume bound).rootsBehind records other = r.rootsBehind records other := by
  cases bound <;> rfl

theorem matchingRoots_resume (htoken : r.token? = none) (bound : Option ObjectId) :
    (r.resume bound).matchingRoots records = r.rootsBehind records bound := by
  rw [matchingRoots_eq, cursorId?_resume htoken]
  cases bound <;> rfl

theorem pageSize_resume (r : Request) (bound : Option ObjectId) :
    (r.resume bound).pageSize = r.pageSize := by
  cases bound <;> rfl

/-- The page of a valid request shows the first records behind its cursor. -/
theorem exists_serve_of_validate (hq : q.validate = .ok r) {s : Store}
    (hids : Identified (s.snapshot .poly)) {budgets : Budgets} (hmain : 0 < budgets.main)
    (hprobe : 0 < budgets.probe) :
    ∃ p, q.serve s.aggregate budgets = .ok p ∧
      p.rows = ((r.rootsBehind s.snapshot r.cursorId?).take r.pageSize).flatMap
        (r.rowsOf s.snapshot) ∧
      Continues r.pageSize (r.rootsBehind s.snapshot r.cursorId?) p.info := by
  obtain ⟨hr, cursor, hcursor, -⟩ := compile_of_validate hq
  obtain ⟨p, hp, hrows, hinfo⟩ := exists_page hr hcursor hids hmain hprobe
  rw [nestedLoop, matchingRoots_eq] at hrows
  rw [matchingRoots_eq] at hinfo
  refine ⟨p, ?_, hrows, hinfo⟩
  rw [serve, hq]
  exact hp

/-- The page behind an identifier shows the first batch behind it. -/
theorem exists_serve (hq : q.validate = .ok r) (htoken : q.token? = none) {s : Store}
    (hids : Identified (s.snapshot .poly)) {budgets : Budgets} (hmain : 0 < budgets.main)
    (hprobe : 0 < budgets.probe) (bound : Option ObjectId) :
    ∃ p, (q.resume bound).serve s.aggregate budgets = .ok p ∧
      p.rows = ((r.rootsBehind s.snapshot bound).take r.pageSize).flatMap (r.rowsOf s.snapshot) ∧
      Continues r.pageSize (r.rootsBehind s.snapshot bound) p.info := by
  have htoken' : r.token? = none := by
    rw [(validate_eq_ok_iff.mp hq).2, token?_normalize, htoken]
  obtain ⟨p, hserve, hrows, hinfo⟩ :=
    exists_serve_of_validate (validate_resume hq bound) hids hmain hprobe
  rw [cursorId?_resume htoken', rootsBehind_resume, pageSize_resume] at hrows hinfo
  exact ⟨p, hserve, by rw [hrows, funext (rowsOf_resume bound)], hinfo⟩

/-- **Every request has a walk.** Its pages show the rows of the batches. -/
theorem exists_walk_of_batches (hq : q.validate = .ok r) (htoken : q.token? = none) {s : Store}
    (hids : Identified (s.snapshot .poly)) {budgets : Budgets} (hmain : 0 < budgets.main)
    (hprobe : 0 < budgets.probe) {bound : Option ObjectId} {batches : List (List Document)}
    (hbatches : Batches r s.snapshot bound batches) :
    ∃ pages, Walk s.aggregate budgets (q.resume bound) pages ∧
      pages.map (·.rows) = batches.map fun batch => batch.flatMap (r.rowsOf s.snapshot) := by
  induction hbatches with
  | @last bound hle =>
    obtain ⟨p, hserve, hrows, hinfo⟩ := exists_serve hq htoken hids hmain hprobe bound
    rw [List.take_of_length_le hle] at hrows
    have hlast : p.info.hasNext = false := by
      rw [← Bool.not_eq_true, hinfo.hasNext_iff]
      omega
    exact ⟨[p], .last hserve hlast, by simp [hrows]⟩
  | @next bound d id batches hlt hd hid _ ih =>
    obtain ⟨p, hserve, hrows, hinfo⟩ := exists_serve hq htoken hids hmain hprobe bound
    obtain ⟨pages, hwalk, hpages⟩ := ih
    have hresume : { q.resume bound with cursor := some (Cursor.encode id.toHex) }
        = q.resume (some id) := by
      cases bound <;> rfl
    refine ⟨p :: pages, .next hserve (hinfo.hasNext_iff.mpr hlt) (hinfo.nextCursor_eq hlt hd hid)
      (hresume ▸ hwalk), ?_⟩
    rw [List.map_cons, List.map_cons, hrows, hpages]

/-! ## Walks with any sort -/

/-- Requests that sort the same records by the same keys find them in a total order alike. -/
theorem expandsTotally_congr {t : Request} (hkeys : ∀ j, t.joinKeys j = r.joinKeys j)
    (hrelated : ∀ x j, t.related records x j = r.related records x j)
    (hexpand : ∀ x j, t.expandBy records x j = r.expandBy records x j) {js : List Join}
    {x : Expansion} (h : r.ExpandsTotally records js x) : t.ExpandsTotally records js x := by
  induction js generalizing x with
  | nil => trivial
  | cons j rest ih =>
    rw [ExpandsTotally, hkeys, hrelated, hexpand]
    exact ⟨h.1, fun y hy => ih (h.2 y hy)⟩

/-- What is sorted behind one of the records that match is part of what is sorted for a request. -/
theorem SortsTotally.resume (h : r.SortsTotally records) (hids : Identified (records .poly))
    {d : Document} (hd : d ∈ r.matching records) {id : ObjectId} (hid : rootId? d = some id) :
    (r.resume (some id)).SortsTotally records := by
  have hsub : ∀ e ∈ (r.resume (some id)).matching records, e ∈ r.matching records := by
    intro e he
    rw [matching_eq, List.mem_filter] at hd he ⊢
    rw [cursorId?_resume_some] at he
    obtain ⟨i, hi⟩ := (identified_satisfying (r := r) hids).exists_id he.1
    exact ⟨he.1, isBehind_of_isBehind hid hi hd.2 he.2⟩
  refine ⟨h.roots.mono hsub, fun e he => ?_⟩
  exact expandsTotally_congr (r := r) (t := r.resume (some id)) (fun _ => rfl) (fun _ _ => rfl)
    (fun _ _ => rfl) (h.joins e (hsub e he))

/-- Where all that is sorted for a request stands in a total order, its walk does not depend on the
sort. -/
theorem SortsTotally.walk {s : Store} (hsorts : r.SortsTotally s.snapshot) (hq : q.validate = .ok r)
    (hids : Identified (s.snapshot .poly)) {budgets : Budgets} (hmain : 0 < budgets.main)
    (hprobe : 0 < budgets.probe) {pages : List Page} (h : Walk s.aggregate budgets q pages)
    (S : Sorter) : Walk (s.aggregateWith S) budgets q pages := by
  -- the requests of the walk are valid, and what is sorted for them stands in a total order
  refine h.congr (P := fun q => ∃ r, q.validate = .ok r ∧ r.SortsTotally s.snapshot) ?_ ?_
    ⟨r, hq, hsorts⟩
  · rintro q ⟨r, hq, hsorts⟩
    rw [serve, serve, hq]
    exact (page_aggregateWith S hsorts budgets).symm
  · rintro q p token ⟨r, hq, hsorts⟩ hp htoken
    obtain ⟨p', hp', -, hinfo⟩ := exists_serve_of_validate hq hids hmain hprobe
    obtain rfl := Except.ok.inj (hp.symm.trans hp')
    obtain ⟨d, id, hd, hid, rfl⟩ := hinfo.exists_of_nextCursor htoken
    rw [← matchingRoots_eq] at hd
    exact ⟨r.resume (some id), validate_resume hq (some id),
      hsorts.resume hids (mem_sortRows.mp (List.mem_of_getElem? hd)) hid⟩

end Request

/-! ## Showing a record once -/

/-- Exactly one page shows rows of a record, and it shows all of them. -/
def ShownOnce (r : Request) (records : Records) (pages : List Page) (d : Document) : Prop :=
  (pages.map fun p => p.rows.filter fun row => rootId? row == rootId? d).filter (fun rows =>
    !rows.isEmpty) = [r.rowsOf records d]

/-- Whether a record is in a batch, by its identifier. -/
def isIn (d : Document) (batch : List Document) : Bool :=
  batch.any fun e => rootId? e == rootId? d

theorem Identified.eq_of_rootId?_eq {docs : List Document} (h : Identified docs) {d e : Document}
    (hd : d ∈ docs) (he : e ∈ docs) (heq : rootId? d = rootId? e) : d = e :=
  List.inj_on_of_nodup_map h.nodup hd he heq

theorem isIn_iff {docs batch : List Document} (h : Identified docs) (hsub : ∀ e ∈ batch, e ∈ docs)
    {d : Document} (hd : d ∈ docs) : isIn d batch = true ↔ d ∈ batch := by
  rw [isIn, List.any_eq_true]
  constructor
  · rintro ⟨e, he, heq⟩
    rw [beq_iff_eq] at heq
    exact h.eq_of_rootId?_eq (hsub e he) hd heq ▸ he
  · exact fun hmem => ⟨d, hmem, beq_self_eq_true _⟩

/-- A record is in one batch if the batches have different records. -/
theorem countP_isIn_eq_one {docs : List Document} (h : Identified docs) {d : Document} (hd : d ∈ docs)
    {batches : List (List Document)} (hnodup : batches.flatten.Nodup)
    (hsub : ∀ batch ∈ batches, ∀ e ∈ batch, e ∈ docs) (hmem : d ∈ batches.flatten) :
    batches.countP (isIn d) = 1 := by
  induction batches with
  | nil => simp at hmem
  | cons batch rest ih =>
    rw [List.forall_mem_cons] at hsub
    rw [List.flatten_cons, List.nodup_append] at hnodup
    obtain ⟨-, hrest, hdisjoint⟩ := hnodup
    rw [List.flatten_cons, List.mem_append] at hmem
    by_cases hbatch : d ∈ batch
    · have hzero : rest.countP (isIn d) = 0 := by
        rw [List.countP_eq_zero]
        intro other hother hin
        have hdin := (isIn_iff h (hsub.2 other hother) hd).mp hin
        exact hdisjoint d hbatch d (List.mem_flatten.mpr ⟨other, hother, hdin⟩) rfl
      rw [List.countP_cons_of_pos ((isIn_iff h hsub.1 hd).mpr hbatch), hzero]
    · have hnot : ¬ isIn d batch = true := fun hin => hbatch ((isIn_iff h hsub.1 hd).mp hin)
      rw [List.countP_cons_of_neg hnot, ih hrest hsub.2 (hmem.resolve_left hbatch)]

/-- The rows of a record stand on as many pages as the record is in batches. -/
theorem filter_map_isIn {rows : List Document} (hne : rows ≠ []) {d : Document}
    (batches : List (List Document)) :
    (batches.map fun batch => if isIn d batch then rows else []).filter (!·.isEmpty)
      = List.replicate (batches.countP (isIn d)) rows := by
  induction batches with
  | nil => rfl
  | cons batch rest ih =>
    rw [List.map_cons]
    by_cases hin : isIn d batch = true
    · rw [if_pos hin, List.filter_cons_of_pos (by simpa using hne), ih,
        List.countP_cons_of_pos hin, List.replicate_succ]
    · rw [if_neg hin, List.filter_cons_of_neg (by simp), ih, List.countP_cons_of_neg hin]

section Rows

variable {rowsOf : Document → List Document} {docs : List Document} {d : Document}

/-- The rows of a record among those of a batch are all its rows, if it is in the batch. -/
theorem filter_flatMap_rowsOf (h : Identified docs) (hd : d ∈ docs)
    (hid : ∀ e ∈ docs, ∀ row ∈ rowsOf e, rootId? row = rootId? e) {batch : List Document}
    (hnodup : batch.Nodup) (hsub : ∀ e ∈ batch, e ∈ docs) :
    (batch.flatMap rowsOf).filter (fun row => rootId? row == rootId? d)
      = if isIn d batch then rowsOf d else [] := by
  induction batch with
  | nil => rfl
  | cons e rest ih =>
    rw [List.forall_mem_cons] at hsub
    rw [List.nodup_cons] at hnodup
    rw [List.flatMap_cons, List.filter_append, ih hnodup.2 hsub.2]
    by_cases hed : e = d
    · subst hed
      have hown : (rowsOf e).filter (fun row => rootId? row == rootId? e) = rowsOf e :=
        List.filter_eq_self.mpr fun row hrow => by simp [hid e hd row hrow]
      have hrest : ¬ isIn e rest = true := fun hin => hnodup.1 ((isIn_iff h hsub.2 hd).mp hin)
      have hhead : isIn e (e :: rest) = true := by simp [isIn]
      rw [hown, if_neg hrest, if_pos hhead, List.append_nil]
    · have hne : rootId? e ≠ rootId? d := fun heq => hed (h.eq_of_rootId?_eq hsub.1 hd heq)
      have hother : (rowsOf e).filter (fun row => rootId? row == rootId? d) = [] :=
        List.filter_eq_nil_iff.mpr fun row hrow => by simpa [hid e hsub.1 row hrow] using hne
      have hhead : isIn d (e :: rest) = isIn d rest := by simp [isIn, hne]
      rw [hother, hhead, List.nil_append]

end Rows

namespace Request

variable {r : Request} {records : Records}

theorem nodup_of_mem_batches (h : Identified (records .poly)) {bound : Option ObjectId}
    {batches : List (List Document)} (hbatches : Batches r records bound batches)
    {batch : List Document} (hbatch : batch ∈ batches) : batch.Nodup := by
  have hroots : ∀ b, (r.rootsBehind records b).Nodup := fun b =>
    (identified_rootsBehind h b).nodup.of_map
  induction hbatches with
  | last _ => rw [List.mem_singleton.mp hbatch]; exact hroots _
  | next _ _ _ _ ih =>
    rcases List.mem_cons.mp hbatch with rfl | hbatch
    · exact (hroots _).sublist (List.take_sublist _ _)
    · exact ih hbatch

/-- Pages that show batches show a record once if and only if it is in one batch. -/
theorem shownOnce_iff (hr : r.Admissible) (h : Identified (records .poly))
    {batches : List (List Document)} (hbatches : Batches r records none batches) {pages : List Page}
    (hpages : pages.map (·.rows) = batches.map fun batch => batch.flatMap (r.rowsOf records))
    {d : Document} (hd : d ∈ r.rootsBehind records none) :
    ShownOnce r records pages d ↔ batches.countP (isIn d) = 1 := by
  have hroots := identified_rootsBehind (r := r) h none
  have hrows : pages.map (fun p => p.rows.filter fun row => rootId? row == rootId? d)
      = batches.map fun batch => if isIn d batch then r.rowsOf records d else [] := by
    have hmap : pages.map (fun p => p.rows.filter fun row => rootId? row == rootId? d)
        = (pages.map (·.rows)).map fun rows => rows.filter fun row => rootId? row == rootId? d := by
      rw [List.map_map]
      rfl
    rw [hmap, hpages, List.map_map]
    refine List.map_congr_left fun batch hbatch => ?_
    exact filter_flatMap_rowsOf hroots hd (fun _ _ _ hrow => rootId?_of_mem_rowsOf hr hrow)
      (nodup_of_mem_batches h hbatches hbatch)
      fun e he => mem_rootsBehind_of_mem_batch h hbatches hbatch he
  rw [ShownOnce, hrows, filter_map_isIn (rowsOf_ne_nil d)]
  constructor
  · intro heq
    simpa using congrArg List.length heq
  · intro heq
    rw [heq]
    rfl

/-- The walk of a request without a cursor, with the batches that its pages show. -/
theorem exists_walk_shownOnce_iff (hq : q.validate = .ok r) (htoken : q.token? = none) {s : Store}
    (hids : Identified (s.snapshot .poly)) {budgets : Budgets} (hmain : 0 < budgets.main)
    (hprobe : 0 < budgets.probe) :
    ∃ pages batches, Walk s.aggregate budgets q pages ∧ Batches r s.snapshot none batches ∧
      ∀ d ∈ r.rootsBehind s.snapshot none,
        ShownOnce r s.snapshot pages d ↔ batches.countP (isIn d) = 1 := by
  obtain ⟨hr, -⟩ := compile_of_validate hq
  obtain ⟨batches, hbatches⟩ := exists_batches (r := r) hids none
  obtain ⟨pages, hwalk, hpages⟩ := exists_walk_of_batches hq htoken hids hmain hprobe hbatches
  exact ⟨pages, batches, hwalk, hbatches, fun _ hd => shownOnce_iff hr hids hbatches hpages hd⟩

/-! ## Boundaries -/

/-- The records before the `k`-th boundary end with the record whose cursor leads behind it. -/
theorem getElem?_boundary {bound : Option ObjectId} {k : Nat}
    (hbound : r.rootsBehind records bound = (r.rootsBehind records none).drop (k * r.pageSize))
    {d : Document} (hd : (r.rootsBehind records bound)[r.pageSize - 1]? = some d) {id : ObjectId}
    (hid : rootId? d = some id) :
    (r.rootsBehind records none)[(k + 1) * r.pageSize - 1]?.bind rootId? = some id := by
  have hpos := r.pageSize_pos
  have hstep : (k + 1) * r.pageSize = k * r.pageSize + r.pageSize := Nat.succ_mul _ _
  have hindex : (k + 1) * r.pageSize - 1 = k * r.pageSize + (r.pageSize - 1) := by omega
  rw [hindex, ← List.getElem?_drop, ← hbound, hd, Option.bind_some, hid]

/-- If all further boundaries can be resumed, the batches are the records that are left. -/
theorem flatten_batches (h : Identified (records .poly)) {bound : Option ObjectId}
    {batches : List (List Document)} (hbatches : Batches r records bound batches) {k : Nat}
    (hbound : r.rootsBehind records bound = (r.rootsBehind records none).drop (k * r.pageSize))
    (hresumable : ∀ m, k < m → m * r.pageSize < (r.rootsBehind records none).length →
      ResumableAt r.sort.direction (r.rootsBehind records none) (m * r.pageSize)) :
    batches.flatten = (r.rootsBehind records none).drop (k * r.pageSize) := by
  induction hbatches generalizing k with
  | last _ => simpa using hbound
  | @next bound d id batches hlt hd hid _ ih =>
    have hstep : (k + 1) * r.pageSize = k * r.pageSize + r.pageSize := Nat.succ_mul _ _
    rw [hbound, List.length_drop] at hlt
    -- what the cursor leaves is what stands behind the boundary, so the next batch begins there
    have hnext := rootsBehind_eq_drop h (getElem?_boundary hbound hd hid)
      (hresumable (k + 1) (by omega) (by omega))
    rw [List.flatten_cons, ih hnext fun m hm => hresumable m (by omega), hbound, hstep,
      ← List.drop_drop, List.take_append_drop]

/-- Where every boundary can be resumed, every record is in one batch. -/
theorem countP_isIn_of_resumable (h : Identified (records .poly)) {batches : List (List Document)}
    (hbatches : Batches r records none batches) (hresumable : r.Resumable (r.rootsBehind records none))
    {d : Document} (hd : d ∈ r.rootsBehind records none) : batches.countP (isIn d) = 1 := by
  have hflatten := flatten_batches (k := 0) h hbatches (by simp) hresumable
  rw [Nat.zero_mul, List.drop_zero] at hflatten
  have hroots := identified_rootsBehind (r := r) h none
  refine countP_isIn_eq_one hroots hd ?_ (fun batch hbatch e he => ?_) (hflatten ▸ hd)
  · rw [hflatten]
    exact hroots.nodup.of_map
  · exact mem_rootsBehind_of_mem_batch h hbatches hbatch he

/-- The first record behind an identifier is in a batch. -/
theorem exists_batch_of_head? {bound : Option ObjectId} {batches : List (List Document)}
    (hbatches : Batches r records bound batches) {d : Document}
    (hd : (r.rootsBehind records bound).head? = some d) : ∃ batch ∈ batches, d ∈ batch := by
  cases hbatches with
  | last _ => exact ⟨_, List.mem_singleton_self _, List.mem_of_mem_head? hd⟩
  | next _ _ _ _ =>
    refine ⟨_, List.mem_cons_self, List.mem_of_mem_head? (l := List.take _ _) ?_⟩
    rw [List.head?_take, if_neg (Nat.ne_of_gt r.pageSize_pos)]
    exact hd

/-- From the `k`-th boundary on, the batches have the records behind it once and no others. -/
structure Leaves (r : Request) (records : Records) (k : Nat) (batches : List (List Document)) :
    Prop where
  behind : ∀ d ∈ (r.rootsBehind records none).drop (k * r.pageSize), batches.countP (isIn d) = 1
  before : ∀ d ∈ (r.rootsBehind records none).take (k * r.pageSize), batches.countP (isIn d) = 0

/-- Without the batch that begins at a boundary, the batches leave the records behind the next one. -/
theorem Leaves.tail (h : Identified (records .poly)) {bound : Option ObjectId} {k : Nat}
    (hbound : r.rootsBehind records bound = (r.rootsBehind records none).drop (k * r.pageSize))
    {batches : List (List Document)}
    (hleaves : Leaves r records k ((r.rootsBehind records bound).take r.pageSize :: batches)) :
    Leaves r records (k + 1) batches := by
  have hroots := identified_rootsBehind (r := r) h none
  have hstep : (k + 1) * r.pageSize = k * r.pageSize + r.pageSize := Nat.succ_mul _ _
  have hnodup : ((r.rootsBehind records none).drop (k * r.pageSize)).Nodup :=
    hroots.nodup.of_map.sublist (List.drop_sublist _ _)
  have hin : ∀ e ∈ (r.rootsBehind records none).drop (k * r.pageSize),
      isIn e ((r.rootsBehind records bound).take r.pageSize) = true ↔
        e ∈ ((r.rootsBehind records none).drop (k * r.pageSize)).take r.pageSize := by
    intro e he
    rw [← hbound]
    exact isIn_iff hroots (fun e' he' => List.mem_of_mem_drop (hbound ▸ List.mem_of_mem_take he'))
      (List.mem_of_mem_drop he)
  constructor
  · intro e he
    rw [hstep, ← List.drop_drop] at he
    have hmem := List.mem_of_mem_drop he
    have hnot : ¬ isIn e ((r.rootsBehind records bound).take r.pageSize) = true := by
      rw [hin e hmem]
      exact fun htake => List.disjoint_take_drop hnodup (Nat.le_refl _) htake he
    rw [← hleaves.behind e hmem, List.countP_cons_of_neg hnot]
  · intro e he
    rw [hstep, List.take_add, List.mem_append] at he
    rcases he with he | he
    · have hzero := hleaves.before e he
      rw [List.countP_cons] at hzero
      omega
    · -- the batch has the record already, and it is in one of all
      have hone := hleaves.behind e (List.mem_of_mem_take he)
      rw [List.countP_cons_of_pos ((hin e (List.mem_of_mem_take he)).mpr he)] at hone
      omega

/-- A boundary can be resumed if behind it the records not yet shown, and no others, are shown. -/
theorem resumableAt_of_leaves (h : Identified (records .poly))
    (htotal : TotallyOrdered r.rootKeys (r.satisfying records))
    {id : ObjectId} {k : Nat}
    (hid : (r.rootsBehind records none)[k * r.pageSize - 1]?.bind rootId? = some id)
    {batches : List (List Document)} (hbatches : Batches r records (some id) batches)
    (hleaves : Leaves r records k batches) :
    ResumableAt r.sort.direction (r.rootsBehind records none) (k * r.pageSize) := by
  intro id' hid'
  rw [Option.some.inj (hid'.symm.trans hid)]
  refine ⟨fun d hd i hi hbefore => ?_, fun d hd i hi => ?_⟩
  · -- the first record in the order of the sort that is behind the identifier is shown again
    have hbehind : r.isBehind (some id) d = true := (isBeyond_iff hi).mpr hbefore
    have hne : ((r.rootsBehind records none).take (k * r.pageSize)).filter (r.isBehind (some id))
        ≠ [] :=
      List.ne_nil_of_mem (List.mem_filter.mpr ⟨hd, hbehind⟩)
    obtain ⟨e, rest, hcons⟩ := List.exists_cons_of_ne_nil hne
    have hfirst : (r.rootsBehind records (some id)).head? = some e := by
      rw [rootsBehind_eq_filter htotal,
        ← List.take_append_drop (k * r.pageSize) (r.rootsBehind records none), List.filter_append,
        hcons]
      rfl
    have he : e ∈ (r.rootsBehind records none).take (k * r.pageSize) :=
      (List.mem_filter.mp (hcons ▸ List.mem_cons_self)).1
    obtain ⟨batch, hbatch, hmem⟩ := exists_batch_of_head? hbatches hfirst
    have hin : isIn e batch = true := List.any_eq_true.mpr ⟨e, hmem, beq_self_eq_true _⟩
    exact List.countP_eq_zero.mp (hleaves.before e he) batch hbatch hin
  · -- a record behind the boundary is in some batch, and all of a batch lies behind the identifier
    have hpos : 0 < batches.countP (isIn d) := by rw [hleaves.behind d hd]; decide
    obtain ⟨batch, hbatch, hin⟩ := List.countP_pos_iff.mp hpos
    obtain ⟨e, he, heq⟩ := List.any_eq_true.mp hin
    rw [beq_iff_eq] at heq
    have hbehind := (mem_rootsBehind.mp (mem_rootsBehind_of_mem_batch h hbatches hbatch he)).2
    rw [isBehind, Option.all_some, isBeyond_iff (heq.trans hi)] at hbehind
    exact hbehind

/-- If behind an identifier the records not yet shown, and no others, are shown once, then all further
boundaries can be resumed. -/
theorem resumableAt_of_batches (h : Identified (records .poly))
    (htotal : TotallyOrdered r.rootKeys (r.satisfying records))
    {bound : Option ObjectId} {batches : List (List Document)}
    (hbatches : Batches r records bound batches) {k : Nat}
    (hbound : r.rootsBehind records bound = (r.rootsBehind records none).drop (k * r.pageSize))
    (hleaves : Leaves r records k batches) {m : Nat} (hm : k < m)
    (hlt : m * r.pageSize < (r.rootsBehind records none).length) :
    ResumableAt r.sort.direction (r.rootsBehind records none) (m * r.pageSize) := by
  induction hbatches generalizing k with
  | last hle =>
    -- all records are shown, so there is no further boundary
    rw [hbound, List.length_drop] at hle
    have hmul : (k + 1) * r.pageSize ≤ m * r.pageSize := Nat.mul_le_mul_right _ hm
    rw [Nat.succ_mul] at hmul
    omega
  | @next bound d id batches _ hd hid hrest ih =>
    have hlast := getElem?_boundary hbound hd hid
    have hleaves' := hleaves.tail h hbound
    have hnext := resumableAt_of_leaves h htotal hlast hrest hleaves'
    rcases Nat.lt_or_ge (k + 1) m with hlater | hhere
    · exact ih (rootsBehind_eq_drop h hlast hnext) hleaves' hlater
    · rwa [Nat.le_antisymm hhere hm]

/-- **When a walk shows every record once.** Every valid request without a cursor, for which all that is
sorted stands in a total order, has a walk, which is the same however rows are sorted. It shows every
record that matches once if and only if all its pages but the last can be resumed. -/
theorem exists_walk {q : Request} (hq : q.validate = .ok r) (htoken : q.token? = none) (s : Store)
    (hids : Identified (s.snapshot .poly)) (hsorts : r.SortsTotally s.snapshot) {budgets : Budgets}
    (hmain : 0 < budgets.main) (hprobe : 0 < budgets.probe) :
    ∃ pages, Walk s.aggregate budgets q pages ∧
      (∀ S : Sorter, Walk (s.aggregateWith S) budgets q pages) ∧
      ((∀ d ∈ r.matchingRoots s.snapshot, ShownOnce r s.snapshot pages d) ↔
        r.Resumable (r.matchingRoots s.snapshot)) := by
  have htoken' : r.token? = none := by
    rw [(validate_eq_ok_iff.mp hq).2, token?_normalize, htoken]
  have hroots : r.matchingRoots s.snapshot = r.rootsBehind s.snapshot none :=
    matchingRoots_resume htoken' none
  obtain ⟨pages, batches, hwalk, hbatches, hshown⟩ :=
    exists_walk_shownOnce_iff hq htoken hids hmain hprobe
  rw [hroots]
  refine ⟨pages, hwalk, hsorts.walk hq hids hmain hprobe hwalk, fun honce m hm hlt => ?_,
    fun hresumable d hd => ?_⟩
  · have htotal : TotallyOrdered r.rootKeys (r.satisfying s.snapshot) :=
      matching_of_token? htoken' ▸ hsorts.roots
    have hleaves : Leaves r s.snapshot 0 batches := by
      refine ⟨fun d hd => ?_, fun d hd => by simp at hd⟩
      rw [Nat.zero_mul, List.drop_zero] at hd
      exact (hshown d hd).mp (honce d hd)
    exact resumableAt_of_batches hids htotal hbatches (k := 0) (by simp) hleaves hm hlt
  · exact (hshown d hd).mpr (countP_isIn_of_resumable hids hbatches hresumable hd)

/-! ### Two records, one on a page -/

/-- A root record with an identifier and a root key. -/
def rootRecord (id : Nat) (key : Int32) : Document :=
  [(idField, .objectId (.ofNat id)), (rootKey, .int32 key)]

/-- A store of two root records with the keys 1 and 2. -/
def twoRecords (first second : Nat) : Store :=
  ⟨⟨[rootRecord first 1, rootRecord second 2], [], [], [], []⟩, 0⟩

/-- The request for all records, one on a page. -/
def onePerPage : Request := { paging := { poly := 1 } }

theorem validate_onePerPage : onePerPage.validate = .ok onePerPage.normalize := rfl

theorem identified_twoRecords {first second : Nat}
    (h : ObjectId.ofNat first ≠ ObjectId.ofNat second) :
    Identified ((twoRecords first second).snapshot .poly) := by
  refine ⟨fun d hd => ?_, ?_⟩
  · simp only [twoRecords, Store.snapshot, PerLevel.get, List.mem_cons, List.not_mem_nil,
      or_false] at hd
    rcases hd with rfl | rfl <;> rfl
  · simpa [twoRecords, Store.snapshot, PerLevel.get, rootRecord, rootId?, Document.get?] using h

theorem matchingRoots_twoRecords (first second : Nat) :
    onePerPage.normalize.matchingRoots (twoRecords first second).snapshot
      = [rootRecord first 1, rootRecord second 2] := by
  rfl

/-- Where the identifiers ascend with the keys, both records are shown once. -/
theorem exists_walk_ascending :
    ∃ pages, Walk (twoRecords 1 2).aggregate {} onePerPage pages ∧
      ∀ d ∈ [rootRecord 1 1, rootRecord 2 2],
        ShownOnce onePerPage.normalize (twoRecords 1 2).snapshot pages d := by
  obtain ⟨pages, hwalk, -, honce⟩ := exists_walk validate_onePerPage rfl (twoRecords 1 2)
    (identified_twoRecords (by decide)) (by decide +kernel)
    (show 0 < ({} : Budgets).main by decide) (show 0 < ({} : Budgets).probe by decide)
  rw [matchingRoots_twoRecords] at honce
  refine ⟨pages, hwalk, honce.mpr fun m hm hlt => ?_⟩
  have hsize : onePerPage.normalize.pageSize = 1 := rfl
  rw [hsize, List.length_cons, List.length_cons, List.length_nil] at hlt
  obtain rfl : m = 1 := by omega
  intro id hid
  obtain rfl : ObjectId.ofNat 1 = id := Option.some.inj hid
  refine ⟨fun d hd i hi => ?_, fun d hd i hi => ?_⟩
  · obtain rfl : d = rootRecord 1 1 := List.mem_singleton.mp hd
    obtain rfl : ObjectId.ofNat 1 = i := Option.some.inj hi
    decide
  · obtain rfl : d = rootRecord 2 2 := List.mem_singleton.mp hd
    obtain rfl : ObjectId.ofNat 2 = i := Option.some.inj hi
    decide

/-- Where the identifiers descend as the keys ascend, the second record is on no page: the cursor
behind the first record leaves only greater identifiers. -/
theorem not_shownOnce_descending :
    onePerPage.validate = .ok onePerPage.normalize ∧ onePerPage.token? = none ∧
    Identified ((twoRecords 2 1).snapshot .poly) ∧
    rootRecord 1 2 ∈ onePerPage.normalize.matchingRoots (twoRecords 2 1).snapshot ∧
    ∀ pages, Walk (twoRecords 2 1).aggregate {} onePerPage pages →
      ¬ ShownOnce onePerPage.normalize (twoRecords 2 1).snapshot pages (rootRecord 1 2) := by
  have hids : Identified ((twoRecords 2 1).snapshot .poly) := identified_twoRecords (by decide)
  refine ⟨rfl, rfl, hids, by rw [matchingRoots_twoRecords]; simp, fun pages hwalk honce => ?_⟩
  have hbatches : Batches onePerPage.normalize (twoRecords 2 1).snapshot none
      [[rootRecord 2 1], []] :=
    .next (by decide) rfl rfl (.last (by decide))
  obtain ⟨pages', hwalk', hpages⟩ :=
    exists_walk_of_batches validate_onePerPage rfl hids (show 0 < ({} : Budgets).main by decide)
      (show 0 < ({} : Budgets).probe by decide) hbatches
  rw [hwalk.unique hwalk'] at honce
  obtain ⟨hr, -⟩ := compile_of_validate validate_onePerPage
  have hcount := (shownOnce_iff hr hids hbatches hpages (.tail _ (.head _))).mp honce
  revert hcount
  decide

end Request

end Strata
