import Strata.Proofs.Lossless
import Strata.Proofs.Transitivity
import Strata.Proofs.Visibility

/-!
# Insertion order

The records of a level are sorted by a key and, where they are tied by it, by their identifiers. As
identifiers are different, such a sort has one result only, in whatever order the records have been
inserted, provided that the values under the key are ordered transitively; a missing value does not
spoil this. Going through the levels reads no collection but by sorting some of its records. So the
order of insertion does not show in a page: not in its rows, not in what its limits cut off, and not
in its cursor. Nor does it show how the records have been sorted.
-/

namespace Strata

/-! ## Missing values -/

namespace Value

/-- Null does not hide an order, and no order of it is hidden. -/
theorem Blurs.ne_null {a b c : Value} (h : Blurs b a c) : a ≠ null ∧ b ≠ null ∧ c ≠ null := by
  cases h with
  | symbol name hst => exact ⟨nofun, nofun, nofun⟩
  | decimal d ha hc hne =>
    refine ⟨?_, nofun, ?_⟩
    · rintro rfl
      cases ha
    · rintro rfl
      cases hc
  | rounding ha hc hne hround =>
    refine ⟨?_, nofun, ?_⟩
    · rintro rfl
      cases ha
    · rintro rfl
      cases hc

theorem TransitiveOn.cons_null {vs : List Value} (h : TransitiveOn vs) :
    TransitiveOn (null :: vs) := by
  rw [transitiveOn_iff] at h ⊢
  intro a ha b hb c hc hblurs
  obtain ⟨hanull, hbnull, hcnull⟩ := hblurs.ne_null
  exact h a ((List.mem_cons.mp ha).resolve_left hanull) b ((List.mem_cons.mp hb).resolve_left hbnull)
    c ((List.mem_cons.mp hc).resolve_left hcnull) hblurs

end Value

/-- The values stored in a field of records. -/
def storedValues (field : String) (docs : List Document) : List Value :=
  docs.filterMap fun d => d.get? field

/-- The values that records are sorted by are ordered transitively if those are that are stored. -/
theorem SortKey.transitiveOn_value {k : SortKey} (hfield : IsSegment k.field) {docs : List Document}
    (h : Value.TransitiveOn (storedValues k.field docs)) :
    Value.TransitiveOn (docs.map k.value) := by
  refine h.cons_null.mono fun v hv => ?_
  obtain ⟨d, hd, rfl⟩ := List.mem_map.mp hv
  rw [value, Document.getPath?_of_isSegment hfield]
  cases hget : d.get? k.field with
  | none => exact List.mem_cons_self
  | some v => exact .tail _ (List.mem_filterMap.mpr ⟨d, hd, hget⟩)

/-! ## Sorting records in another order -/

/-- No two identifiers are tied. -/
theorem eq_of_compareRows_ne_gt {s : SortKey} {direction : Direction} {d e : Document}
    {i j : ObjectId} (hi : rootId? d = some i) (hj : rootId? e = some j)
    (hde : compareRows [s, ⟨idField, direction⟩] d e ≠ .gt)
    (hed : compareRows [s, ⟨idField, direction⟩] e d ≠ .gt) : i = j := by
  have heq : compareRows [s, ⟨idField, direction⟩] d e = .eq := by
    rw [compareRows_swap _ d e] at hed
    cases hcompare : compareRows [s, ⟨idField, direction⟩] d e with
    | lt => rw [hcompare] at hed; exact absurd rfl hed
    | eq => rfl
    | gt => exact absurd hcompare hde
  rw [compareRows_cons, Ordering.then_eq_eq] at heq
  -- different identifiers lie one before the other, and then the rows are not tied
  by_contra hne
  have hbefore : direction.Before i j := by
    refine Direction.before_of_ne hne fun hbefore => ?_
    rw [(compareRows_idField_eq_gt_iff hi hj).mpr hbefore] at heq
    cases heq.2
  have hgt := (compareRows_idField_eq_gt_iff hj hi).mpr hbefore
  rw [compareRows_swap _ d e, heq.2] at hgt
  cases hgt

/-- Two lists of the same records with different identifiers, whose values by a sort are ordered
transitively. -/
structure Reordered (s : SortKey) (docs docs' : List Document) : Prop where
  perm : docs.Perm docs'
  identified : Identified docs
  transitive : Value.TransitiveOn (docs.map s.value)

namespace Reordered

variable {s : SortKey} {docs docs' : List Document}

theorem symm (h : Reordered s docs docs') : Reordered s docs' docs :=
  ⟨h.perm.symm, h.identified.perm h.perm.symm,
    h.transitive.mono fun _ hv => (h.perm.map s.value).mem_iff.mpr hv⟩

theorem filter (h : Reordered s docs docs') (p : Document → Bool) :
    Reordered s (docs.filter p) (docs'.filter p) :=
  ⟨h.perm.filter p, h.identified.sublist List.filter_sublist,
    h.transitive.mono fun _ hv => (List.filter_sublist.map s.value).subset hv⟩

/-- **One sort.** Sorting has the same result, because no two records are tied. -/
theorem sortRows_eq (h : Reordered s docs docs') :
    sortRows [s, ⟨idField, s.direction⟩] docs = sortRows [s, ⟨idField, s.direction⟩] docs' := by
  have hperm : (sortRows [s, ⟨idField, s.direction⟩] docs).Perm
      (sortRows [s, ⟨idField, s.direction⟩] docs') :=
    (sortRows_perm _ docs).trans (h.perm.trans (sortRows_perm _ docs').symm)
  -- two sorted lists of the same records can differ in tied records only
  refine hperm.eq_of_pairwise (fun d e hd he hde hed => ?_)
    (pairwise_sortRows (h.identified.totallyOrdered h.transitive))
    (pairwise_sortRows (h.symm.identified.totallyOrdered h.symm.transitive))
  have hd : d ∈ docs := mem_sortRows.mp hd
  have he : e ∈ docs := h.perm.mem_iff.mpr (mem_sortRows.mp he)
  obtain ⟨i, hi⟩ := h.identified.exists_id hd
  obtain ⟨j, hj⟩ := h.identified.exists_id he
  obtain rfl := eq_of_compareRows_ne_gt hi hj hde hed
  exact h.identified.eq_of_rootId?_eq hd he (hi.trans hj.symm)

end Reordered

/-! ## Going through the levels in another order -/

/-- A pipeline reads the same from two stores within every budget if it makes the same rows of both. -/
theorem aggregate_congr {records records' : Records} {stages : List Stage} {run run' : Transform}
    (hrun : pipelineTransform records stages = .ok run)
    (hrun' : pipelineTransform records' stages = .ok run') {level : Level}
    (hrows : run [] (records level) = run' [] (records' level)) (budget : Nat) :
    aggregate records level stages budget = aggregate records' level stages budget := by
  rw [aggregate, aggregate, hrun, hrun']
  simp only [hrows]

namespace Request

variable {q r : Request} {records records' : Records}

/-- The sort of a level. -/
def sortAt (r : Request) (l : Level) : SortKey :=
  match l.join? with
  | none => r.sort
  | some j => r.joinSortOf j

theorem sortAt_level (r : Request) (j : Join) : r.sortAt j.level = r.joinSortOf j := by
  cases j <;> rfl

theorem isSegment_sortAt (hr : r.Admissible) (l : Level) : IsSegment (r.sortAt l).field := by
  rcases l.eq_poly_or_level with rfl | ⟨j, rfl⟩
  · exact Level.isSegment_of_mem_columns (Level.mem_columns_of_mem_sortable hr.sort)
  · rw [sortAt_level]
    exact Level.isSegment_of_mem_columns (Join.mem_columns_of_mem_sortFields (hr.join_sort j))

section Levels

variable (h : ∀ l ∈ r.levels, Reordered (r.sortAt l) (records l) (records' l))
include h

theorem matchingRoots_eq_of_reordered : r.matchingRoots records = r.matchingRoots records' := by
  rw [matchingRoots, matchingRoots, rootKeys, matching, matching]
  exact ((h .poly List.mem_cons_self).filter _).sortRows_eq

theorem children_eq_of_reordered {j : Join} (hj : j ∈ r.activeJoins) (x : Expansion) :
    r.children records x j = r.children records' x j := by
  have hlevel := h j.level (.tail _ (List.mem_map_of_mem hj))
  rw [sortAt_level] at hlevel
  simp only [children, related, joinKeys, (hlevel.filter _).sortRows_eq]

theorem expand_eq_of_reordered {js : List Join} (hjs : ∀ j ∈ js, j ∈ r.activeJoins) (x : Expansion) :
    r.expand records js x = r.expand records' js x := by
  induction js generalizing x with
  | nil => rfl
  | cons j rest ih =>
    rw [List.forall_mem_cons] at hjs
    have hone : r.expandBy records x j = r.expandBy records' x j := by
      simp only [expandBy, children_eq_of_reordered h hjs.1]
    rw [expand, expand, hone, funext (ih hjs.2)]

/-- Going through the levels gives the same rows. -/
theorem nestedLoop_eq_of_reordered (n : Nat) : r.nestedLoop records n = r.nestedLoop records' n := by
  have hrows : r.rowsOf records = r.rowsOf records' := by
    funext d
    rw [rowsOf, rowsOf, expand_eq_of_reordered h fun _ hj => hj]
  rw [nestedLoop, nestedLoop, matchingRoots_eq_of_reordered h, hrows]

end Levels

/-! ## Pages -/

/-- The page is put together from the same two reads. -/
theorem page_eq_of_reordered {s s' : Store}
    (h : ∀ l ∈ r.levels, Reordered (r.sortAt l) (s.snapshot l) (s'.snapshot l)) (budgets : Budgets) :
    r.page s.aggregate budgets = r.page s'.aggregate budgets := by
  refine page_congr fun q hq => ?_
  obtain ⟨hr, cursor, hcursor, rfl⟩ := compile_eq_ok_iff.mp hq
  constructor
  · obtain ⟨run, hrun, hrows⟩ := exists_transform_pipelineFrom s.snapshot hr hcursor (r.pageSize + 1)
    obtain ⟨run', hrun', hrows'⟩ :=
      exists_transform_pipelineFrom s'.snapshot hr hcursor (r.pageSize + 1)
    refine aggregate_congr hrun hrun' ?_ budgets.main
    rw [hrows, hrows', nestedLoop_eq_of_reordered h]
  · rw [probeStages_pipelineFrom hcursor]
    obtain ⟨run, hrun, hrows⟩ := exists_transform_rootStages s.snapshot hr hcursor (r.pageSize + 1)
    obtain ⟨run', hrun', hrows'⟩ :=
      exists_transform_rootStages s'.snapshot hr hcursor (r.pageSize + 1)
    refine aggregate_congr hrun hrun' ?_ budgets.probe
    rw [hrows, hrows', matchingRoots_eq_of_reordered h]

/-- **The order of insertion does not show.** Two stores hold the same records on every level that takes
part in a valid request, in different orders. If the identifiers on each of these levels are different
and the values stored under its sort are ordered transitively, then both stores give the same page,
with the same rows, columns and cursor. -/
theorem serve_eq_of_perm (hq : q.validate = .ok r) {s s' : Store}
    (hperm : ∀ l ∈ r.levels, (s.snapshot l).Perm (s'.snapshot l))
    (hids : ∀ l ∈ r.levels, Identified (s.snapshot l))
    (htrans : ∀ l ∈ r.levels,
      Value.TransitiveOn (storedValues (r.sortAt l).field (s.snapshot l))) (budgets : Budgets) :
    q.serve s.aggregate budgets = q.serve s'.aggregate budgets ∧
      (0 < budgets.main → 0 < budgets.probe → ∃ p, q.serve s.aggregate budgets = .ok p) := by
  obtain ⟨hr, -⟩ := compile_of_validate hq
  have hreordered : ∀ l ∈ r.levels, Reordered (r.sortAt l) (s.snapshot l) (s'.snapshot l) :=
    fun l hl => ⟨hperm l hl, hids l hl,
      SortKey.transitiveOn_value (isSegment_sortAt hr l) (htrans l hl)⟩
  constructor
  · rw [serve, serve, hq]
    exact page_eq_of_reordered hreordered budgets
  · intro hmain hprobe
    obtain ⟨p, hp, -⟩ := exists_serve_of_validate hq (hids .poly List.mem_cons_self) hmain hprobe
    exact ⟨p, hp⟩

section Sorts

variable (hids : ∀ l ∈ r.levels, Identified (records l))
  (htrans : ∀ l ∈ r.levels, Value.TransitiveOn (storedValues (r.sortAt l).field (records l)))
include hids htrans

/-- The records of a level stand in a total order by its sort. -/
theorem totallyOrdered_of_mem_levels (hr : r.Admissible) {l : Level} (hl : l ∈ r.levels) :
    TotallyOrdered [r.sortAt l, ⟨idField, (r.sortAt l).direction⟩] (records l) :=
  (hids l hl).totallyOrdered (SortKey.transitiveOn_value (isSegment_sortAt hr l) (htrans l hl))

/-- All that is sorted for a request stands in a total order if the identifiers on each level that takes
part are different and the values stored under its sort are ordered transitively. -/
theorem sortsTotally_of_levels (hr : r.Admissible) : r.SortsTotally records := by
  have hjoins : ∀ {js : List Join}, (∀ j ∈ js, j ∈ r.activeJoins) → ∀ x,
      r.ExpandsTotally records js x := by
    intro js hjs
    induction js with
    | nil => exact fun _ => trivial
    | cons j rest ih =>
      rw [List.forall_mem_cons] at hjs
      have hlevel := totallyOrdered_of_mem_levels hids htrans hr (.tail _ (List.mem_map_of_mem hjs.1))
      rw [sortAt_level] at hlevel
      exact fun x => ⟨hlevel.mono fun d hd => (List.mem_filter.mp hd).1, fun y _ => ih hjs.2 y⟩
  have hpoly := totallyOrdered_of_mem_levels hids htrans hr (l := .poly) List.mem_cons_self
  exact ⟨hpoly.mono fun d hd => (List.mem_filter.mp hd).1, fun d _ => hjoins (fun _ hj => hj) _⟩

end Sorts

/-- **The sort does not show.** If the identifiers on each level that takes part in a valid request are
different and the values stored under its sort are ordered transitively, then every sort gives the same
page. -/
theorem serve_aggregateWith (hq : q.validate = .ok r) {s : Store}
    (hids : ∀ l ∈ r.levels, Identified (s.snapshot l))
    (htrans : ∀ l ∈ r.levels,
      Value.TransitiveOn (storedValues (r.sortAt l).field (s.snapshot l))) (S : Sorter)
    (budgets : Budgets) : q.serve (s.aggregateWith S) budgets = q.serve s.aggregate budgets := by
  obtain ⟨hr, -⟩ := compile_of_validate hq
  rw [serve, serve, hq]
  exact page_aggregateWith S (sortsTotally_of_levels hids htrans hr) budgets

/-- Root records of which two are tied, one has a list under the sort and one has nothing there, and
geometries of which two are tied; each level in a given order. -/
def tiedStore (order : List Document → List Document) : Store :=
  let record (id : Nat) (fields : List (String × Value)) : Document :=
    (idField, .objectId (.ofNat id)) :: fields
  ⟨{ poly := order [record 3 [("POLYID", .int32 1)], record 2 [("POLYID", .array [.string "1"])],
                    record 1 [("POLYID", .double ⟨0x3ff0000000000000⟩)], record 4 []]
     geom := order [record 13 [("POLYID", .int32 1), ("GEOMN", .int32 2)],
                    record 12 [("POLYID", .int32 1), ("GEOMN", .int32 2)],
                    record 11 [("POLYID", .int32 1), ("GEOMN", .string "2")]]
     triang := []
     invol := []
     swisscheese := [] }, 0⟩

/-- The request for one geometry of each root record, two root records on a page. -/
def tiedRequest : Request where
  resultLevel := .geom
  joinColumns := .ofFun fun
    | .geom => ["GEOMN"]
    | _ => []
  paging := { poly := 2, geom := 1 }

/-- Of tied records the same are shown if all levels are turned around. -/
theorem serve_tiedStore :
    (∀ l ∈ tiedRequest.normalize.levels,
      ((tiedStore id).snapshot l).Perm ((tiedStore List.reverse).snapshot l)) ∧
    ∃ p, tiedRequest.serve (tiedStore id).aggregate {} = .ok p ∧
      tiedRequest.serve (tiedStore List.reverse).aggregate {} = .ok p := by
  have hvalid : tiedRequest.validate = .ok tiedRequest.normalize := rfl
  have hperm : ∀ l ∈ tiedRequest.normalize.levels,
      ((tiedStore id).snapshot l).Perm ((tiedStore List.reverse).snapshot l) := by
    intro l _
    cases l with
    | poly | geom => exact (List.reverse_perm _).symm
    | triang | invol | swisscheese => exact .refl []
  have hids : ∀ l ∈ tiedRequest.normalize.levels, Identified ((tiedStore id).snapshot l) := by
    intro l _
    cases l <;> exact ⟨by decide, by decide⟩
  have htrans : ∀ l ∈ tiedRequest.normalize.levels, Value.TransitiveOn
      (storedValues (tiedRequest.normalize.sortAt l).field ((tiedStore id).snapshot l)) := by
    intro l _
    simp only [Value.TransitiveOn]
    cases l <;> decide +kernel
  obtain ⟨hsame, hpage⟩ := serve_eq_of_perm hvalid hperm hids htrans {}
  obtain ⟨p, hp⟩ := hpage (by decide) (by decide)
  exact ⟨hperm, p, hp, hsame ▸ hp⟩

end Request

end Strata
