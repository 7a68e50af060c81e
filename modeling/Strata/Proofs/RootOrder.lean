import Strata.Proofs.Paging

/-!
# Roots behind an identifier

A request without a cursor shows the root records that satisfy its conditions in the order of its
sort. A cursor leaves those of them whose identifiers lie behind its own. These are the records that
stand behind the record of the cursor only where the order of the identifiers fits the order of the
sort there, which `ResumableAt` says.
-/

namespace Strata

/-! ## The order of identifiers -/

namespace Direction

/-- Whether an identifier lies strictly before another one in a direction. -/
def Before (direction : Direction) (a b : ObjectId) : Prop :=
  match direction with
  | asc => a.toNat < b.toNat
  | desc => b.toNat < a.toNat

instance (direction : Direction) (a b : ObjectId) : Decidable (direction.Before a b) := by
  cases direction
  · exact inferInstanceAs (Decidable (a.toNat < b.toNat))
  · exact inferInstanceAs (Decidable (b.toNat < a.toNat))

variable {direction : Direction} {a b c : ObjectId}

theorem not_before_self (direction : Direction) (a : ObjectId) : ¬ direction.Before a a := by
  cases direction <;> exact Nat.lt_irrefl a.toNat

theorem Before.trans (hab : direction.Before a b) (hbc : direction.Before b c) :
    direction.Before a c := by
  cases direction
  · exact Nat.lt_trans hab hbc
  · exact Nat.lt_trans hbc hab

end Direction

/-- A page that ends with the `n`-th root record can be resumed: the identifier of this record is the
furthest of the first `n` in the direction of the sort, and all later ones lie behind it. -/
def ResumableAt (direction : Direction) (roots : List Document) (n : Nat) : Prop :=
  ∀ id, roots[n - 1]?.bind rootId? = some id →
    (∀ d ∈ roots.take n, ∀ i, rootId? d = some i → ¬ direction.Before id i) ∧
    (∀ d ∈ roots.drop n, ∀ i, rootId? d = some i → direction.Before id i)

theorem SortKey.value_idField {d : Document} {id : ObjectId} (h : rootId? d = some id)
    (direction : Direction) : SortKey.value ⟨idField, direction⟩ d = .objectId id := by
  rw [value, Document.getPath?_of_isSegment isSegment_idField, rootId?_eq_some_iff.mp h]
  rfl

/-- Identifiers are ordered transitively. -/
theorem Identified.transitiveOn {docs : List Document} (h : Identified docs)
    (direction : Direction) : Value.TransitiveOn (docs.map (SortKey.value ⟨idField, direction⟩)) := by
  refine Value.transitiveOn_objectIds fun v hv => ?_
  obtain ⟨d, hd, rfl⟩ := List.mem_map.mp hv
  obtain ⟨id, hid⟩ := h.exists_id hd
  exact ⟨id, SortKey.value_idField hid direction⟩

/-- Records stand in a total order by a sort with the identifiers behind it, if their values under the
sort are ordered transitively. -/
theorem Identified.totallyOrdered {docs : List Document} (h : Identified docs) {s : SortKey}
    (htrans : Value.TransitiveOn (docs.map s.value)) :
    TotallyOrdered [s, ⟨idField, s.direction⟩] docs := by
  refine totallyOrdered_of_transitiveOn fun k hk => ?_
  simp only [List.mem_cons, List.not_mem_nil, or_false] at hk
  rcases hk with rfl | rfl
  · exact htrans
  · exact h.transitiveOn s.direction

namespace Request

variable {r : Request} {records : Records}

/-- All pages of a request can be resumed that are not the last one. -/
def Resumable (r : Request) (roots : List Document) : Prop :=
  ∀ m, 0 < m → m * r.pageSize < roots.length →
    ResumableAt r.sort.direction roots (m * r.pageSize)

/-- A record lies behind an identifier if its own does. -/
theorem isBeyond_iff {d : Document} {id i : ObjectId} (hd : rootId? d = some i) :
    r.isBeyond id d = true ↔ r.sort.direction.Before id i := by
  rw [isBeyond, Document.candidates_of_isSegment isSegment_idField, rootId?_eq_some_iff.mp hd]
  have hwithin : (Value.objectId i).compareWithin? (.objectId id)
      = some (compare i.toNat id.toNat) := rfl
  cases r.sort.direction with
  | asc =>
    simp [Value.candidatesIn, Comparison.holds, Comparison.anyOrdered, hwithin, Direction.Before,
      Nat.compare_eq_gt]
  | desc =>
    simp [Value.candidatesIn, Comparison.holds, Comparison.anyOrdered, hwithin, Direction.Before,
      Nat.compare_eq_lt]

/-! ## Roots behind an identifier -/

/-- The root records that satisfy the conditions. -/
def satisfying (r : Request) (records : Records) : List Document :=
  (records .poly).filter fun d => r.base.conditions.all fun c => c.holds d

/-- Whether a record lies behind an identifier, if there is one. -/
def isBehind (r : Request) (bound : Option ObjectId) (d : Document) : Bool :=
  bound.all fun id => r.isBeyond id d

/-- The root records that satisfy the conditions and lie behind an identifier, if there is one,
sorted. -/
def rootsBehind (r : Request) (records : Records) (bound : Option ObjectId) : List Document :=
  sortRows r.rootKeys ((r.satisfying records).filter (r.isBehind bound))

theorem matching_eq (r : Request) (records : Records) :
    r.matching records = (r.satisfying records).filter (r.isBehind r.cursorId?) := by
  rw [matching, satisfying, List.filter_filter]
  simp only [Bool.and_comm]
  rfl

/-- Without a cursor, the records that match are those that satisfy the conditions. -/
theorem matching_of_token? (htoken : r.token? = none) :
    r.matching records = r.satisfying records := by
  rw [matching_eq, cursorId?, htoken, Option.bind_none]
  exact List.filter_eq_self.mpr fun d _ => rfl

theorem matchingRoots_eq (r : Request) (records : Records) :
    r.matchingRoots records = r.rootsBehind records r.cursorId? := by
  rw [matchingRoots, matching_eq]
  rfl

theorem mem_rootsBehind {bound : Option ObjectId} {d : Document} :
    d ∈ r.rootsBehind records bound
      ↔ d ∈ r.satisfying records ∧ r.isBehind bound d = true := by
  rw [rootsBehind, mem_sortRows, List.mem_filter]

theorem rootsBehind_none (r : Request) (records : Records) :
    r.rootsBehind records none = sortRows r.rootKeys (r.satisfying records) := by
  rw [rootsBehind]
  congr 1
  exact List.filter_eq_self.mpr fun d _ => rfl

theorem identified_satisfying (h : Identified (records .poly)) :
    Identified (r.satisfying records) :=
  h.sublist List.filter_sublist

theorem identified_rootsBehind (h : Identified (records .poly)) (bound : Option ObjectId) :
    Identified (r.rootsBehind records bound) :=
  ((identified_satisfying h).sublist List.filter_sublist).perm (sortRows_perm _ _)

/-- A record behind a record that is behind an identifier is behind that identifier. -/
theorem isBehind_of_isBehind {bound : Option ObjectId} {d e : Document} {id i : ObjectId}
    (hd : rootId? d = some id) (he : rootId? e = some i) (hbound : r.isBehind bound d = true)
    (h : r.isBehind (some id) e = true) : r.isBehind bound e = true := by
  cases bound with
  | none => rfl
  | some b =>
    rw [isBehind, Option.all_some] at hbound h ⊢
    exact (isBeyond_iff he).mpr
      (((isBeyond_iff hd).mp hbound).trans ((isBeyond_iff he).mp h))

/-- Behind the record of a cursor there are fewer records, since it is itself not among them. -/
theorem length_rootsBehind_lt (h : Identified (records .poly)) {bound : Option ObjectId}
    {d : Document} {id : ObjectId} (hd : d ∈ r.rootsBehind records bound)
    (hid : rootId? d = some id) :
    (r.rootsBehind records (some id)).length < (r.rootsBehind records bound).length := by
  obtain ⟨hmem, hbound⟩ := mem_rootsBehind.mp hd
  have hsub : (r.satisfying records).filter (r.isBehind (some id))
      = ((r.satisfying records).filter (r.isBehind bound)).filter (r.isBehind (some id)) := by
    rw [List.filter_filter]
    refine List.filter_congr fun e he => ?_
    obtain ⟨i, hi⟩ := (identified_satisfying h).exists_id he
    rw [Bool.eq_iff_iff, Bool.and_eq_true]
    exact ⟨fun hbehind => ⟨hbehind, isBehind_of_isBehind hid hi hbound hbehind⟩, And.left⟩
  have hself : ¬ r.isBehind (some id) d = true := by
    rw [isBehind, Option.all_some, isBeyond_iff hid]
    exact Direction.not_before_self _ id
  rw [rootsBehind, rootsBehind, length_sortRows, length_sortRows, hsub,
    List.length_filter_lt_length_iff_exists]
  exact ⟨d, List.mem_filter.mpr ⟨hmem, hbound⟩, hself⟩

/-! ## Where identifiers fit the sort -/

/-- Where a page can be resumed, the records behind its last identifier are those behind its last
record. -/
theorem rootsBehind_eq_drop (h : Identified (records .poly)) {n : Nat} {id : ObjectId}
    (hid : (r.rootsBehind records none)[n - 1]?.bind rootId? = some id)
    (hresumable : ResumableAt r.sort.direction (r.rootsBehind records none) n) :
    r.rootsBehind records (some id) = (r.rootsBehind records none).drop n := by
  obtain ⟨htake, hdrop⟩ := hresumable id hid
  have hroots := identified_rootsBehind (r := r) h none
  have hbefore : ∀ d ∈ (r.rootsBehind records none).take n, ¬ r.isBehind (some id) d = true := by
    intro d hd
    obtain ⟨i, hi⟩ := hroots.exists_id (List.mem_of_mem_take hd)
    rw [isBehind, Option.all_some, isBeyond_iff hi]
    exact htake d hd i hi
  have hbehind : ∀ d ∈ (r.rootsBehind records none).drop n, r.isBehind (some id) d = true := by
    intro d hd
    obtain ⟨i, hi⟩ := hroots.exists_id (List.mem_of_mem_drop hd)
    rw [isBehind, Option.all_some, isBeyond_iff hi]
    exact hdrop d hd i hi
  have hsplit := List.take_append_drop n (r.rootsBehind records none)
  -- the records behind the identifier stand at the end
  have hend : (r.rootsBehind records none).Pairwise fun a b =>
      r.isBehind (some id) a = true → r.isBehind (some id) b = true := by
    rw [← hsplit, List.pairwise_append]
    refine ⟨?_, ?_, fun a ha b hb _ => hbehind b hb⟩
    · exact List.pairwise_of_forall_mem_list fun a ha b _ hpa => absurd hpa (hbefore a ha)
    · exact List.pairwise_of_forall_mem_list fun a _ b hb _ => hbehind b hb
  have hfilter : r.rootsBehind records (some id)
      = (r.rootsBehind records none).filter (r.isBehind (some id)) := by
    rw [rootsBehind_none] at hend ⊢
    exact sortRows_filter_of_pairwise hend
  have hnone : ((r.rootsBehind records none).take n).filter (r.isBehind (some id)) = [] :=
    List.filter_eq_nil_iff.mpr hbefore
  have hall : ((r.rootsBehind records none).drop n).filter (r.isBehind (some id))
      = (r.rootsBehind records none).drop n := List.filter_eq_self.mpr hbehind
  rw [hfilter, ← hsplit, List.filter_append, hnone, hall, List.nil_append, hsplit]

/-- Where the records stand in a total order, those behind an identifier keep their order. -/
theorem rootsBehind_eq_filter (h : TotallyOrdered r.rootKeys (r.satisfying records))
    (bound : Option ObjectId) :
    r.rootsBehind records bound = (r.rootsBehind records none).filter (r.isBehind bound) := by
  rw [rootsBehind_none]
  exact sortRows_filter h

end Request

end Strata
