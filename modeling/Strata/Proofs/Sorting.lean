import Mathlib.Data.List.Induction
import Strata.Store.Sorting

/-!
# Sorting

Sorting gives a permutation of what it is given, and on rows in a total order it gives the one result
that a stable sort may have (`sortedBy_iff_eq_sortRows`). Sorting the elements with a property gives
the elements with the property among the sorted ones; without a total order this needs that they stand
at the end.

The order of values turns around when its arguments are exchanged. It need not be transitive: a
binary64 number can be tied with two different whole numbers. What depends on transitivity says so
with `Value.TransitiveOn`, or of rows with `TotallyOrdered`.
-/

namespace Strata

/-! ## Insertion and sorting -/

section Insertion

variable {α : Type} {less : α → α → Bool}

theorem insertDescending_perm (x : α) (ys : List α) :
    (insertDescending less x ys).Perm (x :: ys) := by
  induction ys with
  | nil => exact .refl _
  | cons y rest ih =>
    rw [insertDescending]
    split
    · exact (ih.cons y).trans (.swap x y rest)
    · exact .refl _

theorem sublist_insertDescending (x : α) (ys : List α) :
    ys.Sublist (insertDescending less x ys) := by
  induction ys with
  | nil => exact List.nil_sublist _
  | cons y rest ih =>
    rw [insertDescending]
    split
    · exact ih.cons_cons y
    · exact List.sublist_cons_self x (y :: rest)

theorem insertDescending_eq_cons {x : α} {ys : List α} (h : ∀ y ∈ ys, less x y = false) :
    insertDescending less x ys = x :: ys := by
  cases ys with
  | nil => rfl
  | cons y rest => rw [insertDescending, h y List.mem_cons_self, if_neg Bool.false_ne_true]

theorem stableSort_concat (xs : List α) (x : α) :
    stableSort less (xs ++ [x])
      = (insertDescending less x (stableSort less xs).reverse).reverse := by
  rw [stableSort, stableSort, List.foldl_append, List.foldl_cons, List.foldl_nil,
    List.reverse_reverse]

theorem stableSort_perm (xs : List α) : (stableSort less xs).Perm xs := by
  induction xs using List.reverseRecOn with
  | nil => exact .refl _
  | append_singleton xs x ih =>
    rw [stableSort_concat]
    have hinsert : (insertDescending less x (stableSort less xs).reverse).Perm
        (x :: (stableSort less xs).reverse) := insertDescending_perm x _
    have hrest : (x :: (stableSort less xs).reverse).Perm (xs ++ [x]) :=
      (((List.reverse_perm _).trans ih).cons x).trans (List.perm_append_singleton x xs).symm
    exact (List.reverse_perm _).trans (hinsert.trans hrest)

theorem mem_stableSort {xs : List α} {x : α} : x ∈ stableSort less xs ↔ x ∈ xs :=
  (stableSort_perm xs).mem_iff

theorem length_stableSort (xs : List α) : (stableSort less xs).length = xs.length :=
  (stableSort_perm xs).length_eq

theorem pairwise_insertDescending {x : α} {ys : List α}
    (asymm : ∀ a b, less a b = true → less b a = false)
    (trans : ∀ a ∈ ys, ∀ b ∈ ys, less x a = false → less a b = false → less x b = false)
    (h : ys.Pairwise fun a b => less a b = false) :
    (insertDescending less x ys).Pairwise fun a b => less a b = false := by
  induction ys with
  | nil => simp [insertDescending]
  | cons y rest ih =>
    rw [List.pairwise_cons] at h
    rw [insertDescending]
    split
    next hlt =>
      have ih := ih (fun a ha b hb => trans a (.tail y ha) b (.tail y hb)) h.2
      refine List.pairwise_cons.mpr ⟨fun z hz => ?_, ih⟩
      rcases List.mem_cons.mp ((insertDescending_perm x rest).mem_iff.mp hz) with rfl | hz
      · exact asymm z y hlt
      · exact h.1 z hz
    next hlt =>
      have hxy : less x y = false := by simpa using hlt
      refine List.pairwise_cons.mpr ⟨fun z hz => ?_, List.pairwise_cons.mpr h⟩
      rcases List.mem_cons.mp hz with rfl | hz
      · exact hxy
      · exact trans y List.mem_cons_self z (.tail y hz) hxy (h.1 z hz)

/-- Sorted elements stand in ascending order. -/
theorem pairwise_stableSort {xs : List α} (asymm : ∀ a b, less a b = true → less b a = false)
    (trans : ∀ a ∈ xs, ∀ b ∈ xs, ∀ c ∈ xs,
      less a b = false → less b c = false → less a c = false) :
    (stableSort less xs).Pairwise fun a b => less b a = false := by
  induction xs using List.reverseRecOn with
  | nil => exact List.Pairwise.nil
  | append_singleton xs x ih =>
    have hmem : ∀ a, a ∈ (stableSort less xs).reverse → a ∈ xs ++ [x] := by
      intro a ha
      exact List.mem_append_left [x] (mem_stableSort.mp (List.mem_reverse.mp ha))
    have ih := ih fun a ha b hb c hc => trans a (List.mem_append_left [x] ha)
      b (List.mem_append_left [x] hb) c (List.mem_append_left [x] hc)
    rw [stableSort_concat, List.pairwise_reverse]
    refine pairwise_insertDescending asymm (fun a ha b hb => ?_) (List.pairwise_reverse.mpr ih)
    exact trans x (by simp) a (hmem a ha) b (hmem b hb)

/-! ### Sorting some of the elements -/

variable {p : α → Bool}

theorem filter_insertDescending_of_neg {x : α} (hx : ¬ p x = true) (ys : List α) :
    (insertDescending less x ys).filter p = ys.filter p := by
  induction ys with
  | nil => simp [insertDescending, hx]
  | cons y rest ih =>
    rw [insertDescending]
    split
    · rw [List.filter_cons, List.filter_cons, ih]
    · rw [List.filter_cons_of_neg hx]

theorem filter_insertDescending_of_pos {x : α} (hx : p x = true) {ys : List α}
    (h : ys.Pairwise fun y z => p z = true → ¬ p y = true → less x z = true → less x y = true) :
    (insertDescending less x ys).filter p = insertDescending less x (ys.filter p) := by
  induction ys with
  | nil => simp [insertDescending, hx]
  | cons y rest ih =>
    rw [List.pairwise_cons] at h
    by_cases hlt : less x y = true
    · rw [insertDescending, if_pos hlt, List.filter_cons, ih h.2]
      by_cases hy : p y = true
      · rw [if_pos hy, List.filter_cons_of_pos hy, insertDescending, if_pos hlt]
      · rw [if_neg hy, List.filter_cons_of_neg hy]
    · rw [insertDescending, if_neg hlt, List.filter_cons_of_pos hx]
      by_cases hy : p y = true
      · rw [List.filter_cons_of_pos hy, insertDescending, if_neg hlt]
      · -- `y` stopped `x` but is left out; by `h` no element that stays lets `x` pass either
        rw [List.filter_cons_of_neg hy, insertDescending_eq_cons]
        intro z hz
        obtain ⟨hz, hpz⟩ := List.mem_filter.mp hz
        exact Bool.eq_false_iff.mpr fun hlt' => hlt (h.1 z hz hpz hy hlt')

/-- Sorting after leaving elements out is leaving elements out of the sorted ones, if no element
that is left out stands between an element that stays and where another one that stays would go. -/
theorem stableSort_filter {xs : List α}
    (h : (stableSort less xs).Pairwise fun z y => ∀ x ∈ xs, p x = true → p z = true →
      ¬ p y = true → less x z = true → less x y = true) :
    stableSort less (xs.filter p) = (stableSort less xs).filter p := by
  -- the elements are inserted from the left, so the last one is the step
  induction xs using List.reverseRecOn with
  | nil => rfl
  | append_singleton xs x ih =>
    rw [stableSort_concat, List.pairwise_reverse] at h
    have hsub := h.sublist (sublist_insertDescending x _)
    have ih := ih <| (List.pairwise_reverse.mp hsub).imp fun hzy x' hx' =>
      hzy x' (List.mem_append_left [x] hx')
    rw [stableSort_concat, List.filter_append, List.filter_reverse]
    by_cases hx : p x = true
    · rw [List.filter_cons_of_pos hx, List.filter_nil, stableSort_concat, ih, ← List.filter_reverse,
        filter_insertDescending_of_pos hx]
      exact hsub.imp fun hyz hz hy => hyz x (by simp) hx hz hy
    · rw [List.filter_cons_of_neg hx, List.filter_nil, List.append_nil, ih,
        filter_insertDescending_of_neg hx, List.filter_reverse, List.reverse_reverse]

/-! ### Sorting what elements become -/

variable {β : Type} {less' : β → β → Bool} {f : α → β}

theorem map_insertDescending (h : ∀ a b, less' (f a) (f b) = less a b) (x : α) (ys : List α) :
    (insertDescending less x ys).map f = insertDescending less' (f x) (ys.map f) := by
  induction ys with
  | nil => rfl
  | cons y rest ih =>
    rw [List.map_cons, insertDescending, insertDescending, h x y]
    split
    · rw [List.map_cons, ih]
    · rfl

/-- What keeps the comparison keeps the order of the sorted elements. -/
theorem map_stableSort (h : ∀ a b, less' (f a) (f b) = less a b) (xs : List α) :
    (stableSort less xs).map f = stableSort less' (xs.map f) := by
  induction xs using List.reverseRecOn with
  | nil => rfl
  | append_singleton xs x ih =>
    rw [List.map_append, List.map_singleton, stableSort_concat, stableSort_concat, List.map_reverse,
      map_insertDescending h, List.map_reverse, ih]

end Insertion

/-! ## The order of values -/

namespace Value

/-- On these values the order is transitive. -/
def TransitiveOn (vs : List Value) : Prop :=
  ∀ a ∈ vs, ∀ b ∈ vs, ∀ c ∈ vs, a.order b ≠ .gt → b.order c ≠ .gt → a.order c ≠ .gt

theorem TransitiveOn.mono {vs ws : List Value} (h : TransitiveOn ws) (hsub : ∀ v ∈ vs, v ∈ ws) :
    TransitiveOn vs :=
  fun a ha b hb c hc => h a (hsub a ha) b (hsub b hb) c (hsub c hc)

theorem order_objectId (a b : ObjectId) :
    (objectId a).order (objectId b) = compare a.toNat b.toNat := rfl

theorem transitiveOn_objectIds {vs : List Value} (h : ∀ v ∈ vs, ∃ id, v = objectId id) :
    TransitiveOn vs := by
  intro a ha b hb c hc hab hbc
  obtain ⟨a, rfl⟩ := h a ha
  obtain ⟨b, rfl⟩ := h b hb
  obtain ⟨c, rfl⟩ := h c hc
  rw [order_objectId, Nat.compare_ne_gt] at *
  exact Nat.le_trans hab hbc

theorem compareNumbers_swap (a b : Value) : compareNumbers b a = (compareNumbers a b).swap := by
  simp only [compareNumbers]
  cases a.toInt? <;> cases b.toInt? <;> cases a.toDouble? <;> cases b.toDouble? <;>
    first
    | rfl
    | exact Std.OrientedOrd.eq_swap

theorem compareWithin?_swap (a b : Value) :
    compareWithin? b a = (compareWithin? a b).map Ordering.swap := by
  by_cases h : (a.isNumber && b.isNumber) = true
  · have h' : (b.isNumber && a.isNumber) = true := by rw [Bool.and_comm]; exact h
    unfold compareWithin?
    rw [if_pos h', if_pos h, compareNumbers_swap a b, Option.map_some]
  · have h' : ¬ (b.isNumber && a.isNumber) = true := by rw [Bool.and_comm]; exact h
    unfold compareWithin?
    rw [if_neg h', if_neg h]
    cases a <;> cases b <;>
      first
      | rfl
      | exact congrArg some Std.OrientedOrd.eq_swap

/-- Exchanging the arguments turns the order around. -/
theorem order_swap (a b : Value) : b.order a = (a.order b).swap := by
  rw [order, order, compareWithin?_swap a b]
  cases compareWithin? a b with
  | none => exact Std.OrientedOrd.eq_swap
  | some o => rfl

end Value

/-! ## The order of rows -/

namespace SortKey

/-- The value that a row is sorted by; a missing one counts as null. -/
def value (k : SortKey) (row : Document) : Value := (row.getPath? k.field).getD .null

/-- The order of two rows by one key. -/
def order (k : SortKey) (a b : Document) : Ordering :=
  k.direction.apply ((k.value a).order (k.value b))

theorem order_swap (k : SortKey) (a b : Document) : k.order b a = (k.order a b).swap := by
  rw [order, order, Value.order_swap (k.value a) (k.value b)]
  cases k.direction <;> rfl

end SortKey

theorem orderOptional_eq (a b : Option Value) :
    orderOptional a b = (a.getD .null).order (b.getD .null) := by
  cases a <;> cases b <;> rfl

theorem compareRows_cons (k : SortKey) (rest : List SortKey) (a b : Document) :
    compareRows (k :: rest) a b = (k.order a b).then (compareRows rest a b) := by
  rw [compareRows, orderOptional_eq, SortKey.order, SortKey.value, SortKey.value]
  generalize ((a.getPath? k.field).getD .null).order ((b.getPath? k.field).getD .null) = o
  cases o <;> cases k.direction <;> rfl

theorem compareRows_swap (keys : List SortKey) (a b : Document) :
    compareRows keys b a = (compareRows keys a b).swap := by
  induction keys with
  | nil => rfl
  | cons k rest ih =>
    rw [compareRows_cons, compareRows_cons, k.order_swap a b, ih, Ordering.swap_then]

namespace SortKey

variable {k : SortKey} {rows : List Document} {a b c : Document}

theorem order_trans (h : Value.TransitiveOn (rows.map k.value)) (ha : a ∈ rows) (hb : b ∈ rows)
    (hc : c ∈ rows) (hab : k.order a b ≠ .gt) (hbc : k.order b c ≠ .gt) : k.order a c ≠ .gt := by
  have ha := List.mem_map_of_mem (f := k.value) ha
  have hb := List.mem_map_of_mem (f := k.value) hb
  have hc := List.mem_map_of_mem (f := k.value) hc
  rw [order] at *
  cases hdir : k.direction with
  | asc =>
    rw [hdir] at hab hbc
    exact h _ ha _ hb _ hc hab hbc
  | desc =>
    -- descending is ascending with the arguments exchanged
    rw [hdir] at hab hbc
    simp only [Direction.apply, ← Value.order_swap] at hab hbc ⊢
    exact h _ hc _ hb _ ha hbc hab

theorem order_lt_of_lt_of_le (h : Value.TransitiveOn (rows.map k.value)) (ha : a ∈ rows)
    (hb : b ∈ rows) (hc : c ∈ rows) (hab : k.order a b = .lt) (hbc : k.order b c ≠ .gt) :
    k.order a c = .lt := by
  have hac : k.order a c ≠ .gt := order_trans h ha hb hc (by simp [hab]) hbc
  have hca : k.order c a = .gt := by
    -- otherwise `b` would not lie behind `a`
    have hnot : ¬ k.order c a ≠ .gt := fun hca => by
      have hba := order_trans h hb hc ha hbc hca
      rw [k.order_swap a b, hab] at hba
      exact hba rfl
    simpa using hnot
  rw [k.order_swap c a, hca]
  rfl

theorem order_lt_of_le_of_lt (h : Value.TransitiveOn (rows.map k.value)) (ha : a ∈ rows)
    (hb : b ∈ rows) (hc : c ∈ rows) (hab : k.order a b ≠ .gt) (hbc : k.order b c = .lt) :
    k.order a c = .lt := by
  have hca : k.order c a = .gt := by
    have hnot : ¬ k.order c a ≠ .gt := fun hca => by
      have hcb := order_trans h hc ha hb hca hab
      rw [k.order_swap b c, hbc] at hcb
      exact hcb rfl
    simpa using hnot
  rw [k.order_swap c a, hca]
  rfl

end SortKey

/-- Rows are ordered transitively where each key orders its values so. -/
theorem compareRows_trans {keys : List SortKey} {rows : List Document} {a b c : Document}
    (h : ∀ k ∈ keys, Value.TransitiveOn (rows.map k.value)) (ha : a ∈ rows) (hb : b ∈ rows)
    (hc : c ∈ rows) (hab : compareRows keys a b ≠ .gt) (hbc : compareRows keys b c ≠ .gt) :
    compareRows keys a c ≠ .gt := by
  induction keys with
  | nil => exact hab
  | cons k rest ih =>
    have hk := h k List.mem_cons_self
    have ih := ih fun k' hk' => h k' (.tail k hk')
    rw [compareRows_cons] at *
    cases hkab : k.order a b with
    | gt => simp [hkab] at hab
    | lt =>
      -- the later keys are not asked, so `c` may only be tied with `b` or behind it by this one
      have hle : k.order b c ≠ .gt := fun hgt => by simp [hgt] at hbc
      simp [SortKey.order_lt_of_lt_of_le hk ha hb hc hkab hle]
    | eq =>
      cases hkbc : k.order b c with
      | gt => simp [hkbc] at hbc
      | lt => simp [SortKey.order_lt_of_le_of_lt hk ha hb hc (by simp [hkab]) hkbc]
      | eq =>
        -- tied by this key in both directions, so the later keys decide
        have hac := SortKey.order_trans hk ha hb hc (by simp [hkab]) (by simp [hkbc])
        rw [hkab] at hab
        rw [hkbc] at hbc
        have hrest := ih hab hbc
        cases hkac : k.order a c with
        | gt => exact absurd hkac hac
        | lt => simp
        | eq => exact hrest

theorem totallyOrdered_of_transitiveOn {keys : List SortKey} {rows : List Document}
    (h : ∀ k ∈ keys, Value.TransitiveOn (rows.map k.value)) : TotallyOrdered keys rows :=
  fun _ ha _ hb _ hc => compareRows_trans h ha hb hc

@[simp] theorem compareRows_self (keys : List SortKey) (a : Document) : compareRows keys a a = .eq := by
  have hswap := compareRows_swap keys a a
  cases h : compareRows keys a a with
  | eq => rfl
  | lt | gt => rw [h] at hswap; cases hswap

/-- Rows of which neither is greater are tied. -/
theorem compareRows_eq_of_ne_gt {keys : List SortKey} {a b : Document}
    (hab : compareRows keys a b ≠ .gt) (hba : compareRows keys b a ≠ .gt) :
    compareRows keys a b = .eq := by
  cases h : compareRows keys a b with
  | eq => rfl
  | gt => exact absurd h hab
  | lt =>
    rw [compareRows_swap keys a b, h] at hba
    exact absurd rfl hba

namespace TotallyOrdered

variable {keys : List SortKey} {rows : List Document} {a b c : Document}

theorem mono {sub : List Document} (h : TotallyOrdered keys rows) (hsub : ∀ d ∈ sub, d ∈ rows) :
    TotallyOrdered keys sub :=
  fun a ha b hb c hc => h a (hsub a ha) b (hsub b hb) c (hsub c hc)

theorem lt_of_lt_of_le (h : TotallyOrdered keys rows) (ha : a ∈ rows) (hb : b ∈ rows)
    (hc : c ∈ rows) (hab : compareRows keys a b = .lt) (hbc : compareRows keys b c ≠ .gt) :
    compareRows keys a c = .lt := by
  have hca : compareRows keys c a = .gt := by
    have hnot : ¬ compareRows keys c a ≠ .gt := fun hca => by
      have hba := h b hb c hc a ha hbc hca
      rw [compareRows_swap keys a b, hab] at hba
      exact hba rfl
    simpa using hnot
  rw [compareRows_swap keys c a, hca]
  rfl

/-- Rows that are tied with a third one are tied. -/
theorem eq_of_eq_of_eq (h : TotallyOrdered keys rows) (ha : a ∈ rows) (hb : b ∈ rows)
    (hc : c ∈ rows) (hab : compareRows keys a b = .eq) (hac : compareRows keys a c = .eq) :
    compareRows keys b c = .eq := by
  have hba : compareRows keys b a = .eq := by rw [compareRows_swap keys a b, hab]; rfl
  have hca : compareRows keys c a = .eq := by rw [compareRows_swap keys a c, hac]; rfl
  exact compareRows_eq_of_ne_gt (h b hb a ha c hc (by simp [hba]) (by simp [hac]))
    (h c hc a ha b hb (by simp [hca]) (by simp [hab]))

end TotallyOrdered

/-! ## Sorted rows -/

section Rows

variable {keys : List SortKey} {rows : List Document}

theorem sortRows_perm (keys : List SortKey) (rows : List Document) :
    (sortRows keys rows).Perm rows :=
  stableSort_perm rows

@[simp] theorem mem_sortRows {d : Document} : d ∈ sortRows keys rows ↔ d ∈ rows :=
  mem_stableSort

@[simp] theorem length_sortRows (keys : List SortKey) (rows : List Document) :
    (sortRows keys rows).length = rows.length :=
  length_stableSort rows

/-- Sorted rows stand in ascending order if they are in a total order. -/
theorem pairwise_sortRows (h : TotallyOrdered keys rows) :
    (sortRows keys rows).Pairwise fun a b => compareRows keys a b ≠ .gt := by
  have hle : ∀ a b, (compareRows keys b a == .lt) = false ↔ compareRows keys a b ≠ .gt := by
    intro a b
    rw [compareRows_swap keys a b]
    cases compareRows keys a b <;> simp
  have hsorted : (sortRows keys rows).Pairwise fun a b =>
      (compareRows keys b a == .lt) = false := by
    refine pairwise_stableSort (fun a b hab => ?_) fun a ha b hb c hc hab hbc => ?_
    · rw [beq_iff_eq] at hab
      rw [hle, hab]
      simp
    · rw [hle] at *
      exact h c hc b hb a ha hbc hab
  exact hsorted.imp fun hab => (hle _ _).mp hab

/-- Rows keep their order under what keeps their values by the keys. -/
theorem map_sortRows {f : Document → Document} (h : ∀ k ∈ keys, ∀ d, k.value (f d) = k.value d)
    (rows : List Document) : (sortRows keys rows).map f = sortRows keys (rows.map f) := by
  have hcompare : ∀ a b, compareRows keys (f a) (f b) = compareRows keys a b := by
    intro a b
    induction keys with
    | nil => rfl
    | cons k rest ih =>
      rw [List.forall_mem_cons] at h
      rw [compareRows_cons, compareRows_cons, SortKey.order, SortKey.order, h.1 a, h.1 b, ih h.2]
  exact map_stableSort (fun a b => by rw [hcompare a b]) rows

variable {p : Document → Bool}

/-- Sorting the rows with a property gives the end of the sorted rows, if that is where the rows with
the property stand. -/
theorem sortRows_filter_of_pairwise
    (h : (sortRows keys rows).Pairwise fun a b => p a = true → p b = true) :
    sortRows keys (rows.filter p) = (sortRows keys rows).filter p :=
  stableSort_filter <| h.imp fun hab _ _ _ ha hb => absurd (hab ha) hb

/-- In a total order, sorting the rows with a property is leaving the others out of the sorted rows. -/
theorem sortRows_filter (h : TotallyOrdered keys rows) :
    sortRows keys (rows.filter p) = (sortRows keys rows).filter p := by
  refine stableSort_filter ((pairwise_sortRows h).imp_of_mem fun hz hy hzy x hx _ _ _ hxz => ?_)
  rw [beq_iff_eq] at hxz ⊢
  exact h.lt_of_lt_of_le hx (mem_sortRows.mp hz) (mem_sortRows.mp hy) hxz hzy

theorem sortRows_eq_self (h : ∀ a ∈ rows, ∀ b ∈ rows, compareRows keys a b ≠ .lt) :
    sortRows keys rows = rows := by
  induction rows using List.reverseRecOn with
  | nil => rfl
  | append_singleton rows d ih =>
    have ih := ih fun a ha b hb => h a (List.mem_append_left [d] ha) b (List.mem_append_left [d] hb)
    rw [sortRows, stableSort_concat, ← sortRows, ih, insertDescending_eq_cons, List.reverse_cons,
      List.reverse_reverse]
    intro e he
    simpa using h d (by simp) e (List.mem_append_left [d] (List.mem_reverse.mp he))

/-! ### The results of stable sorts -/

/-- On rows in a total order, the sort that runs here is a stable sort. -/
theorem sortedBy_sortRows (h : TotallyOrdered keys rows) : SortedBy keys rows (sortRows keys rows) := by
  refine ⟨sortRows_perm keys rows, pairwise_sortRows h, fun d hd => ?_⟩
  rw [← sortRows_filter h]
  -- the rows that are tied with one row are tied with each other
  refine sortRows_eq_self fun a ha b hb => ?_
  rw [List.mem_filter, beq_iff_eq] at ha hb
  simp [h.eq_of_eq_of_eq hd ha.1 hb.1 ha.2 hb.2]

/-- A stable sort has one result at most. -/
theorem SortedBy.unique {sorted sorted' : List Document} (h : SortedBy keys rows sorted)
    (h' : SortedBy keys rows sorted') : sorted = sorted' := by
  have hperm : sorted.Perm sorted' := h.perm.trans h'.perm.symm
  have hties : ∀ d ∈ sorted, sorted.filter (fun e => compareRows keys d e == .eq)
      = sorted'.filter fun e => compareRows keys d e == .eq := by
    intro d hd
    have hd := h.perm.mem_iff.mp hd
    rw [h.stable d hd, h'.stable d hd]
  have hascends := h.ascends
  have hascends' := h'.ascends
  clear h h'
  induction sorted generalizing sorted' with
  | nil => exact hperm.nil_eq
  | cons d rest ih =>
    cases sorted' with
    | nil => exact absurd hperm.symm.nil_eq (List.cons_ne_nil d rest).symm
    | cons d' rest' =>
      rw [List.pairwise_cons] at hascends hascends'
      -- each of the two heads lies in front of the other, so they are tied, and then the same
      have htied : compareRows keys d d' = .eq := by
        refine compareRows_eq_of_ne_gt ?_ ?_
        · rcases List.mem_cons.mp (hperm.symm.mem_iff.mp List.mem_cons_self) with rfl | hmem
          · simp
          · exact hascends.1 d' hmem
        · rcases List.mem_cons.mp (hperm.mem_iff.mp List.mem_cons_self) with rfl | hmem
          · simp
          · exact hascends'.1 d hmem
      have hhead := hties d List.mem_cons_self
      simp only [List.filter_cons, compareRows_self, htied, beq_self_eq_true, if_true,
        List.cons.injEq] at hhead
      obtain ⟨rfl, -⟩ := hhead
      congr 1
      refine ih hperm.cons_inv (fun e he => ?_) hascends.2 hascends'.2
      have hrest := hties e (.tail d he)
      rw [List.filter_cons, List.filter_cons] at hrest
      split at hrest
      · exact (List.cons.inj hrest).2
      · exact hrest

/-- On rows in a total order, the sort that runs here has the one result of a stable sort. -/
theorem sortedBy_iff_eq_sortRows (h : TotallyOrdered keys rows) {sorted : List Document} :
    SortedBy keys rows sorted ↔ sorted = sortRows keys rows := by
  constructor
  · exact fun hsorted => hsorted.unique (sortedBy_sortRows h)
  · rintro rfl
    exact sortedBy_sortRows h

theorem Sorter.sort_eq (S : Sorter) (h : TotallyOrdered keys rows) :
    S.sort keys rows = some (sortRows keys rows) := by
  obtain ⟨sorted, hsort, hsorted⟩ := S.sorts h
  rw [hsort, (sortedBy_iff_eq_sortRows h).mp hsorted]

end Rows

/-- The sort that runs here, which has a result for all rows. -/
def Sorter.insertion : Sorter where
  sort keys rows := some (sortRows keys rows)
  sorts h := ⟨_, rfl, sortedBy_sortRows h⟩

end Strata
