import Strata.Proofs.FanOut
import Strata.Proofs.Visibility

/-!
# Pipelines are read off from their documents

Rendering a pipeline loses nothing, as long as no document hides a part of what it states. Documents
have each key once, so sort keys, variables and projected fields have to have different names. A
conjunction whose parts test different fields is one document of these fields; its parts have to
test one field each, and no field may have the key under which other conditions are written. Such a
pipeline is *legible*: it is determined by its documents, and so are the pipelines in its lookups.
What compiles is legible.
-/

namespace Strata

/-- Lists with equal images are equal if their elements are determined by the images. -/
theorem eq_of_map_eq {α β : Type} {f : α → β} {xs ys : List α}
    (h : ∀ x ∈ xs, ∀ y ∈ ys, f x = f y → x = y) (heq : xs.map f = ys.map f) : xs = ys := by
  induction xs generalizing ys with
  | nil => exact (List.map_eq_nil_iff.mp heq.symm).symm
  | cons x xs ih =>
    cases ys with
    | nil => simp at heq
    | cons y ys =>
      obtain ⟨hhead, htail⟩ := List.cons.inj heq
      rw [h x List.mem_cons_self y List.mem_cons_self hhead,
        ih (fun a ha b hb => h a (.tail _ ha) b (.tail _ hb)) htail]

/-! ## Documents of different keys -/

namespace Document

theorem insert_of_not_mem {d : Document} {k : String} (h : k ∉ d.keys) (v : Value) :
    d.insert k v = d ++ [(k, v)] := by
  induction d with
  | nil => rfl
  | cons f rest ih =>
    obtain ⟨key, w⟩ := f
    simp only [keys, List.map_cons, List.mem_cons, not_or] at h
    rw [insert, if_neg (Ne.symm h.1), ih h.2, List.cons_append]

/-- Fields with different keys are all kept, in order. -/
theorem ofFields_of_nodup {fields : List (String × Value)} (h : (fields.map (·.1)).Nodup) :
    ofFields fields = fields := by
  suffices hfold : ∀ d : Document, ((d ++ fields).map (·.1)).Nodup →
      fields.foldl (fun d f => insert d f.1 f.2) d = d ++ fields from hfold [] h
  clear h
  induction fields with
  | nil => simp
  | cons f rest ih =>
    intro d hnodup
    have hnew : f.1 ∉ d.keys := by
      rw [List.map_append, List.nodup_append] at hnodup
      exact fun hf => hnodup.2.2 f.1 hf f.1 (by simp) rfl
    rw [List.foldl_cons, insert_of_not_mem hnew, ih, List.append_assoc, List.singleton_append]
    rwa [List.append_assoc, List.singleton_append]

/-- Items with different names are read off from the document of their names and values. -/
theorem eq_of_ofFields_map {α : Type} {f : α → String} {g : α → Value} {as bs : List α}
    (ha : (as.map f).Nodup) (hb : (bs.map f).Nodup)
    (hitem : ∀ a b, f a = f b → g a = g b → a = b)
    (heq : ofFields (as.map fun a => (f a, g a)) = ofFields (bs.map fun b => (f b, g b))) :
    as = bs := by
  have hkeys (cs : List α) : ((cs.map fun c => (f c, g c)).map (·.1)) = cs.map f := by
    rw [List.map_map]
    rfl
  rw [ofFields_of_nodup (by rwa [hkeys]), ofFields_of_nodup (by rwa [hkeys])] at heq
  exact eq_of_map_eq (fun a _ b _ hab => hitem a b (Prod.mk.inj hab).1 (Prod.mk.inj hab).2) heq

end Document

/-! ## Conditions -/

theorem allDistinct_iff {ks : List String} : allDistinct ks = true ↔ ks.Nodup := by
  induction ks with
  | nil => simp [allDistinct]
  | cons k rest ih => simp [allDistinct, ih]

/-- Documents are merged only where each entry is kept. -/
theorem mergeConditions_cases (parts : List Document) :
    mergeConditions parts = parts.flatten ∨
      mergeConditions parts = [("$and", .array (parts.map .document))] := by
  rw [mergeConditions]
  split
  next hdistinct =>
    have hnodup : (parts.flatten.map (·.1)).Nodup := by
      rw [allDistinct_iff] at hdistinct
      rwa [List.map_flatten, ← List.flatMap_def]
    exact .inl (Document.ofFields_of_nodup hnodup)
  next => exact .inr rfl

namespace Comparison

@[simp] theorem key_inj {a b : Comparison} : a.key = b.key ↔ a = b := by
  cases a <;> cases b <;> decide

@[simp] theorem key_ne_in (op : Comparison) : op.key ≠ "$in" := by
  cases op <;> decide

@[simp] theorem key_ne_regex (op : Comparison) : op.key ≠ "$regex" := by
  cases op <;> decide

end Comparison

namespace Predicate

variable {p p' : Predicate} {path path' : String} {parts parts' : List Predicate}

/-- The field that a condition tests, if it tests one. -/
def field? : Predicate → Option String
  | compare path _ _ | oneOf path _ | pattern path _ _ => some path
  | all _ | correlate _ => none

theorem exists_toDocument (h : p.field? = some path) : ∃ v, p.toDocument = [(path, v)] := by
  cases p with
  | all | correlate => cases h
  | compare | oneOf | pattern =>
    obtain rfl := Option.some.inj h
    exact ⟨_, by rw [toDocument]⟩

/-- A condition that tests one field is read off from its document. -/
theorem eq_of_toDocument_of_field (h : p.field? = some path) (h' : p'.field? = some path')
    (heq : p.toDocument = p'.toDocument) : p = p' := by
  -- the key of the test says how the field is tested
  cases p with
  | all | correlate => cases h
  | compare a op v =>
    cases p' with
    | all | correlate => cases h'
    | compare => simpa [toDocument] using heq
    | oneOf | pattern => simp [toDocument] at heq
  | oneOf a vs =>
    cases p' with
    | all | correlate => cases h'
    | oneOf => simpa [toDocument] using heq
    | compare | pattern => simp [toDocument, (Comparison.key_ne_in _).symm] at heq
  | pattern a text ignoreCase =>
    cases p' with
    | all | correlate => cases h'
    | compare | oneOf => simp [toDocument, (Comparison.key_ne_regex _).symm] at heq
    | pattern a' text' ignoreCase' =>
      rw [toDocument, toDocument] at heq
      cases ignoreCase <;> cases ignoreCase' <;> simp_all

/-- The keys under which conditions are written that are not on a field of a level. -/
def reservedKeys : List String := [idField, "$and", "$expr"]

/-- A condition that tests one field, whose key is not reserved. -/
def IsClause (p : Predicate) : Prop := ∃ path, p.field? = some path ∧ path ∉ reservedKeys

/-- A condition that can be read off from its document. -/
inductive Legible : Predicate → Prop
  | conjunction {parts : List Predicate} (h : ∀ p ∈ parts, p.IsClause) : Legible (.all parts)
  | beyond (direction : Direction) (id : ObjectId) : Legible (Cursor.beyond direction id)
  | correlation (pairs : List (String × String)) : Legible (.correlate pairs)

theorem partDocuments_eq (parts : List Predicate) :
    partDocuments parts = parts.map toDocument := by
  induction parts with
  | nil => rw [partDocuments, List.map_nil]
  | cons p rest ih => rw [partDocuments, ih, List.map_cons]

/-- The parts of a conjunction in one document are read off in their order. -/
theorem eq_of_flatMap_toDocument (h : ∀ p ∈ parts, p.IsClause) (h' : ∀ p ∈ parts', p.IsClause)
    (heq : parts.flatMap toDocument = parts'.flatMap toDocument) : parts = parts' := by
  induction parts generalizing parts' with
  | nil =>
    cases parts' with
    | nil => rfl
    | cons p' rest' =>
      obtain ⟨path', hpath', -⟩ := h' p' List.mem_cons_self
      obtain ⟨v', hv'⟩ := exists_toDocument hpath'
      simp [hv'] at heq
  | cons p rest ih =>
    obtain ⟨⟨path, hpath, -⟩, hrest⟩ := List.forall_mem_cons.mp h
    obtain ⟨v, hv⟩ := exists_toDocument hpath
    cases parts' with
    | nil => simp [hv] at heq
    | cons p' rest' =>
      obtain ⟨⟨path', hpath', -⟩, hrest'⟩ := List.forall_mem_cons.mp h'
      obtain ⟨v', hv'⟩ := exists_toDocument hpath'
      rw [List.flatMap_cons, List.flatMap_cons, hv, hv', List.singleton_append,
        List.singleton_append, List.cons.injEq] at heq
      obtain ⟨hhead, htail⟩ := heq
      have hp : p = p' := eq_of_toDocument_of_field hpath hpath' (by rw [hv, hv', hhead])
      rw [hp, ih hrest hrest' htail]

theorem key_not_reserved (h : ∀ p ∈ parts, p.IsClause) {f : String × Value}
    (hf : f ∈ parts.flatMap toDocument) : f.1 ∉ reservedKeys := by
  obtain ⟨p, hp, hf⟩ := List.mem_flatMap.mp hf
  obtain ⟨path, hpath, hplain⟩ := h p hp
  obtain ⟨v, hv⟩ := exists_toDocument hpath
  rw [hv, List.mem_singleton] at hf
  rwa [hf]

/-- A conjunction is one document of its parts, or the list of their documents under a key of its
own. -/
theorem toDocument_all (parts : List Predicate) :
    (all parts).toDocument = parts.flatMap toDocument ∨
      (all parts).toDocument = [("$and", .array ((parts.map toDocument).map .document))] := by
  rw [toDocument, partDocuments_eq, List.flatMap_def]
  exact mergeConditions_cases (parts.map toDocument)

theorem correlationDocument_inj {a b : String × String} :
    correlationDocument a = correlationDocument b ↔ a = b := by
  simp [correlationDocument, Prod.ext_iff, String.append_right_inj]

/-- One pair stands alone, any other number of pairs in a list. -/
theorem toDocument_correlate (pairs : List (String × String)) :
    (∃ a, pairs = [a] ∧ (correlate pairs).toDocument = [("$expr", correlationDocument a)]) ∨
      (correlate pairs).toDocument =
        [("$expr", .document [("$and", .array (pairs.map correlationDocument))])] := by
  rcases pairs with - | ⟨a, - | ⟨b, rest⟩⟩
  · exact .inr (by rw [toDocument]; simp)
  · exact .inl ⟨a, rfl, by rw [toDocument]⟩
  · exact .inr (by rw [toDocument]; simp)

theorem eq_of_toDocument_correlate {pairs pairs' : List (String × String)}
    (heq : (correlate pairs).toDocument = (correlate pairs').toDocument) : pairs = pairs' := by
  rcases toDocument_correlate pairs with ⟨a, rfl, hdoc⟩ | hdoc <;>
    rcases toDocument_correlate pairs' with ⟨b, rfl, hdoc'⟩ | hdoc' <;>
    rw [hdoc, hdoc'] at heq
  · simpa [correlationDocument_inj] using heq
  · simp [correlationDocument] at heq
  · simp [correlationDocument] at heq
  · refine eq_of_map_eq (f := correlationDocument)
      (fun a _ b _ => correlationDocument_inj.mp) ?_
    simpa using heq

theorem eq_of_toDocument_all (h : ∀ p ∈ parts, p.IsClause) (h' : ∀ p ∈ parts', p.IsClause)
    (heq : (all parts).toDocument = (all parts').toDocument) : parts = parts' := by
  have hand : "$and" ∈ reservedKeys := by decide
  have hmixed : ∀ {parts : List Predicate} {v : Value}, (∀ p ∈ parts, p.IsClause) →
      parts.flatMap toDocument ≠ [("$and", v)] :=
    fun h hdoc => key_not_reserved h (hdoc ▸ List.mem_singleton_self _) hand
  rcases toDocument_all parts with hdoc | hdoc <;>
    rcases toDocument_all parts' with hdoc' | hdoc' <;>
    rw [hdoc, hdoc'] at heq
  · exact eq_of_flatMap_toDocument h h' heq
  · exact absurd heq (hmixed h)
  · exact absurd heq.symm (hmixed h')
  · refine eq_of_map_eq (f := Value.document ∘ toDocument) (fun p hp p' hp' hdoc => ?_) ?_
    · obtain ⟨path, hpath, -⟩ := h p hp
      obtain ⟨path', hpath', -⟩ := h' p' hp'
      exact eq_of_toDocument_of_field hpath hpath' (Value.document.inj hdoc)
    · simpa using heq

/-- A conjunction is not taken for a condition under another reserved key. -/
theorem toDocument_all_ne (h : ∀ p ∈ parts, p.IsClause) {k : String} (hk : k ∈ reservedKeys)
    (hne : k ≠ "$and") (v : Value) : (all parts).toDocument ≠ [(k, v)] := by
  intro hdoc
  rcases toDocument_all parts with hparts | hand
  · exact key_not_reserved h (hparts.symm.trans hdoc ▸ List.mem_singleton_self _) hk
  · rw [hand, List.cons.injEq, Prod.mk.injEq] at hdoc
    exact hne hdoc.1.1.symm

theorem exists_toDocument_correlate (pairs : List (String × String)) :
    ∃ v, (correlate pairs).toDocument = [("$expr", v)] := by
  rcases toDocument_correlate pairs with ⟨_, -, hdoc⟩ | hdoc <;> exact ⟨_, hdoc⟩

/-- Legible conditions are read off from their documents. -/
theorem Legible.eq_of_toDocument (h : p.Legible) (h' : p'.Legible)
    (heq : p.toDocument = p'.toDocument) : p = p' := by
  have hid : idField ∈ reservedKeys ∧ idField ≠ "$and" := by decide
  have hexpr : "$expr" ∈ reservedKeys ∧ "$expr" ≠ "$and" := by decide
  have hbeyond (direction : Direction) (id : ObjectId) :
      ∃ v, (Cursor.beyond direction id).toDocument = [(idField, v)] := exists_toDocument rfl
  have hne (v w : Value) : [(idField, v)] ≠ [("$expr", w)] := by simp [idField]
  cases h with
  | conjunction h =>
    cases h' with
    | conjunction h' => rw [eq_of_toDocument_all h h' heq]
    | beyond direction id =>
      obtain ⟨v, hv⟩ := hbeyond direction id
      exact absurd (heq.trans hv) (toDocument_all_ne h hid.1 hid.2 v)
    | correlation pairs =>
      obtain ⟨v, hv⟩ := exists_toDocument_correlate pairs
      exact absurd (heq.trans hv) (toDocument_all_ne h hexpr.1 hexpr.2 v)
  | beyond direction id =>
    obtain ⟨v, hv⟩ := hbeyond direction id
    cases h' with
    | conjunction h' => exact absurd (heq.symm.trans hv) (toDocument_all_ne h' hid.1 hid.2 v)
    | beyond => exact eq_of_toDocument_of_field rfl rfl heq
    | correlation pairs =>
      obtain ⟨w, hw⟩ := exists_toDocument_correlate pairs
      exact absurd (hv.symm.trans (heq.trans hw)) (hne v w)
  | correlation pairs =>
    obtain ⟨v, hv⟩ := exists_toDocument_correlate pairs
    cases h' with
    | conjunction h' => exact absurd (heq.symm.trans hv) (toDocument_all_ne h' hexpr.1 hexpr.2 v)
    | beyond direction id =>
      obtain ⟨w, hw⟩ := hbeyond direction id
      exact absurd (hw.symm.trans (heq.symm.trans hv)) (hne w v)
    | correlation => rw [eq_of_toDocument_correlate heq]

end Predicate

/-! ## Stages -/

theorem Level.name_injective {l l' : Level} (h : l.name = l'.name) : l = l' := by
  revert h
  cases l <;> cases l' <;> decide

theorem Direction.toValue_injective {d d' : Direction} (h : d.toValue = d'.toValue) : d = d' := by
  cases d <;> cases d' <;> first | rfl | simp [Direction.toValue] at h

theorem Source.toValue_injective {s s' : Source} (h : s.toValue = s'.toValue) : s = s' := by
  cases s with
  | keep =>
    cases s' with
    | keep => rfl
    | path => simp [Source.toValue] at h
  | path =>
    cases s' with
    | keep => simp [Source.toValue] at h
    | path => simpa [Source.toValue, String.append_right_inj] using h

/-- A count that fits 64 bits is read off from its value. -/
theorem countValue_injective {m n : Nat} (hm : m < 2 ^ 63) (hn : n < 2 ^ 63)
    (h : countValue m = countValue n) : m = n := by
  have hread (k : Nat) (hk : k < 2 ^ 63) :
      (Int64.ofInt (min (k : Int) (2 ^ 63 - 1))).toInt = k := by
    rw [min_eq_left (by omega), Int64.toInt_ofInt_of_le (by omega) (by omega)]
  rw [countValue, countValue, Value.int64.injEq] at h
  have htoInt := congrArg Int64.toInt h
  rw [hread m hm, hread n hn] at htoInt
  exact Int.ofNat_inj.mp htoInt

namespace Stage

/-- A stage that can be read off from its document, and the stages inside it from theirs. -/
inductive Legible : Stage → Prop
  | filter {p : Predicate} (h : p.Legible) : Legible (.filter p)
  | sort {keys : List SortKey} (h : (keys.map (·.field)).Nodup) : Legible (.sort keys)
  | limit {n : Nat} (h : n < 2 ^ 63) : Legible (.limit n)
  | lookup (level : Level) {vars : List Variable} {pipeline : List Stage} (target : String)
      (hvars : (vars.map (·.name)).Nodup) (h : ∀ s ∈ pipeline, Legible s) :
      Legible (.lookup level vars pipeline target)
  | unwind (field : String) : Legible (.unwind field)
  | project {fields : List Projected} (h : (fields.map (·.name)).Nodup) : Legible (.project fields)

theorem pipelineValues_eq (pipeline : List Stage) :
    pipelineValues pipeline = pipeline.map fun s => .document s.toDocument := by
  induction pipeline with
  | nil => rw [pipelineValues, List.map_nil]
  | cons s rest ih => rw [pipelineValues, ih, List.map_cons]

theorem eq_of_toDocument_sort {keys keys' : List SortKey} (h : (keys.map (·.field)).Nodup)
    (h' : (keys'.map (·.field)).Nodup) (heq : (sort keys).toDocument = (sort keys').toDocument) :
    keys = keys' := by
  refine Document.eq_of_ofFields_map (g := fun k => k.direction.toValue) h h'
    (fun ⟨_, _⟩ ⟨_, _⟩ hfield hdirection => ?_) (by simpa [toDocument] using heq)
  rw [SortKey.mk.injEq]
  exact ⟨hfield, Direction.toValue_injective hdirection⟩

theorem eq_of_toDocument_project {fields fields' : List Projected}
    (h : (fields.map (·.name)).Nodup) (h' : (fields'.map (·.name)).Nodup)
    (heq : (project fields).toDocument = (project fields').toDocument) : fields = fields' := by
  refine Document.eq_of_ofFields_map (g := fun f => f.source.toValue) h h'
    (fun ⟨_, _⟩ ⟨_, _⟩ hname hsource => ?_) (by simpa [toDocument] using heq)
  rw [Projected.mk.injEq]
  exact ⟨hname, Source.toValue_injective hsource⟩

/-- Legible stages are read off from their documents. -/
theorem Legible.eq_of_toDocument {s s' : Stage} (h : s.Legible) (h' : s'.Legible)
    (heq : s.toDocument = s'.toDocument) : s = s' := by
  -- the key of the document says which kind of stage it is
  induction h generalizing s' with
  | filter h =>
    cases h' with
    | filter h' => rw [h.eq_of_toDocument h' (by simpa [toDocument] using heq)]
    | sort | limit | lookup | unwind | project => simp [toDocument] at heq
  | sort h =>
    cases h' with
    | sort h' => rw [eq_of_toDocument_sort h h' heq]
    | filter | limit | lookup | unwind | project => simp [toDocument] at heq
  | limit h =>
    cases h' with
    | limit h' => rw [countValue_injective h h' (by simpa [toDocument] using heq)]
    | filter | sort | lookup | unwind | project => simp [toDocument] at heq
  | lookup level target hvars _ ih =>
    cases h' with
    | lookup level' target' hvars' h' =>
      simp only [toDocument, pipelineValues_eq, List.cons.injEq, Prod.mk.injEq, true_and, and_true,
        Value.document.injEq, Value.string.injEq, Value.array.injEq] at heq
      obtain ⟨hlevel, hlet, hpipeline, rfl⟩ := heq
      obtain rfl := Level.name_injective hlevel
      obtain rfl := Document.eq_of_ofFields_map hvars hvars' (fun ⟨_, _⟩ ⟨_, _⟩ hname hpath => by
        rw [Variable.mk.injEq]
        exact ⟨hname, Value.string.inj hpath⟩) hlet
      rw [eq_of_map_eq (fun t ht t' ht' hdoc => ih t ht (h' t' ht') (Value.document.inj hdoc))
        hpipeline]
    | filter | sort | limit | unwind | project => simp [toDocument] at heq
  | unwind field =>
    cases h' with
    | unwind field' => simpa [toDocument, String.append_right_inj] using heq
    | filter | sort | limit | lookup | project => simp [toDocument] at heq
  | project h =>
    cases h' with
    | project h' => rw [eq_of_toDocument_project h h' heq]
    | filter | sort | limit | lookup | unwind => simp [toDocument] at heq

end Stage

/-- A pipeline of legible stages is read off from its documents. -/
theorem eq_of_renderPipeline {stages stages' : List Stage} (h : ∀ s ∈ stages, s.Legible)
    (h' : ∀ s ∈ stages', s.Legible) (heq : renderPipeline stages = renderPipeline stages') :
    stages = stages' :=
  eq_of_map_eq (fun s hs t ht => (h s hs).eq_of_toDocument (h' t ht)) heq

/-! ## The stages of a request -/

theorem Level.not_mem_reservedKeys {l : Level} {c : String} (h : c ∈ l.columns) :
    c ∉ Predicate.reservedKeys := by
  revert c
  cases l <;> decide

theorem Condition.isClause_toPredicate {l : Level} {c : Condition} (h : c.check l = .ok ()) :
    c.toPredicate.IsClause := by
  refine ⟨c.field, ?_, Level.not_mem_reservedKeys (Condition.mem_columns_of_check h)⟩
  rw [toPredicate]
  cases c.op <;> rfl

theorem legible_sortStage (s : SortKey) : (sortStage s).Legible := by
  rw [sortStage]
  split
  next => exact .sort (by simp)
  next h => exact .sort (by simpa using h)

theorem legible_keepFields (names : List String) : (keepFields names).Legible := by
  refine .project ?_
  rw [List.map_map]
  simpa [Function.comp_def] using nodup_firstOccurrences [] (idField :: names)

theorem clampPageSize_lt (n : Int64) : clampPageSize n + 1 < 2 ^ 63 := by
  have := (clampPageSize_bounds n).2
  omega

namespace Request

variable {r : Request}

theorem legible_filterStages {l : Level} {cs : List Condition} (h : ∀ c ∈ cs, c.check l = .ok ()) :
    ∀ s ∈ filterStages (conjunction cs), s.Legible := by
  intro s hs
  rw [conjunction] at hs
  split at hs
  next => simp [filterStages] at hs
  next =>
    obtain rfl := List.mem_singleton.mp hs
    refine .filter (.conjunction fun p hp => ?_)
    obtain ⟨c, hc, rfl⟩ := List.mem_map.mp hp
    exact Condition.isClause_toPredicate (h c hc)

theorem legible_rootStages (hr : r.Admissible) {cursor : List Stage}
    (hcursor : r.cursorStages = .ok cursor) :
    ∀ s ∈ r.rootStages cursor (r.pageSize + 1), s.Legible := by
  intro s hs
  simp only [rootStages, List.mem_append, List.mem_cons, List.not_mem_nil, or_false] at hs
  rcases hs with (hs | hs) | rfl | rfl | rfl
  · exact legible_filterStages hr.base_conditions s hs
  · obtain ⟨id, rfl⟩ := exists_of_mem_cursorStages hcursor hs
    exact .filter (.beyond r.sort.direction id)
  · exact legible_sortStage r.sort
  · exact .limit (clampPageSize_lt _)
  · exact legible_keepFields _

theorem legible_joinPipeline (hr : r.Admissible) (j : Join) :
    ∀ s ∈ r.joinPipeline j (conjunction (r.joinConditions.get j)), s.Legible := by
  intro s hs
  simp only [joinPipeline, List.mem_append, List.mem_cons, List.not_mem_nil, or_false] at hs
  rcases hs with (rfl | hs) | rfl | rfl | rfl
  · exact .filter (.correlation _)
  · exact legible_filterStages (hr.join_conditions j) s hs
  · exact legible_sortStage (r.joinSortOf j)
  · exact .limit (Nat.lt_of_succ_lt (clampPageSize_lt _))
  · exact legible_keepFields _

theorem legible_joinedStages (hr : r.Admissible) (js : List Join) :
    ∀ s ∈ r.joinedStages js, s.Legible := by
  intro s hs
  obtain ⟨j, -, hs⟩ := List.mem_flatMap.mp hs
  rw [joinStages, List.mem_cons] at hs
  rcases hs with rfl | hs
  · refine .lookup j.level j.listField ?_ (legible_joinPipeline hr j)
    rw [List.map_map]
    exact j.nodup_correlation_vars
  · split at hs
    next => exact List.mem_singleton.mp hs ▸ .unwind j.listField
    next => simp at hs

theorem legible_outputStage (hr : r.Admissible) : r.outputStage.Legible := by
  have hnames : (⟨idField, .keep⟩ :: r.baseOutput.map (fun c => ⟨c, .keep⟩) ++
      r.joinedOutput : List Projected).map (·.name) = idField :: r.outputColumns := by
    simp [outputColumns, Function.comp_def]
  refine .project ?_
  rw [hnames, List.nodup_cons]
  exact ⟨idField_not_mem_outputColumns hr, r.nodup_outputColumns⟩

/-- What compiles is legible. -/
theorem legible_of_compile {q : Query} (h : r.compile = .ok q) : ∀ s ∈ q.pipeline, s.Legible := by
  obtain ⟨hr, cursor, hcursor, rfl⟩ := compile_eq_ok_iff.mp h
  intro s hs
  simp only [pipelineFrom, List.mem_append, List.mem_singleton] at hs
  rcases hs with (hs | hs) | rfl
  · exact legible_rootStages hr hcursor s hs
  · exact legible_joinedStages hr r.activeJoins s hs
  · exact legible_outputStage hr

/-- **Rendering loses nothing.** Two compiled pipelines with the same documents are the same, stage
for stage. -/
theorem pipeline_eq_of_render {r r' : Request} {q q' : Query} (h : r.compile = .ok q)
    (h' : r'.compile = .ok q') (heq : renderPipeline q.pipeline = renderPipeline q'.pipeline) :
    q.pipeline = q'.pipeline :=
  eq_of_renderPipeline (legible_of_compile h) (legible_of_compile h') heq

/-- A request with two conditions on one field, and one condition on a join. -/
def tidyRequest : Request where
  base := { conditions := [⟨"H11", .gte, "2"⟩, ⟨"H11", .within, "2,3"⟩] }
  resultLevel := .geom
  joinConditions := ⟨[⟨"GEOMN", .ne, "true"⟩], [], [], []⟩

/-- The same request, its values written with blanks and a comma too many. -/
def spacedRequest : Request :=
  { tidyRequest with
    base := { conditions := [⟨"H11", .gte, " 2"⟩, ⟨"H11", .within, "2, 3,"⟩] } }

theorem pipeline_spacedRequest :
    ∃ q q', spacedRequest.compile = .ok q ∧ tidyRequest.compile = .ok q' ∧
      spacedRequest ≠ tidyRequest ∧ renderPipeline q.pipeline = renderPipeline q'.pipeline ∧
      q.pipeline = q'.pipeline := by
  have hspaced : spacedRequest.compile = .ok ⟨spacedRequest.pipelineFrom [] 26, _, _⟩ := rfl
  have htidy : tidyRequest.compile = .ok ⟨tidyRequest.pipelineFrom [] 26, _, _⟩ := rfl
  have hrender : renderPipeline (spacedRequest.pipelineFrom [] 26)
      = renderPipeline (tidyRequest.pipelineFrom [] 26) := rfl
  exact ⟨_, _, hspaced, htidy, by decide, hrender, pipeline_eq_of_render hspaced htidy hrender⟩

end Request

end Strata
