import Strata.Proofs.ColumnNames
import Strata.Proofs.Paging

/-!
# Columns and rows of responses

The output columns of a request are told apart, and its last projection is in step with them: the field
in the place of a column has its name and finds it where the request asks for it. So a row of a
response, given as plain JSON, shows the identifier of its root record and output columns, and nothing
else.
-/

namespace Strata

/-! ## Keys of documents -/

namespace Document

theorem get?_eq_some_iff {d : Document} (h : d.keys.Nodup) {k : String} {v : Value} :
    d.get? k = some v ↔ (k, v) ∈ d :=
  lookup_eq_some_iff_mem h

theorem mem_keys_iff {d : Document} {k : String} : k ∈ d.keys ↔ (d.get? k).isSome := by
  induction d with
  | nil => simp [keys]
  | cons f rest ih =>
    obtain ⟨k', w⟩ := f
    have hkeys : keys ((k', w) :: rest) = k' :: keys rest := rfl
    rw [hkeys, get?_cons, List.mem_cons, ih]
    by_cases hk : k = k' <;> simp [hk]

theorem nodup_keys_insert {d : Document} (h : d.keys.Nodup) (k : String) (v : Value) :
    (d.insert k v).keys.Nodup := by
  induction d with
  | nil => exact List.nodup_singleton k
  | cons f rest ih =>
    obtain ⟨k', w⟩ := f
    rw [insert]
    split
    next => exact h
    next hk =>
      obtain ⟨hnot, hrest⟩ := List.nodup_cons.mp h
      refine List.nodup_cons.mpr ⟨fun hmem => hnot ?_, ih hrest⟩
      have hget : get? (insert rest k v) k' = get? rest k' := get?_insert_of_ne rest v hk
      exact mem_keys_iff.mpr (hget ▸ mem_keys_iff.mp hmem)

/-- Fields put in one after the other have different keys. -/
theorem nodup_keys_ofFields (fields : List (String × Value)) : (ofFields fields).keys.Nodup := by
  suffices h : ∀ d : Document, d.keys.Nodup →
      (fields.foldl (fun d f => insert d f.1 f.2) d).keys.Nodup from h [] List.nodup_nil
  induction fields with
  | nil => exact fun d hd => hd
  | cons f rest ih => exact fun d hd => ih _ (nodup_keys_insert hd f.1 f.2)

theorem fst_mem_of_mem_keys_ofFields {fields : List (String × Value)} {k : String}
    (h : k ∈ (ofFields fields).keys) : ∃ f ∈ fields, f.1 = k := by
  rw [mem_keys_iff, get?_ofFields, List.lookup_isSome_iff] at h
  obtain ⟨f, hf, hk⟩ := h
  exact ⟨f, List.mem_reverse.mp hf, (beq_iff_eq.mp hk).symm⟩

end Document

/-! ## Plain JSON of documents -/

namespace Json

theorem lookup_insertMember {α : Type} (key k : String) (value : α) (members : List (String × α)) :
    (insertMember key value members).lookup k
      = if k = key then some value else members.lookup k := by
  have hcons : ∀ (a : String) (b : α) (l : List (String × α)),
      ((a, b) :: l).lookup k = if k = a then some b else l.lookup k := by
    intro a b l
    by_cases h : k = a
    · simp [h]
    · have hb : (k == a) = false := by simpa using h
      simp [List.lookup_cons, h, hb]
  induction members with
  | nil => rw [insertMember, hcons]
  | cons m rest ih =>
    obtain ⟨a, b⟩ := m
    rw [insertMember]
    split
    next => rw [hcons]
    next =>
      split
      next heq =>
        subst heq
        rw [hcons, hcons]
        by_cases h : k = key <;> simp [h]
      next hne =>
        rw [hcons, hcons, ih]
        by_cases h : k = key
        · have hka : k ≠ a := fun hka => hne (h.symm.trans hka)
          rw [if_neg hka, if_pos h, if_pos h]
        · rw [if_neg h, if_neg h]

/-- Of the members of an object the last of a key counts. -/
theorem get?_object (members : List (String × Json)) (k : String) :
    (object members).get? k = members.reverse.lookup k := by
  suffices h : ∀ sorted : List (String × Json),
      (members.foldl (fun sorted m => insertMember m.1 m.2 sorted) sorted).lookup k
        = (members.reverse.lookup k).or (sorted.lookup k) by
    rw [object, get?, sortMembers, h, List.lookup_nil, Option.or_none]
  induction members with
  | nil => simp
  | cons m rest ih =>
    intro sorted
    have hsingle : List.lookup k [m] = if k = m.1 then some m.2 else none :=
      lookup_insertMember m.1 k m.2 []
    rw [List.foldl_cons, ih, lookup_insertMember, List.reverse_cons, List.lookup_append, hsingle]
    by_cases h : k = m.1 <;> cases rest.reverse.lookup k <;> simp [h]

end Json

theorem Value.lookup_fieldsToPlain (fields : List (String × Value)) (k : String) :
    (fieldsToPlain fields).lookup k = (fields.lookup k).map toPlain := by
  induction fields with
  | nil => rfl
  | cons f rest ih =>
    obtain ⟨k', v⟩ := f
    rw [fieldsToPlain, List.lookup_cons, List.lookup_cons, ih]
    cases k == k' <;> rfl

theorem Value.reverse_fieldsToPlain (fields : List (String × Value)) :
    (fieldsToPlain fields).reverse = fieldsToPlain fields.reverse := by
  have hmap : ∀ fs, fieldsToPlain fs = fs.map fun f => (f.1, f.2.toPlain) := by
    intro fs
    induction fs with
    | nil => rfl
    | cons f rest ih => rw [List.map_cons, ← ih]; rfl
  rw [hmap, hmap, List.map_reverse]

/-- The plain JSON of a document has its keys, each with the plain JSON of its value. -/
theorem Document.get?_toPlain {d : Document} (h : d.keys.Nodup) (k : String) :
    d.toPlain.get? k = (d.get? k).map Value.toPlain := by
  have hreverse : Document.keys d.reverse = d.keys.reverse := List.map_reverse
  have hget : Document.get? d.reverse k = d.get? k := by
    refine Option.ext fun v => ?_
    rw [get?_eq_some_iff (hreverse ▸ List.nodup_reverse.mpr h), get?_eq_some_iff h,
      List.mem_reverse]
  rw [toPlain, Json.get?_object, Value.reverse_fieldsToPlain, Value.lookup_fieldsToPlain]
  exact congrArg (Option.map Value.toPlain) hget

/-! ## Rows of pages -/

theorem takeGroups_sublist (previous : Option Value) (groups : Nat) (rows : List Document) :
    (takeGroups previous groups rows).Sublist rows := by
  induction rows generalizing previous groups with
  | nil => exact .slnil
  | cons row rest ih =>
    simp only [takeGroups]
    split
    next => exact (ih previous groups).cons_cons row
    next =>
      cases groups with
      | zero => exact List.nil_sublist _
      | succ n => exact (ih _ n).cons_cons row

theorem budget_pos_of_aggregate {records : Records} {l : Level} {stages : List Stage} {budget : Nat}
    {rows : List Document} (h : aggregate records l stages budget = .ok rows) : 0 < budget := by
  rw [aggregate] at h
  split at h
  · simp at h
  · split at h
    next => simp at h
    next hbudget => exact Nat.pos_of_ne_zero hbudget

namespace Request

variable {r : Request} {records : Records}

/-- The row of an expansion has the identifier and output columns. -/
theorem mem_of_mem_keys_outputRow {x : Expansion} {k : String} (h : k ∈ (r.outputRow x).keys) :
    k = idField ∨ k ∈ r.outputColumns := by
  obtain ⟨f, hf, rfl⟩ := Document.fst_mem_of_mem_keys_ofFields h
  rcases List.mem_append.mp hf with hf | hf
  · obtain ⟨c, hc, hmap⟩ := List.mem_filterMap.mp hf
    obtain ⟨v, -, rfl⟩ := Option.map_eq_some_iff.mp hmap
    exact (List.mem_cons.mp hc).imp_right fun hc => List.mem_append_left _ hc
  · obtain ⟨⟨name, j, c⟩, hc, hmap⟩ := List.mem_filterMap.mp hf
    obtain ⟨v, -, rfl⟩ := Option.map_eq_some_iff.mp hmap
    rw [outputColumns, joinedOutput, joinsOutput_eq, List.map_map]
    exact .inr (List.mem_append_right _ (List.mem_map_of_mem hc))

/-- As plain JSON, a row of a root record shows its identifier and output columns only. -/
theorem toPlain_of_mem_rowsOf (hr : r.Admissible) {d row : Document}
    (h : row ∈ r.rowsOf records d) :
    (∀ k, (row.toPlain.get? k).isSome → k = idField ∨ k ∈ r.outputColumns) ∧
      row.toPlain.get? idField = (d.get? idField).map Value.toPlain := by
  obtain ⟨x, hx, rfl⟩ := List.mem_map.mp h
  have hget := Document.get?_toPlain (d := r.outputRow x) (Document.nodup_keys_ofFields _)
  constructor
  · intro k hk
    rw [hget, Option.isSome_map] at hk
    exact mem_of_mem_keys_outputRow (Document.mem_keys_iff.mpr hk)
  · rw [hget, get?_outputRow_idField hr, root_of_mem_expand hx]
    rfl

/-- Every row of a page is a row of a root record that matches. -/
theorem exists_root_of_mem_page {s : Store} {budgets : Budgets} {p : Page}
    (hp : r.page s.aggregate budgets = .ok p) {row : Document} (hrow : row ∈ p.rows) :
    ∃ d ∈ r.matchingRoots s.snapshot, row ∈ r.rowsOf s.snapshot d := by
  obtain ⟨q, rows, probe, info, hcompile, hrows, -, -, rfl⟩ := page_eq_ok_iff.mp hp
  obtain ⟨hr, cursor, hcursor, rfl⟩ := compile_eq_ok_iff.mp hcompile
  have hfound := aggregate_pipelineFrom hr hcursor s (r.pageSize + 1) (budget_pos_of_aggregate hrows)
  obtain rfl := Except.ok.inj (hrows.symm.trans hfound)
  obtain ⟨d, hd, hrow⟩ := List.mem_flatMap.mp ((takeGroups_sublist _ _ _).subset hrow)
  exact ⟨d, List.mem_of_mem_take hd, hrow⟩

/-! ## Columns and rows -/

/-- A last projection that is in step with the output columns. Behind the identifier, the field in the
place of a column has its name and finds it where the request asks for it; a column of the root level
keeps its name, and so does a column of a join if and only if no earlier column has this name. -/
structure InStep (r : Request) (q : Query) (fields : List Projected) : Prop where
  last : q.pipeline.getLast? = some (.project fields)
  id : fields[0]? = some ⟨idField, .keep⟩
  length_fields : fields.length = q.columns.length + 1
  length_asked : r.askedColumns.length = q.columns.length
  column : ∀ i source c, r.askedColumns[i]? = some (source, c) →
    ∃ name, q.columns[i]? = some name ∧ fields[i + 1]? = some ⟨name, columnSource source c⟩ ∧
      (source = none → name = c) ∧ (name = c ↔ c ∉ q.columns.take i)

/-- **Columns are told apart, and rows show nothing else.** The output columns of a request that
compiles, however often it repeats columns, are different names and never the identifier's; there is
one for each different column of the root level and of each active join, and the last projection is in
step with them. Whatever the store holds, a row of a response shows the identifier of its root record
and output columns, and nothing else. -/
theorem columns_of_compile {q : Query} (h : r.compile = .ok q) :
    q.columns.Nodup ∧ idField ∉ q.columns ∧
    q.joins = r.activeJoins ∧ q.joins.Sublist Join.all ∧
    q.columns.length = r.base.columns.toFinset.card +
      (q.joins.map fun j => (r.joinColumns.get j).toFinset.card).sum ∧
    (∃ fields, r.InStep q fields) ∧
    ∀ (s : Store) (budgets : Budgets) (p : Page), r.page s.aggregate budgets = .ok p →
      p.columns = q.columns ∧
      ∀ row ∈ p.rows, (∀ k, (row.toPlain.get? k).isSome → k = idField ∨ k ∈ p.columns) ∧
        ∃ d ∈ r.matchingRoots s.snapshot, row ∈ r.rowsOf s.snapshot d ∧
          row.toPlain.get? idField = (d.get? idField).map Value.toPlain := by
  obtain ⟨hr, cursor, hcursor, rfl⟩ := compile_eq_ok_iff.mp h
  refine ⟨r.nodup_outputColumns, idField_not_mem_outputColumns hr, rfl, List.filter_sublist,
    r.length_outputColumns, ⟨r.outputFields, ?_⟩, fun s budgets p hp => ?_⟩
  · exact {
      last := List.getLast?_concat
      id := rfl
      length_fields := r.length_outputFields
      length_asked := r.length_askedColumns
      column := fun _ _ _ hasked => exists_output_of_asked hasked }
  · obtain ⟨q, _, _, _, hcompile, -, -, -, hpage⟩ := page_eq_ok_iff.mp hp
    obtain rfl := Except.ok.inj (h.symm.trans hcompile)
    have hcolumns : p.columns = r.outputColumns := by rw [hpage]
    refine ⟨hcolumns, fun row hrow => ?_⟩
    obtain ⟨d, hd, hrow⟩ := exists_root_of_mem_page hp hrow
    obtain ⟨hkeys, hid⟩ := toPlain_of_mem_rowsOf hr hrow
    rw [hcolumns]
    exact ⟨hkeys, d, hd, hrow, hid⟩

/-- A request that asks for one column at three levels, and for some columns twice. -/
def repeatedColumns : Request where
  base := { columns := ["H11", "POLYID", "H11"] }
  resultLevel := .triang
  joinColumns := .ofFun fun
    | .geom => ["H11", "H11"]
    | .triang => ["H11", "TRIANGN"]
    | _ => []

/-- A repeated column is shown once, and a column of another level gets the name of its level. -/
theorem columns_repeatedColumns :
    ∃ q, repeatedColumns.compile = .ok q ∧ q.columns.Nodup ∧
      q.columns = ["H11", "POLYID", "H11__GEOM", "H11__TRIANG", "TRIANGN"] := by
  have hcolumns : repeatedColumns.compile.toOption.map (·.columns)
      = some ["H11", "POLYID", "H11__GEOM", "H11__TRIANG", "TRIANGN"] := by decide +kernel
  cases h : repeatedColumns.compile with
  | error e => simp [h, Except.toOption] at hcolumns
  | ok q =>
    rw [h] at hcolumns
    exact ⟨q, rfl, (columns_of_compile h).1, Option.some.inj hcolumns⟩

end Request

end Strata
