import Strata.Store.Execution

/-!
# Fields of documents

What the operations on documents do to their fields, read through `get?`; which paths lead to a
field directly or to a field of a field; and what projections keep.
-/

namespace Strata

/-- Among pairs with different keys, the one of a key is found by looking the key up. -/
theorem lookup_eq_some_iff_mem {α : Type} {pairs : List (String × α)}
    (h : (pairs.map Prod.fst).Nodup) {k : String} {a : α} :
    pairs.lookup k = some a ↔ (k, a) ∈ pairs := by
  constructor
  · intro hlookup
    obtain ⟨before, after, rfl, -⟩ := List.lookup_eq_some_iff.mp hlookup
    simp
  · intro hmem
    obtain ⟨before, after, rfl⟩ := List.append_of_mem hmem
    rw [List.map_append, List.nodup_append] at h
    have hbefore : ∀ m ∈ before, k ≠ m.1 := fun m hm heq =>
      h.2.2 m.1 (List.mem_map_of_mem hm) k (by simp) heq.symm
    exact List.lookup_eq_some_iff.mpr
      ⟨before, after, rfl, fun m hm => bne_iff_ne.mpr (hbefore m hm)⟩

namespace Document

/-! ## Fields under the operations -/

@[simp] theorem get?_nil (n : String) : get? [] n = none := rfl

theorem get?_cons (k : String) (v : Value) (d : Document) (n : String) :
    get? ((k, v) :: d) n = if n = k then some v else get? d n := by
  by_cases h : n = k
  · simp [get?, h]
  · have hb : (n == k) = false := by simpa using h
    simp [get?, List.lookup_cons, h, hb]

/-- Setting a key leaves the other keys. -/
theorem get?_insert (d : Document) (k n : String) (v : Value) :
    (d.insert k v).get? n = if n = k then some v else d.get? n := by
  induction d with
  | nil => simp [insert, get?_cons]
  | cons f rest ih =>
    obtain ⟨k', w⟩ := f
    rw [insert]
    by_cases hk : k' = k
    · rw [if_pos hk, hk, get?_cons, get?_cons]
      by_cases hn : n = k <;> simp [hn]
    · rw [if_neg hk, get?_cons, get?_cons, ih]
      by_cases hn : n = k
      · have hkn : n ≠ k' := fun h => hk (h.symm.trans hn)
        rw [if_neg hkn, if_pos hn, if_pos hn]
      · rw [if_neg hn, if_neg hn]

@[simp] theorem get?_insert_self (d : Document) (k : String) (v : Value) :
    (d.insert k v).get? k = some v := by
  rw [get?_insert, if_pos rfl]

theorem get?_insert_of_ne (d : Document) {k n : String} (v : Value) (h : n ≠ k) :
    (d.insert k v).get? n = d.get? n := by
  rw [get?_insert, if_neg h]

/-- Erasing a key leaves the other keys. -/
theorem get?_erase (d : Document) (k n : String) :
    (d.erase k).get? n = if n = k then none else d.get? n := by
  induction d with
  | nil => simp [erase]
  | cons f rest ih =>
    obtain ⟨k', w⟩ := f
    by_cases hk : k' = k
    · have hstep : erase ((k', w) :: rest) k = erase rest k := by simp [erase, hk]
      rw [hstep, ih, get?_cons, hk]
      by_cases hn : n = k <;> simp [hn]
    · have hstep : erase ((k', w) :: rest) k = (k', w) :: erase rest k := by simp [erase, hk]
      rw [hstep, get?_cons, ih, get?_cons]
      by_cases hn : n = k
      · have hkn : n ≠ k' := fun h => hk (h.symm.trans hn)
        rw [if_neg hkn, if_pos hn, if_pos hn]
      · rw [if_neg hn, if_neg hn]

@[simp] theorem get?_erase_self (d : Document) (k : String) : (d.erase k).get? k = none := by
  rw [get?_erase, if_pos rfl]

theorem get?_erase_of_ne (d : Document) {k n : String} (h : n ≠ k) :
    (d.erase k).get? n = d.get? n := by
  rw [get?_erase, if_neg h]

/-- Of fields put in one after the other, the last of a key counts. -/
theorem get?_ofFields (fields : List (String × Value)) (n : String) :
    (ofFields fields).get? n = fields.reverse.lookup n := by
  suffices h : ∀ d : Document, (fields.foldl (fun d f => insert d f.1 f.2) d).get? n
      = (fields.reverse.lookup n).or (d.get? n) by
    simpa [ofFields] using h []
  induction fields with
  | nil => simp
  | cons f rest ih =>
    intro d
    rw [List.foldl_cons, ih, get?_insert, List.reverse_cons, List.lookup_append]
    have hsingle : List.lookup n [f] = if n = f.1 then some f.2 else none :=
      get?_cons f.1 f.2 [] n
    rw [hsingle]
    by_cases hn : n = f.1 <;> cases rest.reverse.lookup n <;> simp [hn]

/-- Fields made of some things have no key that is the name of none of them. -/
theorem lookup_reverse_filterMap_eq_none {α : Type} {name : α → String} {value : α → Option Value}
    {as : List α} {n : String} (h : ∀ a ∈ as, name a ≠ n) :
    (as.filterMap fun a => (value a).map fun v => (name a, v)).reverse.lookup n = none := by
  rw [List.lookup_eq_none_iff]
  intro f hf
  rw [List.mem_reverse, List.mem_filterMap] at hf
  obtain ⟨a, ha, hmap⟩ := hf
  obtain ⟨v, -, rfl⟩ := Option.map_eq_some_iff.mp hmap
  simpa using (h a ha).symm

end Document

/-! ## Splitting -/

namespace Text

theorem split_of_not_mem {c : Char} {cs : List Char} (h : c ∉ cs) : split c cs = [cs] := by
  induction cs with
  | nil => rfl
  | cons d rest ih =>
    rw [List.mem_cons, not_or] at h
    rw [split, if_neg (Ne.symm h.1), ih h.2]

/-- A piece without separators in front of a separator is the first piece. -/
theorem split_append {c : Char} {cs : List Char} (h : c ∉ cs) (rest : List Char) :
    split c (cs ++ c :: rest) = cs :: split c rest := by
  induction cs with
  | nil => simp [split]
  | cons d tail ih =>
    rw [List.mem_cons, not_or] at h
    rw [List.cons_append, split, if_neg (Ne.symm h.1), ih h.2]

end Text

/-! ## Paths of one and of two fields -/

/-- A name that paths can use as a segment: neither empty, nor long, nor with a dot. -/
structure IsSegment (name : String) : Prop where
  ne_empty : name ≠ ""
  no_dot : '.' ∉ name.toList
  short : name.utf8ByteSize ≤ 32

instance (name : String) : Decidable (IsSegment name) :=
  decidable_of_iff (name ≠ "" ∧ '.' ∉ name.toList ∧ name.utf8ByteSize ≤ 32)
    ⟨fun ⟨a, b, c⟩ => ⟨a, b, c⟩, fun ⟨a, b, c⟩ => ⟨a, b, c⟩⟩

theorem IsSegment.pathSegments {name : String} (h : IsSegment name) :
    pathSegments? name = some [name] := by
  have hbounds : ¬ ((name.isEmpty || decide (maxPathBytes < name.utf8ByteSize)) = true) := by
    have hshort := h.short
    simp only [Bool.or_eq_true, String.isEmpty_iff, decide_eq_true_eq, not_or, Nat.not_lt]
    exact ⟨h.ne_empty, by simp only [maxPathBytes]; omega⟩
  rw [pathSegments?, if_neg hbounds, Text.split_of_not_mem h.no_dot]
  simp [maxPathDepth]

/-- Two segments with a dot between them. -/
theorem IsSegment.pathSegments_append {a b : String} (ha : IsSegment a) (hb : IsSegment b) :
    pathSegments? (a ++ "." ++ b) = some [a, b] := by
  have hbounds : ¬ (((a ++ "." ++ b).isEmpty ||
      decide (maxPathBytes < (a ++ "." ++ b).utf8ByteSize)) = true) := by
    have hsize : (a ++ "." ++ b).utf8ByteSize = a.utf8ByteSize + 1 + b.utf8ByteSize := by
      rw [String.utf8ByteSize_append, String.utf8ByteSize_append]
      rfl
    have hshort := ha.short
    have hshort' := hb.short
    simp only [Bool.or_eq_true, String.isEmpty_iff, decide_eq_true_eq, not_or, hsize,
      String.append_eq_empty_iff, Nat.not_lt]
    exact ⟨fun h => ha.ne_empty h.1.1, by simp only [maxPathBytes]; omega⟩
  have hchars : (a ++ "." ++ b).toList = a.toList ++ '.' :: b.toList := by simp
  rw [pathSegments?, if_neg hbounds, hchars, Text.split_append ha.no_dot,
    Text.split_of_not_mem hb.no_dot]
  simp [maxPathDepth]

namespace Document

theorem getPath?_of_isSegment {name : String} (h : IsSegment name) (d : Document) :
    d.getPath? name = d.get? name := by
  simp [getPath?, h.pathSegments, getAt?]

/-- A path of two segments reads a field of a document in a field. -/
theorem getPath?_append {a b : String} (ha : IsSegment a) (hb : IsSegment b) (d : Document) :
    d.getPath? (a ++ "." ++ b)
      = match d.get? a with
        | some (.document e) => get? e b
        | _ => none := by
  cases hd : d.get? a with
  | none => simp [getPath?, ha.pathSegments_append hb, getAt?, hd]
  | some v => cases v <;> simp [getPath?, ha.pathSegments_append hb, getAt?, hd]

end Document

namespace Value

theorem resolveField_eq (head : String) (tail : List String) (d : Document) :
    resolveField head tail d = (d.get? head).bind (resolveIn tail) := by
  induction d with
  | nil => simp [resolveField]
  | cons f rest ih =>
    obtain ⟨k, v⟩ := f
    rw [resolveField, Document.get?_cons]
    by_cases h : k = head
    · rw [if_pos h, if_pos h.symm, Option.bind_some]
    · rw [if_neg h, if_neg (Ne.symm h), ih]

@[simp] theorem resolveIn_nil (v : Value) : resolveIn [] v = some v := by
  cases v <;> simp [resolveIn]

theorem resolveItems_documents (head : String) (ds : List Document) :
    resolveItems [head] (ds.map Value.document) = ds.filterMap fun d => d.get? head := by
  induction ds with
  | nil => simp [resolveItems]
  | cons d rest ih =>
    rw [List.map_cons, resolveItems, ih, resolveIn, resolveField_eq]
    cases h : d.get? head with
    | none => simp [h]
    | some v => simp [h]

theorem candidatesOfField_eq (head : String) (tail : List String) (d : Document) :
    candidatesOfField head tail d = match d.get? head with
      | some v => candidatesIn tail v
      | none => [] := by
  induction d with
  | nil => rfl
  | cons f rest ih =>
    obtain ⟨k, v⟩ := f
    rw [candidatesOfField, Document.get?_cons]
    by_cases h : k = head
    · rw [if_pos h, if_pos h.symm]
    · rw [if_neg h, if_neg (Ne.symm h), ih]

end Value

namespace Document

/-- A path of two segments computes a field of a document in a field, and of a list of documents the
list of the fields that are there. -/
theorem resolve?_append {a b : String} (ha : IsSegment a) (hb : IsSegment b) (d : Document) :
    d.resolve? (a ++ "." ++ b) = (d.get? a).bind (Value.resolveIn [b]) := by
  simp only [resolve?, ha.pathSegments_append hb, Value.resolveField_eq]

theorem candidates_of_isSegment {name : String} (h : IsSegment name) (d : Document) :
    d.candidates name = match d.get? name with
      | some v => Value.candidatesIn [] v
      | none => [] := by
  simp only [candidates, h.pathSegments, Value.candidatesOfField_eq]

end Document

/-! ## Projections -/

theorem projectRow_keep (names : List String) (row : Document) :
    projectRow (names.map fun n => ⟨n, .keep⟩) row
      = Document.ofFields (names.filterMap fun n => (row.getPath? n).map fun v => (n, v)) := by
  rw [projectRow, List.filterMap_map]
  rfl

/-- A projection that keeps fields has those of them that the row has. -/
theorem get?_projectRow_keep {names : List String} (hnames : ∀ n ∈ names, IsSegment n)
    (row : Document) (n : String) :
    (projectRow (names.map fun n => ⟨n, .keep⟩) row).get? n
      = if n ∈ names then row.get? n else none := by
  have hlookup : ∀ ms : List String, (∀ m ∈ ms, IsSegment m) →
      List.lookup n (ms.filterMap fun m => (row.getPath? m).map fun v => (m, v))
        = if n ∈ ms then row.get? n else none := by
    intro ms hms
    induction ms with
    | nil => simp
    | cons m rest ih =>
      have ih := ih fun m' hm' => hms m' (by simp [hm'])
      rw [List.filterMap_cons, Document.getPath?_of_isSegment (hms m (by simp))]
      cases hv : row.get? m with
      | none =>
        simp only [Option.map_none, ih, List.mem_cons]
        by_cases hnm : n = m <;> simp [hnm, hv]
      | some v =>
        have hcons : ∀ l : List (String × Value),
            List.lookup n ((m, v) :: l) = if n = m then some v else List.lookup n l :=
          fun l => Document.get?_cons m v l n
        simp only [Option.map_some, hcons, ih, List.mem_cons]
        by_cases hnm : n = m <;> simp [hnm, hv]
  rw [projectRow_keep, Document.get?_ofFields, ← List.filterMap_reverse,
    hlookup _ fun m hm => hnames m (List.mem_reverse.mp hm)]
  simp only [List.mem_reverse]

end Strata
