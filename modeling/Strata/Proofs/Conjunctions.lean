import Strata.Proofs.Legibility

/-!
# Conjunctions keep every clause

A condition is a tree with conjunctions inside and tests at its leaves. Each leaf is written as one
entry. A conjunction is written as one document of entries where their keys differ, and otherwise as
a list of documents under a key of its own, at every level of the tree anew. Whoever reads the entries
in order, and the listed documents of such a key in its place, reads the entries of the leaves from
left to right: none is lost, none is doubled, and none has replaced another one.
-/

namespace Strata

/-! ## Reading documents -/

namespace Document

mutual

/-- The clauses that a document states, entry by entry; none if a conjunction is not a list of
documents. -/
def clauses? : Document → Option Document
  | [] => some []
  | (k, v) :: rest => do
    let front ← clausesOfField? k v
    let back ← clauses? rest
    return front ++ back

/-- The clauses of an entry: those of the listed documents for a conjunction, else the entry. -/
def clausesOfField? (k : String) : Value → Option Document
  | .array items => if k = "$and" then clausesOfItems? items else some [(k, .array items)]
  | v => if k = "$and" then none else some [(k, v)]

/-- The clauses of listed documents. -/
def clausesOfItems? : List Value → Option Document
  | [] => some []
  | .document d :: rest => do
    let front ← clauses? d
    let back ← clausesOfItems? rest
    return front ++ back
  | _ :: _ => none

end

theorem clausesOfField?_of_ne {k : String} (h : k ≠ "$and") (v : Value) :
    clausesOfField? k v = some [(k, v)] := by
  cases v <;> simp [clausesOfField?, h]

/-- Documents side by side state what the one states, and then what the other states. -/
theorem clauses?_append (d e : Document) :
    clauses? (d ++ e) = (do return (← clauses? d) ++ (← clauses? e)) := by
  induction d with
  | nil => cases h : clauses? e <;> simp [clauses?, h]
  | cons f rest ih =>
    obtain ⟨k, v⟩ := f
    rw [List.cons_append, clauses?, clauses?, ih]
    cases clausesOfField? k v with
    | none => rfl
    | some front =>
      cases clauses? rest with
      | none => rfl
      | some back => cases clauses? e <;> simp

/-- A list of documents states what they state side by side. -/
theorem clausesOfItems?_eq (ds : List Document) :
    clausesOfItems? (ds.map .document) = clauses? ds.flatten := by
  induction ds with
  | nil => rw [List.map_nil, clausesOfItems?, List.flatten_nil, clauses?]
  | cons d rest ih => rw [List.map_cons, clausesOfItems?, ih, List.flatten_cons, clauses?_append]

/-- In whichever of the two forms a conjunction is written, it states what its parts state. -/
theorem clauses?_mergeConditions (ds : List Document) :
    clauses? (mergeConditions ds) = clauses? ds.flatten := by
  rcases mergeConditions_cases ds with h | h
  · rw [h]
  · rw [h, clauses?, clausesOfField?, if_pos rfl, clausesOfItems?_eq, clauses?]
    cases clauses? ds.flatten <;> simp

/-- Entries that are no conjunctions are read as they stand. -/
theorem clauses?_eq_self {d : Document} (h : ∀ f ∈ d, f.1 ≠ "$and") : clauses? d = some d := by
  induction d with
  | nil => rw [clauses?]
  | cons f rest ih =>
    obtain ⟨hf, hrest⟩ := List.forall_mem_cons.mp h
    obtain ⟨k, v⟩ := f
    rw [clauses?, clausesOfField?_of_ne hf, ih hrest]
    rfl

end Document

/-! ## Leaves -/

namespace Predicate

mutual

/-- The conditions of a tree that are no conjunctions, from left to right. -/
def leaves : Predicate → List Predicate
  | all parts => leavesOfParts parts
  | compare path op value => [compare path op value]
  | oneOf path values => [oneOf path values]
  | pattern path text ignoreCase => [pattern path text ignoreCase]
  | correlate pairs => [correlate pairs]

/-- The leaves of the parts of a conjunction, part by part. -/
def leavesOfParts : List Predicate → List Predicate
  | [] => []
  | p :: rest => leaves p ++ leavesOfParts rest

end

/-- No leaf tests a path that starts with a dollar sign. -/
def HasPlainPaths (p : Predicate) : Prop :=
  ∀ leaf ∈ p.leaves, ∀ path, leaf.field? = some path → path.toList.head? ≠ some '$'

mutual

/-- A leaf is a test of one path or a correlation. -/
theorem mem_leaves_cases {p leaf : Predicate} (h : leaf ∈ p.leaves) :
    leaf.field?.isSome ∨ ∃ pairs, leaf = correlate pairs := by
  cases p with
  | all parts =>
    rw [leaves] at h
    exact mem_leavesOfParts_cases h
  | compare | oneOf | pattern =>
    rw [leaves, List.mem_singleton] at h
    exact .inl (h ▸ rfl)
  | correlate pairs =>
    rw [leaves, List.mem_singleton] at h
    exact .inr ⟨pairs, h⟩

theorem mem_leavesOfParts_cases {parts : List Predicate} {leaf : Predicate}
    (h : leaf ∈ leavesOfParts parts) : leaf.field?.isSome ∨ ∃ pairs, leaf = correlate pairs := by
  match parts with
  | [] =>
    rw [leavesOfParts] at h
    exact absurd h List.not_mem_nil
  | p :: rest =>
    rw [leavesOfParts, List.mem_append] at h
    rcases h with h | h
    · exact mem_leaves_cases h
    · exact mem_leavesOfParts_cases h

end

mutual

/-- The document of a tree states what the documents of its leaves state side by side. -/
theorem clauses?_toDocument (p : Predicate) :
    p.toDocument.clauses? = Document.clauses? (p.leaves.flatMap toDocument) := by
  cases p with
  | all parts =>
    rw [toDocument, Document.clauses?_mergeConditions, leaves]
    exact clauses?_flatten_partDocuments parts
  | compare | oneOf | pattern | correlate =>
    rw [leaves, List.flatMap_singleton]

theorem clauses?_flatten_partDocuments (parts : List Predicate) :
    Document.clauses? (partDocuments parts).flatten
      = Document.clauses? ((leavesOfParts parts).flatMap toDocument) := by
  match parts with
  | [] => rw [partDocuments, leavesOfParts, List.flatten_nil, List.flatMap_nil]
  | p :: rest =>
    rw [partDocuments, leavesOfParts, List.flatten_cons, List.flatMap_append,
      Document.clauses?_append, Document.clauses?_append, clauses?_toDocument p,
      clauses?_flatten_partDocuments rest]

end

/-- A leaf is written as one entry, and not as a conjunction if its path does not start with a dollar
sign. -/
theorem exists_toDocument_of_mem_leaves {p leaf : Predicate} (h : leaf ∈ p.leaves) :
    ∃ k v, leaf.toDocument = [(k, v)] ∧ (p.HasPlainPaths → k ≠ "$and") := by
  rcases mem_leaves_cases h with hfield | ⟨pairs, rfl⟩
  · obtain ⟨path, hpath⟩ := Option.isSome_iff_exists.mp hfield
    obtain ⟨v, hv⟩ := exists_toDocument hpath
    refine ⟨path, v, hv, ?_⟩
    intro hplain hand
    apply hplain leaf h path hpath
    rw [hand]
    rfl
  · obtain ⟨v, hv⟩ := exists_toDocument_correlate pairs
    exact ⟨"$expr", v, hv, fun _ => by decide⟩

/-- **A written conjunction keeps every clause.** If no path starts with a dollar sign, the document
of a tree of conditions reads as a list of entries, and these are the entries of the leaves, one for
each leaf, from left to right. -/
theorem clauses_of_plainPaths {p : Predicate} (h : p.HasPlainPaths) :
    ∃ entries, p.toDocument.clauses? = some entries ∧
      entries.map (fun entry => [entry]) = p.leaves.map toDocument := by
  refine ⟨p.leaves.flatMap toDocument, ?_, ?_⟩
  · rw [clauses?_toDocument]
    apply Document.clauses?_eq_self
    intro entry hentry
    obtain ⟨leaf, hleaf, hentry⟩ := List.mem_flatMap.mp hentry
    obtain ⟨k, v, hdocument, hk⟩ := exists_toDocument_of_mem_leaves hleaf
    rw [hdocument, List.mem_singleton] at hentry
    rw [hentry]
    exact hk h
  · rw [List.map_flatMap, List.map_eq_flatMap]
    apply List.flatMap_congr
    intro leaf hleaf
    obtain ⟨k, v, hdocument, -⟩ := exists_toDocument_of_mem_leaves hleaf
    rw [hdocument, List.map_singleton]

/-- A tree that tests one field four times, in two inner conjunctions, and has two correlations. -/
def crowdedTree : Predicate :=
  .all [
    .all [.compare "H11" .gte (.int32 2),
      .all [.compare "H11" .lt (.int32 9), .oneOf "H21" [.int32 1, .int64 2]]],
    .correlate [("POLYID", "polyid")],
    .all [.compare "H11" .ne (.int32 4), .pattern "H11" "1" true],
    .correlate [("POLYID", "polyid"), ("GEOMN", "geomn")]]

/-- Both inner conjunctions are written as lists under one key, the innermost one is merged, and all
seven clauses are read. -/
theorem clauses_crowdedTree :
    crowdedTree.HasPlainPaths ∧
    (∃ items, crowdedTree.toDocument = [("$and", .array items)] ∧ items.length = 4) ∧
    ∃ entries, Document.clauses? crowdedTree.toDocument = some entries ∧
      entries.map (·.1) = ["H11", "H11", "H21", "$expr", "H11", "H11", "$expr"] := by
  have hplain : crowdedTree.HasPlainPaths := by
    intro leaf hleaf path hpath
    simp only [crowdedTree, leaves, leavesOfParts, List.append_nil, List.cons_append,
      List.nil_append, List.mem_cons, List.not_mem_nil, or_false] at hleaf
    rcases hleaf with rfl | rfl | rfl | rfl | rfl | rfl | rfl <;> cases hpath <;> decide
  obtain ⟨entries, hread, hentries⟩ := clauses_of_plainPaths hplain
  refine ⟨hplain, ⟨_, rfl, rfl⟩, entries, hread, ?_⟩
  have hkeys : entries.map (·.1) = (crowdedTree.leaves.map toDocument).flatMap Document.keys := by
    rw [← hentries, List.flatMap_map, List.map_eq_flatMap]
    rfl
  rw [hkeys]
  rfl

end Predicate

end Strata
