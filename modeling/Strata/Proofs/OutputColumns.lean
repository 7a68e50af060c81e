import Strata.Proofs.Compilation
import Strata.Proofs.NestedLoop

/-!
# Output columns

Dropping repetitions keeps the elements. The name of an output column is that of the column it shows,
perhaps with something behind it, so it is never the identifier's.
-/

namespace Strata

theorem mem_firstOccurrences {seen cs : List String} {c : String} :
    c ∈ firstOccurrences seen cs ↔ c ∈ cs ∧ c ∉ seen := by
  induction cs generalizing seen with
  | nil => simp [firstOccurrences]
  | cons d rest ih =>
    rw [firstOccurrences]
    by_cases hd : d ∈ seen
    · rw [if_pos (by simpa using hd), ih]
      constructor
      · exact fun ⟨hc, hseen⟩ => ⟨.tail d hc, hseen⟩
      · rintro ⟨hc, hseen⟩
        rcases List.mem_cons.mp hc with rfl | hc
        · exact absurd hd hseen
        · exact ⟨hc, hseen⟩
    · rw [if_neg (by simpa using hd), List.mem_cons, List.mem_cons, ih, List.mem_cons, not_or]
      constructor
      · rintro (rfl | ⟨hc, -, hseen⟩)
        · exact ⟨.inl rfl, hd⟩
        · exact ⟨.inr hc, hseen⟩
      · rintro ⟨rfl | hc, hseen⟩
        · exact .inl rfl
        · by_cases hcd : c = d
          · exact .inl hcd
          · exact .inr ⟨hc, hcd, hseen⟩

/-! ## Names -/

theorem exists_numberedName_eq (name : String) (claimed : List String) (i n : Nat) :
    ∃ j : Nat, numberedName name claimed i n = name ++ "_" ++ toString j := by
  induction n generalizing i with
  | zero => exact ⟨i, rfl⟩
  | succ n ih =>
    simp only [numberedName]
    split
    · exact ih (i + 1)
    · exact ⟨i, rfl⟩

/-- A name is made free by putting something behind it. -/
theorem disambiguate_eq_append (name : String) (level : Level) (claimed : List String) :
    ∃ suffix, disambiguate name level claimed = name ++ suffix := by
  simp only [disambiguate]
  split
  · exact ⟨"", by rw [String.append_empty]⟩
  · split
    · exact ⟨"__" ++ level.name, by rw [String.append_assoc]⟩
    · obtain ⟨j, h⟩ :=
        exists_numberedName_eq (name ++ "__" ++ level.name) claimed 2 claimed.length
      exact ⟨"__" ++ level.name ++ "_" ++ toString j, by rw [h]; simp only [String.append_assoc]⟩

theorem mem_joinOutput {j : Join} {claimed cs : List String} {name c : String}
    (h : (name, c) ∈ joinOutput j claimed cs) : c ∈ cs ∧ ∃ suffix, name = c ++ suffix := by
  induction cs generalizing claimed with
  | nil => simp [joinOutput] at h
  | cons d rest ih =>
    simp only [joinOutput, List.mem_cons, Prod.mk.injEq] at h
    rcases h with ⟨rfl, rfl⟩ | h
    · exact ⟨List.mem_cons_self, disambiguate_eq_append c j.level claimed⟩
    · exact ⟨.tail d (ih h).1, (ih h).2⟩

namespace Request

/-- The output fields of joins read the columns under the fields of their levels. -/
theorem joinsOutput_eq (columns : Join → List String) (claimed : List String) (js : List Join) :
    joinsOutput columns claimed js = (namedColumns columns claimed js).map fun (name, j, c) =>
      ⟨name, .path (j.listField ++ "." ++ c)⟩ := by
  induction js generalizing claimed with
  | nil => rfl
  | cons j rest ih =>
    rw [joinsOutput, namedColumns, ih, List.map_append, List.map_map]
    rfl

theorem mem_namedColumns {columns : Join → List String} {claimed : List String} {js : List Join}
    {name c : String} {j : Join} (h : (name, j, c) ∈ namedColumns columns claimed js) :
    c ∈ columns j ∧ ∃ suffix, name = c ++ suffix := by
  induction js generalizing claimed with
  | nil => simp [namedColumns] at h
  | cons k rest ih =>
    rw [namedColumns, List.mem_append, List.mem_map] at h
    rcases h with ⟨⟨name', c'⟩, hmem, heq⟩ | h
    · simp only [Prod.mk.injEq] at heq
      obtain ⟨rfl, rfl, rfl⟩ := heq
      obtain ⟨hc, hsuffix⟩ := mem_joinOutput hmem
      exact ⟨(mem_firstOccurrences.mp hc).1, hsuffix⟩
    · exact ih h

/-- No output column of a join is named like the identifier. -/
theorem ne_idField_of_mem_namedColumns {r : Request} (hr : r.Admissible) {claimed : List String}
    {js : List Join} {name c : String} {j : Join}
    (h : (name, j, c) ∈ namedColumns r.joinColumns.get claimed js) : name ≠ idField := by
  obtain ⟨hc, suffix, rfl⟩ := mem_namedColumns h
  have hcolumn := hr.join_columns j c hc
  have hhead := Level.head?_ne_of_mem_columns hcolumn
  have hne := (Level.isSegment_of_mem_columns hcolumn).ne_empty
  intro heq
  -- the name begins like its column, and no column begins like the identifier's field
  apply hhead
  rw [← heq, String.toList_append]
  cases hcs : c.toList with
  | nil => exact absurd (String.toList_eq_nil_iff.mp hcs) hne
  | cons a rest => rfl

theorem mem_baseOutput {r : Request} {c : String} : c ∈ r.baseOutput ↔ c ∈ r.base.columns := by
  simp [baseOutput, mem_firstOccurrences]

end Request

end Strata
