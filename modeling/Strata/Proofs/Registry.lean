import Strata.Proofs.Documents
import Strata.Registry.Field

/-!
# What the allowlist guarantees

Every name of the allowlist is a plain segment of a path, does not start like the identifier and
differs from the fields that list joined rows. Sort fields and own keys are columns. The variables of
the correlations of a join have different names.
-/

namespace Strata

theorem isSegment_idField : IsSegment idField := by decide

theorem Join.isSegment_listField (j : Join) : IsSegment j.listField := by
  cases j <;> decide

theorem Join.listField_injective {j k : Join} (h : j.listField = k.listField) : j = k := by
  revert h
  cases j <;> cases k <;> decide

namespace Level

theorem isColumn_iff {l : Level} {c : String} : l.isColumn c = true ↔ c ∈ l.columns := by
  simp [isColumn]

theorem isSegment_of_mem_columns {l : Level} {c : String} (h : c ∈ l.columns) : IsSegment c := by
  revert c
  cases l <;> decide

/-- A column is told from the identifier by its first character. -/
theorem head?_ne_of_mem_columns {l : Level} {c : String} (h : c ∈ l.columns) :
    c.toList.head? ≠ idField.toList.head? := by
  revert c
  cases l <;> decide

theorem ne_idField_of_mem_columns {l : Level} {c : String} (h : c ∈ l.columns) : c ≠ idField :=
  fun hc => head?_ne_of_mem_columns h (by rw [hc])

theorem ne_listField_of_mem_columns {l : Level} {c : String} (h : c ∈ l.columns) (j : Join) :
    c ≠ j.listField := by
  revert c
  cases l <;> cases j <;> decide

theorem mem_columns_of_mem_sortable {l : Level} {c : String} (h : c ∈ l.sortable) :
    c ∈ l.columns := by
  revert c
  cases l <;> decide

theorem rootKey_mem_columns (l : Level) : rootKey ∈ l.columns := by
  cases l <;> decide

end Level

namespace Join

theorem mem_columns_of_mem_sortFields {j : Join} {c : String} (h : c ∈ j.sortFields) :
    c ∈ j.level.columns := by
  revert c
  cases j <;> decide

/-- The sort of a join when a request names none is allowed. -/
theorem defaultSort_mem_sortFields (j : Join) : j.defaultSort ∈ j.sortFields := by
  cases j <;> decide

theorem mem_columns_of_mem_ownKeys {j : Join} {c : String} (h : c ∈ j.ownKeys) :
    c ∈ j.level.columns := by
  revert c
  cases j <;> decide

/-- A joined row keeps the fields by which it belongs to the rows above it. -/
theorem field_mem_ownKeys {j : Join} {k : Correlation} (h : k ∈ j.correlation) :
    k.field ∈ j.ownKeys := by
  revert k
  cases j <;> decide

/-- The index by which the rows below a row are tied to it is among the keys that it keeps. -/
theorem localIndex_mem_ownKeys {j : Join} {index : String} (h : j.localIndex? = some index) :
    index ∈ j.ownKeys := by
  revert index
  cases j <;> decide

theorem mem_all (j : Join) : j ∈ all := by
  cases j <;> decide

theorem mem_path_self (j : Join) : j ∈ j.path := by
  simp [path]

/-- The variables of a join have different names. -/
theorem nodup_correlation_vars (j : Join) : (j.correlation.map (·.var)).Nodup := by
  cases j <;> decide

end Join

end Strata
