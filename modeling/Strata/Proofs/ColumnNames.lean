import Mathlib.Algebra.GroupWithZero.Nat
import Mathlib.Data.Finset.Card
import Mathlib.Data.Finset.Dedup
import Strata.Proofs.FreeNames
import Strata.Proofs.OutputColumns

/-!
# Names of output columns

The name that is made of a column's is free. So the columns of the joins get names one after the other
that are different from each other and from those of the root level, and a column keeps its own name if
and only if no column before it has it.
-/

namespace Strata

/-! ## Dropping repetitions -/

theorem firstOccurrences_eq_eraseDups (seen cs : List String) :
    firstOccurrences seen cs = (cs.filter fun c => !seen.contains c).eraseDups := by
  induction cs generalizing seen with
  | nil => rfl
  | cons c rest ih =>
    rw [firstOccurrences, ih, ih, List.filter_cons]
    by_cases hc : c ∈ seen
    · simp [hc]
    · simp only [List.contains_eq_mem, hc, decide_false, Bool.not_false, if_true,
        Bool.false_eq_true, if_false, List.eraseDups_cons, List.filter_filter]
      congr 2
      refine List.filter_congr fun d _ => ?_
      by_cases hdc : d = c <;> simp [hdc]

theorem firstOccurrences_nil (cs : List String) : firstOccurrences [] cs = cs.eraseDups := by
  have hall : cs.filter (fun c => !([] : List String).contains c) = cs :=
    List.filter_eq_self.mpr fun _ _ => rfl
  rw [firstOccurrences_eq_eraseDups, hall]

theorem nodup_firstOccurrences (seen cs : List String) : (firstOccurrences seen cs).Nodup := by
  induction cs generalizing seen with
  | nil => exact List.nodup_nil
  | cons c rest ih =>
    rw [firstOccurrences]
    split
    · exact ih seen
    · refine List.nodup_cons.mpr ⟨fun hc => ?_, ih _⟩
      exact (mem_firstOccurrences.mp hc).2 List.mem_cons_self

/-- Without repetitions there are as many elements as different ones. -/
theorem length_eraseDups (cs : List String) : cs.eraseDups.length = cs.toFinset.card := by
  have hnodup : cs.eraseDups.Nodup := firstOccurrences_nil cs ▸ nodup_firstOccurrences [] cs
  rw [← List.toFinset_card_of_nodup hnodup]
  congr 1
  ext c
  rw [List.mem_toFinset, List.mem_toFinset, List.mem_eraseDups]

/-! ## Columns one after the other -/

/-- Names for columns of joins one after the other: the name of each, its join, and its column. -/
def nameColumns (claimed : List String) : List (Join × String) → List (String × Join × String)
  | [] => []
  | (j, c) :: rest =>
    let name := disambiguate c j.level claimed
    (name, j, c) :: nameColumns (name :: claimed) rest

theorem nameColumns_append (claimed : List String) (a b : List (Join × String)) :
    nameColumns claimed (a ++ b) = nameColumns claimed a ++
      nameColumns (((nameColumns claimed a).map (·.1)).reverse ++ claimed) b := by
  induction a generalizing claimed with
  | nil => rfl
  | cons column rest ih =>
    obtain ⟨j, c⟩ := column
    simp only [List.cons_append, nameColumns, ih, List.map_cons, List.reverse_cons,
      List.append_assoc, List.nil_append]

theorem map_joinOutput (j : Join) (claimed cs : List String) :
    (joinOutput j claimed cs).map (fun (name, c) => (name, j, c))
      = nameColumns claimed (cs.map fun c => (j, c)) := by
  induction cs generalizing claimed with
  | nil => rfl
  | cons c rest ih => simp only [joinOutput, List.map_cons, nameColumns, ih]

/-- Naming the columns join by join is naming all of them one after the other. -/
theorem Request.namedColumns_eq (columns : Join → List String) (claimed : List String)
    (js : List Join) :
    namedColumns columns claimed js
      = nameColumns claimed (js.flatMap fun j => (columns j).eraseDups.map fun c => (j, c)) := by
  induction js generalizing claimed with
  | nil => rfl
  | cons j rest ih =>
    have hnames : (joinOutput j claimed (columns j).eraseDups).map (·.1)
        = (nameColumns claimed ((columns j).eraseDups.map fun c => (j, c))).map (·.1) := by
      rw [← map_joinOutput, List.map_map]
      rfl
    rw [namedColumns, firstOccurrences_nil, map_joinOutput, hnames, ih, List.flatMap_cons,
      nameColumns_append]

section Names

variable {claimed : List String} {columns : List (Join × String)}

theorem map_snd_nameColumns (claimed : List String) (columns : List (Join × String)) :
    (nameColumns claimed columns).map (·.2) = columns := by
  induction columns generalizing claimed with
  | nil => rfl
  | cons column rest ih => simp only [nameColumns, List.map_cons, ih]

theorem length_nameColumns (claimed : List String) (columns : List (Join × String)) :
    (nameColumns claimed columns).length = columns.length := by
  have hlength := congrArg List.length (map_snd_nameColumns claimed columns)
  rwa [List.length_map] at hlength

/-- The names are different from each other and from the taken ones. -/
theorem nodup_append_nameColumns (h : claimed.Nodup) :
    (claimed ++ (nameColumns claimed columns).map (·.1)).Nodup := by
  induction columns generalizing claimed with
  | nil => simpa [nameColumns] using h
  | cons column rest ih =>
    obtain ⟨j, c⟩ := column
    have hcons := List.nodup_cons.mpr ⟨disambiguate_not_mem c j.level claimed, h⟩
    refine (List.perm_middle.nodup_iff).mpr ?_
    exact ih hcons

/-- A column keeps its own name if and only if neither a taken name nor one before it is this. -/
theorem nameColumns_eq_self_iff {i : Nat} {name c : String} {j : Join}
    (h : (nameColumns claimed columns)[i]? = some (name, j, c)) :
    name = c ↔ c ∉ claimed ++ ((nameColumns claimed columns).map (·.1)).take i := by
  induction columns generalizing claimed i with
  | nil => simp [nameColumns] at h
  | cons column rest ih =>
    obtain ⟨k, d⟩ := column
    cases i with
    | zero =>
      simp only [nameColumns, List.getElem?_cons_zero, Option.some.injEq, Prod.mk.injEq] at h
      obtain ⟨rfl, -, rfl⟩ := h
      rw [List.take_zero, List.append_nil]
      exact disambiguate_eq_self_iff
    | succ i =>
      simp only [nameColumns, List.getElem?_cons_succ] at h
      rw [ih h]
      simp only [nameColumns, List.map_cons, List.take_succ_cons, List.mem_append, List.mem_cons]
      tauto

end Names

/-! ## The columns of a request -/

namespace Request

variable {r : Request}

/-- The columns that a request asks for, without repetitions: those of the root level as the request
gives them, then those of the active joins in the order of the levels. -/
def askedColumns (r : Request) : List (Option Join × String) :=
  r.base.columns.eraseDups.map (fun c => (none, c)) ++
    r.activeJoins.flatMap fun j => (r.joinColumns.get j).eraseDups.map fun c => (some j, c)

/-- Where the last projection finds a column: in the root record, or in what is joined at a level. -/
def columnSource : Option Join → String → Source
  | none, _ => .keep
  | some j, c => .path (j.listField ++ "." ++ c)

theorem baseOutput_eq (r : Request) : r.baseOutput = r.base.columns.eraseDups :=
  firstOccurrences_nil _

/-- The columns of the active joins. -/
def joinedColumns (r : Request) : List (Join × String) :=
  r.activeJoins.flatMap fun j => (r.joinColumns.get j).eraseDups.map fun c => (j, c)

theorem askedColumns_eq (r : Request) :
    r.askedColumns = r.baseOutput.map (fun c => (none, c)) ++
      r.joinedColumns.map fun (j, c) => (some j, c) := by
  rw [askedColumns, baseOutput_eq, joinedColumns, List.map_flatMap]
  simp only [List.map_map]
  rfl

theorem joinedOutput_eq (r : Request) :
    r.joinedOutput = (nameColumns r.baseOutput r.joinedColumns).map fun (name, j, c) =>
      ⟨name, columnSource (some j) c⟩ := by
  rw [joinedOutput, joinsOutput_eq, namedColumns_eq]
  rfl

theorem outputColumns_eq (r : Request) :
    r.outputColumns = r.baseOutput ++ (nameColumns r.baseOutput r.joinedColumns).map (·.1) := by
  rw [outputColumns, joinedOutput_eq, List.map_map]
  rfl

theorem nodup_outputColumns (r : Request) : r.outputColumns.Nodup := by
  rw [outputColumns_eq]
  exact nodup_append_nameColumns (nodup_firstOccurrences [] _)

theorem idField_not_mem_outputColumns (hr : r.Admissible) : idField ∉ r.outputColumns := by
  rw [outputColumns, joinedOutput, joinsOutput_eq, List.map_map, List.mem_append, not_or]
  constructor
  · intro h
    exact Level.ne_idField_of_mem_columns (hr.base_columns idField (mem_baseOutput.mp h)) rfl
  · intro h
    obtain ⟨⟨name, j, c⟩, hmem, hname⟩ := List.mem_map.mp h
    exact ne_idField_of_mem_namedColumns hr hmem hname

theorem length_outputColumns (r : Request) :
    r.outputColumns.length = r.base.columns.toFinset.card +
      (r.activeJoins.map fun j => (r.joinColumns.get j).toFinset.card).sum := by
  rw [outputColumns_eq, List.length_append, List.length_map, length_nameColumns, baseOutput_eq,
    length_eraseDups, joinedColumns, List.length_flatMap]
  simp only [List.length_map, length_eraseDups]

/-- The fields of the last projection: the identifier, and the output columns. -/
def outputFields (r : Request) : List Projected :=
  ⟨idField, .keep⟩ :: r.baseOutput.map (fun c => ⟨c, .keep⟩) ++ r.joinedOutput

theorem length_askedColumns (r : Request) : r.askedColumns.length = r.outputColumns.length := by
  rw [askedColumns_eq, outputColumns_eq, List.length_append, List.length_append, List.length_map,
    List.length_map, List.length_map, length_nameColumns]

theorem length_outputFields (r : Request) :
    r.outputFields.length = r.outputColumns.length + 1 := by
  simp [outputFields, outputColumns]

/-- Each column that a request asks for is found under its name by the field of the last projection
that stands in its place, behind the identifier. -/
theorem exists_output_of_asked {i : Nat} {source : Option Join} {c : String}
    (h : r.askedColumns[i]? = some (source, c)) :
    ∃ name, r.outputColumns[i]? = some name ∧
      r.outputFields[i + 1]? = some ⟨name, columnSource source c⟩ ∧
      (source = none → name = c) ∧ (name = c ↔ c ∉ r.outputColumns.take i) := by
  rw [askedColumns_eq, List.getElem?_append, List.length_map] at h
  have hfield : r.outputFields[i + 1]?
      = (r.baseOutput.map (fun c => ⟨c, .keep⟩) ++ r.joinedOutput)[i]? := rfl
  rw [hfield, outputColumns_eq, joinedOutput_eq, List.getElem?_append, List.getElem?_append,
    List.length_map]
  split at h
  next hlt =>
    -- a column of the root level: its name is not repeated
    rw [List.getElem?_map, Option.map_eq_some_iff] at h
    obtain ⟨d, hd, heq⟩ := h
    simp only [Prod.mk.injEq] at heq
    obtain ⟨rfl, rfl⟩ := heq
    rw [if_pos hlt, if_pos hlt, List.getElem?_map, hd, List.take_append_of_le_length (by omega)]
    refine ⟨d, rfl, rfl, fun _ => rfl, fun _ hmem => ?_, fun _ => rfl⟩
    obtain ⟨hi, rfl⟩ := List.getElem?_eq_some_iff.mp hd
    obtain ⟨m, hm, hmd⟩ := List.mem_take_iff_getElem.mp hmem
    have hnodup : r.baseOutput.Nodup := nodup_firstOccurrences [] _
    have := (List.Nodup.getElem_inj_iff hnodup).mp hmd
    omega
  next hge =>
    rw [List.getElem?_map, Option.map_eq_some_iff] at h
    obtain ⟨⟨j, d⟩, hd, heq⟩ := h
    simp only [Prod.mk.injEq] at heq
    obtain ⟨rfl, rfl⟩ := heq
    rw [← map_snd_nameColumns r.baseOutput r.joinedColumns, List.getElem?_map,
      Option.map_eq_some_iff] at hd
    obtain ⟨⟨name, column⟩, hname, rfl⟩ := hd
    have htake : (r.baseOutput ++ (nameColumns r.baseOutput r.joinedColumns).map (·.1)).take i
        = r.baseOutput ++ ((nameColumns r.baseOutput r.joinedColumns).map (·.1)).take
            (i - r.baseOutput.length) := by
      rw [List.take_append, List.take_of_length_le (by omega)]
    rw [if_neg hge, if_neg hge, List.getElem?_map, List.getElem?_map, hname, htake]
    exact ⟨name, rfl, rfl, by simp, nameColumns_eq_self_iff hname⟩

end Request

end Strata
