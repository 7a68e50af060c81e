import Strata.Proofs.Coherence

/-!
# Readers of paths

Three functions follow a path through a document. Where the segments *descend* through documents to a
value, all of them find this value. Where they descend to an array and go on behind it, the reader for
sorting and joining stops, and the other two go into the array, each in its own way. Everywhere else
none of them finds anything.
-/

namespace Strata

namespace Value

/-- The items of an array; other values have none. -/
def items : Value → List Value
  | array items => items
  | _ => []

/-- Segments descend from a value to `c` if each of them is a field of the document that those in front
of it descend to. -/
inductive DescendsTo (c : Value) : List String → Value → Prop
  | here : DescendsTo c [] c
  | field {d : Document} {head : String} {tail : List String} {v : Value}
      (h : d.get? head = some v) (hv : DescendsTo c tail v) :
      DescendsTo c (head :: tail) (.document d)

variable {c v : Value} {front rest segments : List String} {d : Document} {head : String}

/-- The first segment that does not end a descent is a field. -/
theorem descendsTo_cons_iff : DescendsTo c (head :: rest) (.document d) ↔
    ∃ v, d.get? head = some v ∧ DescendsTo c rest v := by
  constructor
  · rintro ⟨⟩
    exact ⟨_, ‹_›, ‹_›⟩
  · rintro ⟨v, h, hv⟩
    exact .field h hv

theorem getAt?_eq_some_iff :
    d.getAt? head rest = some c ↔ DescendsTo c (head :: rest) (.document d) := by
  induction rest generalizing head d with
  | nil =>
    rw [Document.getAt?, descendsTo_cons_iff]
    constructor
    · exact fun h => ⟨c, h, .here⟩
    · rintro ⟨_, h, ⟨⟩⟩
      exact h
  | cons next rest ih =>
    rw [descendsTo_cons_iff, Document.getAt?]
    cases hfield : d.get? head with
    | none => simp
    | some v =>
      cases v with
      | document e => simpa using ih
      | _ =>
        refine iff_of_false (fun h => by cases h) ?_
        rintro ⟨_, ⟨⟩, h⟩
        cases h

theorem candidatesIn_nil (v : Value) : candidatesIn [] v = v :: v.items := by
  cases v <;> rfl

/-- **A descent is seen by all.** What segments descend to is computed by them, and is tested by
conditions, together with its items. -/
theorem DescendsTo.found (h : DescendsTo c segments v) :
    resolveIn segments v = some c ∧ candidatesIn segments v = c :: c.items := by
  induction h with
  | here => exact ⟨resolveIn_nil c, candidatesIn_nil c⟩
  | field h _ ih =>
    obtain ⟨hresolve, hcandidates⟩ := ih
    constructor
    · rw [resolveIn, resolveField_eq, h, Option.bind_some, hresolve]
    · rw [candidatesIn, candidatesOfField_eq, h]
      exact hcandidates

/-- What computes no value has nothing to test. -/
theorem candidatesIn_of_resolveIn_eq_none (h : resolveIn segments v = none) :
    candidatesIn segments v = [] := by
  induction segments generalizing v with
  | nil =>
    rw [resolveIn_nil] at h
    cases h
  | cons head tail ih =>
    cases v with
    | document d =>
      rw [resolveIn, resolveField_eq] at h
      rw [candidatesIn, candidatesOfField_eq]
      cases hfield : Document.get? d head with
      | none => rfl
      | some w =>
        rw [hfield, Option.bind_some] at h
        exact ih h
    | array items =>
      rw [resolveIn] at h
      cases h
    | _ => rfl

/-- Where segments compute a value without descending to it, some of them descend to an array and more
follow. -/
theorem exists_array_of_resolveIn (h : resolveIn segments v = some c)
    (hnone : ∀ w, ¬ DescendsTo w segments v) :
    ∃ front rest items, segments = front ++ rest ∧ rest ≠ [] ∧
      DescendsTo (.array items) front v := by
  induction segments generalizing v with
  | nil => exact absurd .here (hnone v)
  | cons head tail ih =>
    cases v with
    | document d =>
      rw [resolveIn, resolveField_eq, Option.bind_eq_some_iff] at h
      obtain ⟨w, hfield, hw⟩ := h
      obtain ⟨front, rest, items, rfl, hrest, harray⟩ :=
        ih hw fun x hx => hnone x (.field hfield hx)
      exact ⟨head :: front, rest, items, rfl, hrest, .field hfield harray⟩
    | array items => exact ⟨[], head :: tail, items, rfl, by simp, .here⟩
    | _ => cases h

/-- Behind an array there is no descent, but a value to compute. -/
theorem DescendsTo.behind_array {items : List Value} (h : DescendsTo (.array items) front v)
    (hrest : rest ≠ []) :
    (∀ w, ¬ DescendsTo w (front ++ rest) v) ∧ (resolveIn (front ++ rest) v).isSome := by
  induction h with
  | here =>
    obtain ⟨head, tail, rfl⟩ := List.exists_cons_of_ne_nil hrest
    exact ⟨fun w hw => (by cases hw), rfl⟩
  | @field d head tail v hfield _ ih =>
    obtain ⟨hnone, hsome⟩ := ih
    constructor
    · intro w hw
      rw [List.cons_append, descendsTo_cons_iff] at hw
      obtain ⟨x, hx, hw⟩ := hw
      obtain rfl := Option.some.inj (hfield.symm.trans hx)
      exact hnone w hw
    · rw [List.cons_append, resolveIn, resolveField_eq, hfield]
      exact hsome

end Value

/-! ## Segments of a path -/

theorem pathSegments?_eq_none_iff {path : String} : pathSegments? path = none ↔
    path = "" ∨ 1024 < path.utf8ByteSize ∨ 32 < (path.toList.splitOn '.').length := by
  have hlimits : (path.isEmpty || decide (maxPathBytes < path.utf8ByteSize)) = true ↔
      path = "" ∨ 1024 < path.utf8ByteSize := by
    rw [Bool.or_eq_true, String.isEmpty_iff, decide_eq_true_eq, maxPathBytes]
  rw [pathSegments?, Text.split_eq_splitOn, ← or_assoc, ← hlimits]
  split
  next h => exact iff_of_true rfl (.inl h)
  next h =>
    simp only [List.length_map, maxPathDepth]
    split
    next hle => simp [h, hle]
    next hlt => simp [Nat.not_le.mp hlt]

namespace Document

variable {d : Document} {path : String}

/-- A path crosses an array if some of its segments, not all, descend to one. -/
def CrossesArray (d : Document) (path : String) : Prop :=
  ∃ front rest items, pathSegments? path = some (front ++ rest) ∧ rest ≠ [] ∧
    Value.DescendsTo (.array items) front (.document d)

/-- The readers start with the document as a value. -/
theorem readers_of_segments {segments : List String} (h : pathSegments? path = some segments) :
    (∀ v, d.getPath? path = some v ↔ Value.DescendsTo v segments (.document d)) ∧
    d.resolve? path = Value.resolveIn segments (.document d) ∧
    d.candidates path = Value.candidatesIn segments (.document d) := by
  cases segments with
  | nil => exact absurd h (pathSegments?_ne_nil path)
  | cons head rest =>
    refine ⟨fun v => ?_, ?_, ?_⟩
    · simp only [getPath?, h]
      exact Value.getAt?_eq_some_iff
    · simp only [resolve?, h, Value.resolveIn]
    · simp only [candidates, h, Value.candidatesIn]

theorem readers_of_no_segments (h : pathSegments? path = none) :
    d.getPath? path = none ∧ d.resolve? path = none ∧ d.candidates path = [] := by
  simp only [getPath?, resolve?, candidates, h, and_self]

/-- **The readers of paths agree.** What the reader for sorting and joining finds is what the one for
projections computes, and conditions are tested against it and its items. What the one for projections
does not find, no reader finds; and it alone of these two finds something exactly where the path
crosses an array. An empty path, a long one and a deep one lead nowhere. -/
theorem readers_agree (d : Document) (path : String) :
    (∀ v, d.getPath? path = some v →
      d.resolve? path = some v ∧ d.candidates path = v :: v.items) ∧
    (d.resolve? path = none → d.getPath? path = none ∧ d.candidates path = []) ∧
    (d.getPath? path = none ∧ (d.resolve? path).isSome ↔ d.CrossesArray path) ∧
    (path = "" ∨ 1024 < path.utf8ByteSize ∨ 32 < (path.toList.splitOn '.').length →
      d.getPath? path = none ∧ d.resolve? path = none ∧ d.candidates path = []) := by
  -- with segments the readers are those of the document as a value, without them they find nothing
  cases hpath : pathSegments? path with
  | none =>
    obtain ⟨hget, hresolve, hcandidates⟩ := readers_of_no_segments (d := d) hpath
    simp [hget, hresolve, hcandidates, CrossesArray, hpath]
  | some segments =>
    obtain ⟨hget, hresolve, hcandidates⟩ := readers_of_segments (d := d) hpath
    have hnone : d.getPath? path = none ↔
        ∀ w, ¬ Value.DescendsTo w segments (.document d) := by
      simp only [Option.eq_none_iff_forall_ne_some, ne_eq, hget]
    rw [hresolve, hcandidates, hnone]
    refine ⟨fun v h => ((hget v).mp h).found, fun h => ⟨fun w hw => ?_,
      Value.candidatesIn_of_resolveIn_eq_none h⟩, ⟨?_, ?_⟩, fun h => ?_⟩
    · rw [hw.found.1] at h
      cases h
    · rintro ⟨hnone, hsome⟩
      obtain ⟨w, hw⟩ := Option.isSome_iff_exists.mp hsome
      obtain ⟨front, rest, items, rfl, hrest, harray⟩ := Value.exists_array_of_resolveIn hw hnone
      exact ⟨front, rest, items, hpath, hrest, harray⟩
    · rintro ⟨front, rest, items, hsegments, hrest, harray⟩
      obtain rfl := Option.some.inj (hpath.symm.trans hsegments)
      exact harray.behind_array hrest
    · rw [pathSegments?_eq_none_iff.mpr h] at hpath
      cases hpath

/-- A document with an array of a document, a number and an array, and a field without a name. -/
def shelf : Document :=
  [("a", .document
    [("b", .array [.document [("c", .int32 1)], .int32 2, .array []]), ("", .string "x")])]

/-- The array is found by all readers, and crossed by a longer path. -/
theorem readers_agree_shelf :
    ∃ items : List Value, items.length = 3 ∧ shelf.getPath? "a.b" = some (.array items) ∧
      shelf.resolve? "a.b" = some (.array items) ∧ shelf.candidates "a.b" = .array items :: items ∧
      shelf.CrossesArray "a.b.c" ∧ shelf.getPath? "a.b.c" = none ∧
      (shelf.resolve? "a.b.c").isSome ∧
      shelf.resolve? "a.c.b" = none ∧ shelf.getPath? "a.c.b" = none ∧
      shelf.candidates "a.c.b" = [] ∧
      32 < ("a................................".toList.splitOn '.').length ∧
      shelf.resolve? "a................................" = none := by
  have hab : pathSegments? "a.b" = some ["a", "b"] := by decide +kernel
  have hacb : pathSegments? "a.c.b" = some ["a", "c", "b"] := by decide +kernel
  have habc : pathSegments? "a.b.c" = some ["a", "b", "c"] := by decide +kernel
  have hget : shelf.getPath? "a.b" =
      some (.array [.document [("c", .int32 1)], .int32 2, .array []]) := by
    simp only [Document.getPath?, hab]
    rfl
  have hmissing : shelf.resolve? "a.c.b" = none := by
    simp only [Document.resolve?, hacb]
    rfl
  have hdeep : 32 < ("a................................".toList.splitOn '.').length := by decide
  have hcrosses : shelf.CrossesArray "a.b.c" :=
    ⟨["a", "b"], ["c"], _, habc, by simp, .field rfl (.field rfl .here)⟩
  obtain ⟨hresolve, hcandidates⟩ := (readers_agree shelf "a.b").1 _ hget
  obtain ⟨hnone, hempty⟩ := (readers_agree shelf "a.c.b").2.1 hmissing
  obtain ⟨hstop, hsome⟩ := (readers_agree shelf "a.b.c").2.2.1.mpr hcrosses
  obtain ⟨-, hnowhere, -⟩ := (readers_agree shelf _).2.2.2 (.inr (.inr hdeep))
  exact ⟨_, rfl, hget, hresolve, hcandidates, hcrosses, hstop, hsome, hmissing, hnone, hempty, hdeep,
    hnowhere⟩

end Document

end Strata
