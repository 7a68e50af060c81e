import Mathlib.Data.List.DropRight
import Strata.Proofs.CursorToken
import Strata.Proofs.Execution

/-!
# Laws of conditions

A condition that lists values is the disjunction of the equalities with each of them, `ne` is the
opposite of `eq`, and conditions given together are a conjunction. The laws are about which documents
pass the compiled filters; so they hold of missing fields, of arrays on the path, and of numbers of
different kinds alike.
-/

namespace Strata

/-! ## Segments -/

namespace Text

theorem split_eq_splitOn (c : Char) (cs : List Char) : split c cs = cs.splitOn c := by
  induction cs with
  | nil => rw [split, List.splitOn_nil]
  | cons d rest ih =>
    have hstep : (d :: rest).splitOn c =
        if d = c then [] :: rest.splitOn c else (rest.splitOn c).modifyHead (List.cons d) := by
      simp [List.splitOn, List.splitOnP_cons_eq_if_modifyHead]
    rw [split, hstep, ih]
    cases hrest : rest.splitOn c with
    | nil => exact absurd hrest (List.splitOn_ne_nil c rest)
    | cons piece pieces => rfl

/-- Trimming twice is trimming once. -/
theorem trimChars_trimChars (cs : List Char) : trimChars (trimChars cs) = trimChars cs := by
  -- what is left begins like the text without its leading blanks, and so with no blank
  have hleading : (trimChars cs).dropWhile isBlank = trimChars cs := by
    rw [List.dropWhile_eq_self_iff]
    intro hpos
    have hfront : trimChars cs <+: cs.dropWhile isBlank := List.rdropWhile_prefix isBlank _
    rw [hfront.getElem hpos]
    exact List.dropWhile_eq_self_iff.mp (List.dropWhile_idempotent isBlank cs) _
  show ((trimChars cs).dropWhile isBlank).rdropWhile isBlank = trimChars cs
  rw [hleading]
  exact List.rdropWhile_idempotent isBlank (cs.dropWhile isBlank)

theorem trim_trim (s : String) : trim (trim s) = trim s := by
  rw [trim, trim, String.toList_ofList, trimChars_trimChars]

end Text

open Text

/-- The segments of a text between its commas. -/
def segments (raw : String) : List String := (raw.toList.splitOn ',').map String.ofList

/-- The segments of a text that are not blank. -/
def givenSegments (raw : String) : List String := (segments raw).filter fun s => trim s ≠ ""

theorem mem_givenSegments {raw s : String} :
    s ∈ givenSegments raw ↔ s ∈ segments raw ∧ trim s ≠ "" := by
  simp [givenSegments]

/-- The values listed in a text are its segments that are not blank, trimmed. -/
theorem listed_eq (raw : String) : listed raw = (givenSegments raw).map trim := by
  have htrim : ∀ cs, String.ofList (trimChars cs) = trim (String.ofList cs) := fun cs => by
    rw [trim, String.toList_ofList]
  have hgiven : ∀ t : String, (!t.isEmpty) = decide (t ≠ "") := fun t => by
    rw [Bool.eq_iff_iff]
    simp
  simp only [listed, givenSegments, segments, split_eq_splitOn, htrim, hgiven, List.filter_map,
    List.map_map, Function.comp_def]

theorem readScalar_trim (s : String) : readScalar (trim s) = readScalar s := by
  rw [readScalar, readScalar, trim_trim]

/-- No text is read as null. -/
theorem readScalar_ne_null (s : String) : readScalar s ≠ .null := by
  rw [readScalar]
  split
  · simp
  · split
    · simp
    · split
      · rw [readDecimal]
        split
        · rw [Value.ofInt]
          split <;> simp
        · split <;> simp
      · simp

/-! ## Conditions on one field -/

section Field

variable {f raw : String} {d : Document}

theorem holds_eq_iff : (⟨f, .eq, raw⟩ : Condition).holds d = true ↔
    ∃ v ∈ d.candidates f, v.equal (readScalar raw) = true := by
  show Comparison.anyEqual (d.candidates f) (readScalar raw) = true ↔ _
  have hnull := readScalar_ne_null raw
  cases hvalue : readScalar raw <;> simp_all [Comparison.anyEqual]

theorem holds_ne_iff : (⟨f, .ne, raw⟩ : Condition).holds d = true ↔
    ¬ (⟨f, .eq, raw⟩ : Condition).holds d = true := by
  simp [Condition.holds, Comparison.holds]

/-- A field has one of the listed values exactly if it equals one of the given segments. -/
theorem holds_within_iff : (⟨f, .within, raw⟩ : Condition).holds d = true ↔
    ∃ s ∈ givenSegments raw, (⟨f, .eq, s⟩ : Condition).holds d = true := by
  simp only [holds_eq_iff]
  show ((d.candidates f).any fun v => (listed raw).any fun text => v.equal (readScalar text)) = true
    ↔ _
  simp only [listed_eq, List.any_eq_true, List.mem_map, exists_exists_and_eq_and, readScalar_trim]
  exact ⟨fun ⟨v, hv, s, hs, hequal⟩ => ⟨s, hs, v, hv, hequal⟩,
    fun ⟨s, hs, v, hv, hequal⟩ => ⟨v, hv, s, hs, hequal⟩⟩

end Field

/-! ## Filters -/

/-- Whether a document passes a compiled filter; without a filter every document passes. -/
def Passes (filter : Option Predicate) (bound : Bindings) (d : Document) : Prop :=
  match filter with
  | none => True
  | some p => ∃ t, p.test = .ok t ∧ t bound d = true

/-- Whether conditions are accepted on a level, and a document passes their filter. -/
def Matches (l : Level) (cs : List Condition) (bound : Bindings) (d : Document) : Prop :=
  ∃ filter, compileConditions l cs = .ok filter ∧ Passes filter bound d

section Filter

variable {l : Level} {f raw : String} {c : Condition} {cs ds : List Condition}
  {p q : Option Predicate} {bound : Bindings} {d : Document}

/-- A document passes the filter of accepted conditions exactly if all of them hold. -/
theorem passes_iff (h : compileConditions l cs = .ok p) :
    Passes p bound d ↔ ∀ c ∈ cs, c.holds d = true := by
  obtain ⟨hcs, rfl⟩ := compileConditions_eq_ok_iff.mp h
  rw [conjunction]
  cases cs with
  | nil => simp [Passes]
  | cons c rest =>
    have htest : (Predicate.all ((c :: rest).map Condition.toPredicate)).test = _ :=
      testAll_toPredicate hcs
    show (∃ t, (Predicate.all ((c :: rest).map Condition.toPredicate)).test = .ok t ∧
      t bound d = true) ↔ _
    simp only [htest, Except.ok.injEq, exists_eq_left', List.all_eq_true]

theorem matches_iff :
    Matches l cs bound d ↔ (∀ c ∈ cs, c.check l = .ok ()) ∧ ∀ c ∈ cs, c.holds d = true := by
  constructor
  · rintro ⟨p, hp, hpasses⟩
    exact ⟨(compileConditions_eq_ok_iff.mp hp).1, (passes_iff hp).mp hpasses⟩
  · rintro ⟨hcs, hholds⟩
    have hp := compileConditions_eq_ok_iff.mpr ⟨hcs, rfl⟩
    exact ⟨_, hp, (passes_iff hp).mpr hholds⟩

theorem matches_singleton_iff (h : c.check l = .ok ()) :
    Matches l [c] bound d ↔ c.holds d = true := by
  simp [matches_iff, h]

/-- On a field that may be used at all, equalities and their opposites are accepted whatever the
text. -/
theorem check_eq_and_ne (hf : (l.operators? f).isSome) (raw : String) :
    (⟨f, .eq, raw⟩ : Condition).check l = .ok () ∧ (⟨f, .ne, raw⟩ : Condition).check l = .ok () := by
  obtain ⟨ops, hops⟩ := Option.isSome_iff_exists.mp hf
  have hmem : .eq ∈ ops ∧ .ne ∈ ops := by
    simp only [Level.operators?, Level.columnOperators, Option.ite_none_right_eq_some,
      Option.some.injEq] at hops
    rw [← hops.2]
    split <;> decide
  simp [Condition.check, Condition.checkValue, hops, hmem]

/-- A list of values that is accepted has at most so many of them. -/
theorem length_givenSegments_le (h : (⟨f, .within, raw⟩ : Condition).check l = .ok ()) :
    (givenSegments raw).length ≤ maxListed := by
  rw [Condition.check] at h
  split at h
  · cases h
  · split at h
    · simp only [Condition.checkValue, listed_eq, List.length_map] at h
      split at h
      next hle => exact hle
      · cases h
    · cases h

/-- **Laws of conditions.** On a field that may be used, an accepted list of values has a value for
each segment of its text that is not blank, at most a thousand, and matches a document exactly if the
equality with one of these segments does; and `ne` matches exactly if `eq` with the same text does
not. Two lists of accepted conditions are accepted together, and a document passes their common filter
exactly if it passes both; and lists with the same members have filters that the same documents
pass. -/
theorem laws_of_filterable (hf : (l.operators? f).isSome) (raw : String) (bound : Bindings)
    (d : Document) :
    (∀ p, compileConditions l [⟨f, .within, raw⟩] = .ok p →
      (∃ values, p = some (.all [.oneOf f values]) ∧ values = (givenSegments raw).map readScalar ∧
        values.length ≤ 1000) ∧
      (Passes p bound d ↔
        ∃ s ∈ segments raw, trim s ≠ "" ∧ Matches l [⟨f, .eq, s⟩] bound d)) ∧
    (Matches l [⟨f, .ne, raw⟩] bound d ↔ ¬ Matches l [⟨f, .eq, raw⟩] bound d) ∧
    ∀ cs ds p q, compileConditions l cs = .ok p → compileConditions l ds = .ok q →
      (∃ both, compileConditions l (cs ++ ds) = .ok both ∧
        (Passes both bound d ↔ Passes p bound d ∧ Passes q bound d)) ∧
      ((∀ c, c ∈ cs ↔ c ∈ ds) → (Passes p bound d ↔ Passes q bound d)) := by
  refine ⟨fun p hp => ⟨?_, ?_⟩, ?_, fun cs ds p q hp hq => ⟨?_, fun hmem => ?_⟩⟩
  · obtain ⟨hcheck, rfl⟩ := compileConditions_eq_ok_iff.mp hp
    refine ⟨_, ?_, rfl, ?_⟩
    · have hvalues : (listed raw).map readScalar = (givenSegments raw).map readScalar := by
        simp [listed_eq, Function.comp_def, readScalar_trim]
      rw [← hvalues]
      rfl
    · rw [List.length_map]
      exact length_givenSegments_le (hcheck _ List.mem_cons_self)
  · simp only [passes_iff hp, List.forall_mem_singleton, holds_within_iff, mem_givenSegments,
      and_assoc, matches_singleton_iff (check_eq_and_ne hf _).1]
  · obtain ⟨heq, hne⟩ := check_eq_and_ne hf raw
    rw [matches_singleton_iff hne, matches_singleton_iff heq, holds_ne_iff]
  · obtain ⟨hcs, -⟩ := compileConditions_eq_ok_iff.mp hp
    obtain ⟨hds, -⟩ := compileConditions_eq_ok_iff.mp hq
    have hboth := compileConditions_eq_ok_iff.mpr ⟨List.forall_mem_append.mpr ⟨hcs, hds⟩, rfl⟩
    exact ⟨_, hboth, by rw [passes_iff hboth, passes_iff hp, passes_iff hq, List.forall_mem_append]⟩
  · rw [passes_iff hp, passes_iff hq]
    exact forall_congr' fun c => by rw [hmem]

end Filter

/-- A record whose field is an array with a seven and a three. -/
def sevenAndThree : Document := [("H11", .array [.int32 7, .int64 3])]

/-- Two values are listed, blank segments aside, and the record has the second of them, of another
kind. It does not equal the text as a whole, and it passes the filter of both conditions, in either
order. -/
theorem laws_sevenAndThree :
    let within : Condition := ⟨"H11", .within, " 2,, 3.0\u2003,"⟩
    let unequal : Condition := ⟨"H11", .ne, " 2,, 3.0\u2003,"⟩
    (Level.poly.operators? "H11").isSome ∧
    ∃ p both other, compileConditions .poly [within] = .ok p ∧
      (∃ values, p = some (.all [.oneOf "H11" values]) ∧ values.length = 2) ∧
      compileConditions .poly ([within] ++ [unequal]) = .ok both ∧
      compileConditions .poly [unequal, within, unequal] = .ok other ∧
      Passes both [] sevenAndThree ∧ Passes other [] sevenAndThree := by
  intro within unequal
  have hf : (Level.poly.operators? "H11").isSome := by decide
  have hwithin : within.check .poly = .ok () := by decide +kernel
  have hunequal : unequal.check .poly = .ok () := by decide +kernel
  have hsegment : (⟨"H11", .eq, " 3.0\u2003"⟩ : Condition).check .poly = .ok () := by decide +kernel
  obtain ⟨hlist, hopposite, hlists⟩ := laws_of_filterable hf within.value [] sevenAndThree
  have hp := compileConditions_eq_ok_iff.mpr ⟨List.forall_mem_singleton.mpr hwithin, rfl⟩
  have hq := compileConditions_eq_ok_iff.mpr ⟨List.forall_mem_singleton.mpr hunequal, rfl⟩
  have hother : compileConditions .poly [unequal, within, unequal] = .ok _ :=
    compileConditions_eq_ok_iff.mpr ⟨by simp [hwithin, hunequal], rfl⟩
  obtain ⟨⟨values, hvalues, hgiven, -⟩, hpasses⟩ := hlist _ hp
  obtain ⟨⟨both, hboth, hconjunction⟩, -⟩ := hlists _ _ _ _ hp hq
  -- the second item is a listed value, and no item is the whole text
  have hwithinPasses : Passes (conjunction [within]) [] sevenAndThree :=
    hpasses.mpr ⟨" 3.0\u2003", by decide +kernel, by decide +kernel,
      (matches_singleton_iff hsegment).mpr (by decide +kernel)⟩
  have hunequalPasses : Passes (conjunction [unequal]) [] sevenAndThree := by
    obtain ⟨q, hq', hpasses'⟩ := hopposite.mpr fun ⟨q, hq', h⟩ =>
      absurd ((passes_iff hq').mp h _ List.mem_cons_self) (by decide +kernel)
    rwa [Except.ok.inj (hq.symm.trans hq')]
  have hbothPasses := hconjunction.mpr ⟨hwithinPasses, hunequalPasses⟩
  have hsame : ∀ c, c ∈ [within] ++ [unequal] ↔ c ∈ [unequal, within, unequal] := by
    simp [or_comm]
  exact ⟨hf, _, both, _, hp, ⟨values, hvalues, by rw [hgiven]; decide +kernel⟩, hboth, hother,
    hbothPasses, ((hlists _ _ _ _ hboth hother).2 hsame).mp hbothPasses⟩

end Strata
