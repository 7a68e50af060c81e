import Strata.Proofs.ConditionLaws
import Strata.Proofs.NumberOrder

/-!
# Coherence of comparisons

Equality and order of values are two functions. On the values that ordering conditions compare they
agree: two such values are equal exactly if they are in one bracket and tied there. So `gte` is `gt`
or `eq`, whatever values a path leads to, and of `lt`, `eq` and `gt` exactly one holds for a value
of the same bracket and none for any other value.
-/

namespace Strata

namespace Value

open Decimal

/-! ## Brackets -/

/-- The kinds of values that are ordered among themselves. -/
inductive Bracket where
  | number
  | string
  | boolean
  | identifier
  | date
  deriving DecidableEq, Repr

/-- The bracket of a value, if it is in one. A 128-bit decimal is in none: it is not ordered with
other numbers. -/
def bracket? : Value → Option Bracket
  | int32 _ | int64 _ | double _ => some .number
  | string _ => some .string
  | bool _ => some .boolean
  | objectId _ => some .identifier
  | dateTime _ => some .date
  | _ => none

variable {a b : Value}

theorem isNumber_iff_bracket? : a.isNumber = true ↔ a.bracket? = some .number := by
  cases a <;> simp [isNumber, bracket?]

/-- Two values of one bracket are numbers, or values of one kind. -/
theorem bracket?_cases (h : a.bracket? = b.bracket?) (hb : b.bracket?.isSome) :
    (a.isNumber = true ∧ b.isNumber = true) ∨ (∃ s t, a = string s ∧ b = string t) ∨
      (∃ s t, a = bool s ∧ b = bool t) ∨ (∃ i j, a = objectId i ∧ b = objectId j) ∨
      ∃ s t, a = dateTime s ∧ b = dateTime t := by
  obtain ⟨bracket, hb⟩ := Option.isSome_iff_exists.mp hb
  have ha := h.trans hb
  cases bracket with
  | number => exact .inl ⟨isNumber_iff_bracket?.mpr ha, isNumber_iff_bracket?.mpr hb⟩
  | string | boolean | identifier | date =>
    cases a <;> simp [bracket?] at ha
    cases b <;> simp [bracket?] at hb
    simp

/-- Values are ordered exactly if they are in one bracket. -/
theorem isSome_compareWithin?_iff :
    (compareWithin? a b).isSome ↔ a.bracket? = b.bracket? ∧ b.bracket?.isSome := by
  constructor
  · intro h
    unfold compareWithin? at h
    split at h
    next hnumbers =>
      obtain ⟨ha, hb⟩ := Bool.and_eq_true_iff.mp hnumbers
      rw [isNumber_iff_bracket?.mp ha, isNumber_iff_bracket?.mp hb]
      exact ⟨rfl, rfl⟩
    next =>
      split at h
      all_goals first | exact ⟨rfl, rfl⟩ | cases h
  · rintro ⟨hbracket, hb⟩
    rcases bracket?_cases hbracket hb with ⟨ha, hb⟩ | ⟨s, t, rfl, rfl⟩ | ⟨s, t, rfl, rfl⟩ |
      ⟨i, j, rfl, rfl⟩ | ⟨s, t, rfl, rfl⟩
    · rw [compareWithin?_of_isNumber ha hb]
      rfl
    all_goals rfl

/-! ## Equality -/

/-- Values that are the same are of one rank and in one bracket, if in any. -/
theorem kind_eq_of_same (h : a.same b = true) : a.rank = b.rank ∧ a.bracket? = b.bracket? := by
  unfold same at h
  split at h
  all_goals first | exact ⟨rfl, rfl⟩ | cases h

theorem kind_eq_of_equal (h : a.equal b = true) : a.rank = b.rank ∧ a.bracket? = b.bracket? := by
  unfold equal at h
  split at h
  next hnumbers =>
    obtain ⟨ha, hb⟩ := Bool.and_eq_true_iff.mp hnumbers
    rw [rank_of_isNumber ha, rank_of_isNumber hb, isNumber_iff_bracket?.mp ha,
      isNumber_iff_bracket?.mp hb]
    exact ⟨rfl, rfl⟩
  next => exact kind_eq_of_same h

/-- Equality with a value of a bracket is a tie in this bracket. -/
theorem equal_iff_compareWithin? (hb : b.bracket?.isSome) :
    a.equal b = true ↔ compareWithin? a b = some .eq := by
  by_cases hab : a.bracket? = b.bracket?
  · rcases bracket?_cases hab hb with ⟨ha, hb⟩ | ⟨s, t, rfl, rfl⟩ | ⟨s, t, rfl, rfl⟩ |
      ⟨i, j, rfl, rfl⟩ | ⟨s, t, rfl, rfl⟩
    · rw [equal_of_isNumber ha hb, compareWithin?_of_isNumber ha hb, beq_iff_eq, Option.some.injEq]
    · simp [equal, compareWithin?, isNumber, same]
    · simp [equal, compareWithin?, isNumber, same]
    · have hinj : i.toNat = j.toNat ↔ i = j :=
        ⟨fun h => by rw [← i.ofNat_toNat, h, j.ofNat_toNat], congrArg ObjectId.toNat⟩
      simp [equal, compareWithin?, isNumber, same, hinj]
    · simp [equal, compareWithin?, isNumber, same, Int64.toInt_inj]
  · refine iff_of_false (fun hequal => hab (kind_eq_of_equal hequal).2) fun hwithin => hab ?_
    exact (isSome_compareWithin?_iff.mp (by rw [hwithin]; rfl)).1

/-- Equal values are tied. -/
theorem order_of_equal (h : a.equal b = true) : a.order b = .eq := by
  obtain ⟨hrank, hbracket⟩ := kind_eq_of_equal h
  by_cases hb : b.bracket?.isSome
  · exact order_of_compareWithin? ((equal_iff_compareWithin? hb).mp h)
  · -- outside the brackets the ranks decide
    have hwithin : compareWithin? a b = none := by
      rw [← Option.not_isSome_iff_eq_none, isSome_compareWithin?_iff]
      exact fun h => hb h.2
    rw [order, hwithin, hrank]
    exact Std.ReflOrd.compare_self

/-! ## Where a path leads -/

/-- The rest of a path leads from a value to `c`: through the fields of documents and into the
documents of arrays, and at the end to the value itself or to an item of it. -/
inductive LeadsTo (c : Value) : List String → Value → Prop
  | here : LeadsTo c [] c
  | item {items : List Value} (h : c ∈ items) : LeadsTo c [] (.array items)
  | field {fields : List (String × Value)} {head : String} {tail : List String} {v : Value}
      (h : fields.lookup head = some v) (hv : LeadsTo c tail v) :
      LeadsTo c (head :: tail) (.document fields)
  | inside {items : List Value} {fields : List (String × Value)} {head : String}
      {tail : List String} (h : .document fields ∈ items)
      (hv : LeadsTo c (head :: tail) (.document fields)) : LeadsTo c (head :: tail) (.array items)

variable {c v : Value} {rest : List String}

/-- A value without parts leads to itself only. -/
theorem mem_candidatesIn_of_scalar (hdocument : ∀ d, v ≠ document d)
    (harray : ∀ items, v ≠ array items) : c ∈ candidatesIn rest v ↔ LeadsTo c rest v := by
  have hcandidates : candidatesIn rest v = if rest.isEmpty then [v] else [] := by
    cases v <;> first | rfl | exact absurd rfl (hdocument _) | exact absurd rfl (harray _)
  rw [hcandidates]
  constructor
  · intro h
    cases rest with
    | nil =>
      rw [List.isEmpty_nil, if_pos rfl, List.mem_singleton] at h
      exact h ▸ .here
    | cons head tail => cases h
  · intro h
    cases h with
    | here => exact List.mem_singleton_self c
    | item _ => exact absurd rfl (harray _)
    | field _ _ => exact absurd rfl (hdocument _)
    | inside _ _ => exact absurd rfl (harray _)

mutual

theorem mem_candidatesIn_iff (c : Value) (rest : List String) (v : Value) :
    c ∈ candidatesIn rest v ↔ LeadsTo c rest v := by
  cases v with
  | document d =>
    cases rest with
    | nil =>
      rw [candidatesIn, List.mem_singleton]
      constructor
      · rintro rfl
        exact .here
      · intro h
        cases h with
        | here => rfl
    | cons head tail =>
      rw [candidatesIn, mem_candidatesOfField_iff c head tail d]
      constructor
      · rintro ⟨v, hv, h⟩
        exact .field hv h
      · intro h
        cases h with
        | field hv h => exact ⟨_, hv, h⟩
  | array items =>
    cases rest with
    | nil =>
      rw [candidatesIn, List.mem_cons]
      constructor
      · rintro (rfl | h)
        · exact .here
        · exact .item h
      · intro h
        cases h with
        | here => exact .inl rfl
        | item h => exact .inr h
    | cons head tail =>
      rw [candidatesIn, mem_candidatesOfItems_iff c head tail items]
      constructor
      · rintro ⟨d, hd, h⟩
        exact .inside hd h
      · intro h
        cases h with
        | inside hd h => exact ⟨_, hd, h⟩
  | _ => exact mem_candidatesIn_of_scalar nofun nofun

theorem mem_candidatesOfField_iff (c : Value) (head : String) (tail : List String)
    (d : List (String × Value)) :
    c ∈ candidatesOfField head tail d ↔ ∃ v, d.lookup head = some v ∧ LeadsTo c tail v := by
  match d with
  | [] => simp [candidatesOfField]
  | (k, v) :: fields =>
    rw [candidatesOfField, List.lookup_cons]
    by_cases hk : k = head
    · rw [if_pos hk, mem_candidatesIn_iff c tail v, beq_iff_eq.mpr hk.symm]
      simp
    · rw [if_neg hk, mem_candidatesOfField_iff c head tail fields,
        beq_eq_false_iff_ne.mpr (Ne.symm hk)]

theorem mem_candidatesOfItems_iff (c : Value) (head : String) (tail : List String)
    (items : List Value) :
    c ∈ candidatesOfItems (head :: tail) items ↔
      ∃ d, .document d ∈ items ∧ LeadsTo c (head :: tail) (.document d) := by
  match items with
  | [] => simp [candidatesOfItems]
  | v :: items =>
    have hrest := mem_candidatesOfItems_iff c head tail items
    cases v with
    | document d =>
      rw [candidatesOfItems, List.mem_append, hrest,
        mem_candidatesIn_iff c (head :: tail) (.document d)]
      simp [or_and_right, exists_or]
    | _ => simp [candidatesOfItems, hrest]

end

end Value

theorem pathSegments?_ne_nil (path : String) : pathSegments? path ≠ some [] := by
  unfold pathSegments?
  split
  · simp
  · simp [Text.split_eq_splitOn, List.splitOn_ne_nil]

/-- A path leads from a document to a value. -/
def Document.LeadsTo (d : Document) (path : String) (c : Value) : Prop :=
  ∃ segments, pathSegments? path = some segments ∧ Value.LeadsTo c segments (.document d)

/-- Conditions on a path are tested against the values that the path leads to. -/
theorem Document.mem_candidates_iff {d : Document} {path : String} {c : Value} :
    c ∈ d.candidates path ↔ d.LeadsTo path c := by
  rw [candidates, LeadsTo]
  cases hpath : pathSegments? path with
  | none => simp
  | some segments =>
    cases segments with
    | nil => exact absurd hpath (pathSegments?_ne_nil path)
    | cons head rest =>
      have hfield := Value.mem_candidatesIn_iff c (head :: rest) (.document d)
      rw [Value.candidatesIn] at hfield
      simpa using hfield

/-! ## Comparisons -/

namespace Comparison

/-- What a comparison accepts as the order of two values. -/
def admits : Comparison → Ordering → Bool
  | eq, o => o == .eq
  | ne, o => o != .eq
  | gt, o => o.isGT
  | gte, o => o.isGE
  | lt, o => o.isLT
  | lte, o => o.isLE

/-- The strict comparison that an order satisfies. -/
def ofOrdering : Ordering → Comparison
  | .lt => lt
  | .eq => eq
  | .gt => gt

/-- Each order satisfies one of the three strict comparisons. -/
theorem admits_iff_eq_ofOrdering {op : Comparison} (hop : op ∈ [lt, eq, gt]) (o : Ordering) :
    op.admits o = true ↔ ofOrdering o = op := by
  simp only [List.mem_cons, List.not_mem_nil, or_false] at hop
  rcases hop with rfl | rfl | rfl <;> cases o <;> decide

theorem ofOrdering_mem (o : Ordering) : ofOrdering o ∈ [lt, eq, gt] := by
  cases o <;> decide

variable {cs : List Value} {c v : Value} {op : Comparison}

/-- A comparison holds if one of the values is in the bracket and has an order that it accepts. -/
theorem holds_iff (hv : v.bracket?.isSome) (hop : op ≠ .ne) :
    op.holds cs v = true ↔ ∃ c ∈ cs, ∃ o, c.compareWithin? v = some o ∧ op.admits o = true := by
  have hordered : ∀ wanted : Ordering → Bool, anyOrdered cs v wanted = true ↔
      ∃ c ∈ cs, ∃ o, c.compareWithin? v = some o ∧ wanted o = true := fun wanted => by
    simp [anyOrdered, Option.any_eq_true]
  cases op with
  | eq =>
    have hequal : anyEqual cs v = cs.any fun c => c.equal v := by
      cases v with
      | null => cases hv
      | _ => exact Bool.or_false _
    simp [holds, hequal, admits, Value.equal_iff_compareWithin? hv]
  | ne => exact absurd rfl hop
  | gt => exact hordered _
  | gte => exact hordered _
  | lt => exact hordered _
  | lte => exact hordered _

end Comparison

variable {bound : Bindings} {d : Document} {path : String} {c v : Value} {op : Comparison}

/-- A document under bindings satisfies a comparison of what a path leads to with a value. -/
def Satisfies (bound : Bindings) (d : Document) (path : String) (op : Comparison) (v : Value) :
    Prop :=
  Passes (some (.compare path op v)) bound d

theorem satisfies_iff_holds :
    Satisfies bound d path op v ↔ op.holds (d.candidates path) v = true := by
  simp [Satisfies, Passes, Predicate.test]

theorem satisfies_iff (hv : v.bracket?.isSome) (hop : op ≠ .ne) : Satisfies bound d path op v ↔
    ∃ c ∈ d.candidates path, ∃ o, c.compareWithin? v = some o ∧ op.admits o = true := by
  rw [satisfies_iff_holds, Comparison.holds_iff hv hop]

/-- A comparison that accepts what either of two others accepts is their disjunction. -/
theorem satisfies_iff_or {weak strict : Comparison} (hv : v.bracket?.isSome) (hweak : weak ≠ .ne)
    (hstrict : strict ≠ .ne)
    (h : ∀ o, weak.admits o = (strict.admits o || Comparison.eq.admits o)) :
    Satisfies bound d path weak v ↔
      Satisfies bound d path strict v ∨ Satisfies bound d path .eq v := by
  have heq : Comparison.eq ≠ .ne := nofun
  simp only [satisfies_iff hv hweak, satisfies_iff hv hstrict, satisfies_iff hv heq, h,
    Bool.or_eq_true, and_or_left, exists_or]

/-- A single value satisfies the strict comparison that its order has, and no other one. -/
theorem satisfies_iff_of_candidates_eq (hv : v.bracket?.isSome) (hop : op ∈ [.lt, .eq, .gt])
    (hc : d.candidates path = [c]) :
    Satisfies bound d path op v ↔ (c.compareWithin? v).map Comparison.ofOrdering = some op := by
  have hne : op ≠ .ne := by
    rintro rfl
    exact absurd hop (by decide)
  rw [satisfies_iff hv hne, hc]
  simp only [List.mem_singleton, exists_eq_left, Comparison.admits_iff_eq_ofOrdering hop,
    Option.map_eq_some_iff]

/-- Where a path leads nowhere, no ordering holds. -/
theorem not_satisfies_of_missing (h : ∀ c, ¬ d.LeadsTo path c) (hop : op ∈ [.gt, .gte, .lt, .lte]) :
    ¬ Satisfies bound d path op v := by
  have hnone : d.candidates path = [] :=
    List.eq_nil_iff_forall_not_mem.mpr fun c hc => h c (Document.mem_candidates_iff.mp hc)
  rw [satisfies_iff_holds, hnone]
  cases op with
  | eq | ne => exact absurd hop (by decide)
  | gt | gte | lt | lte => exact nofun

/-- **Comparisons are coherent.** With a value of a bracket, `gte` is `gt` or `eq` and `lte` is `lt`
or `eq`, whatever the path leads to. Where it leads to a single value, at most one of `lt`, `eq` and
`gt` holds, and exactly one if and only if this value is in the same bracket. Where it leads
nowhere, no ordering holds. And equal values are tied in the order of sorting. -/
theorem comparisons_coherent :
    (∀ (bound : Bindings) (d : Document) (path : String) (v : Value), v.bracket?.isSome →
      (Satisfies bound d path .gte v ↔
        Satisfies bound d path .gt v ∨ Satisfies bound d path .eq v) ∧
      (Satisfies bound d path .lte v ↔
        Satisfies bound d path .lt v ∨ Satisfies bound d path .eq v) ∧
      ∀ c, d.candidates path = [c] →
        (∀ op ∈ [Comparison.lt, .eq, .gt], ∀ op' ∈ [Comparison.lt, .eq, .gt],
          Satisfies bound d path op v → Satisfies bound d path op' v → op = op') ∧
        ((∃! op, op ∈ [Comparison.lt, .eq, .gt] ∧ Satisfies bound d path op v) ↔
          c.bracket? = v.bracket?)) ∧
    (∀ (bound : Bindings) (d : Document) (path : String) (v : Value),
      (∀ c, ¬ d.LeadsTo path c) →
        ∀ op ∈ [Comparison.gt, .gte, .lt, .lte], ¬ Satisfies bound d path op v) ∧
    ∀ a b : Value, a.equal b = true → a.order b = .eq := by
  refine ⟨fun bound d path v hv => ⟨?_, ?_, fun c hc => ?_⟩,
    fun bound d path v hmissing op hop => not_satisfies_of_missing hmissing hop,
    fun a b => Value.order_of_equal⟩
  · exact satisfies_iff_or hv nofun nofun fun o => by cases o <;> rfl
  · exact satisfies_iff_or hv nofun nofun fun o => by cases o <;> rfl
  · have hstrict : ∀ op ∈ [Comparison.lt, .eq, .gt], Satisfies bound d path op v ↔
        (c.compareWithin? v).map Comparison.ofOrdering = some op :=
      fun op hop => satisfies_iff_of_candidates_eq hv hop hc
    refine ⟨fun op hop op' hop' h h' => ?_, ?_⟩
    · rw [hstrict op hop] at h
      rw [hstrict op' hop', h] at h'
      exact Option.some.inj h'
    · have hbracket : c.bracket? = v.bracket? ↔ (c.compareWithin? v).isSome := by
        rw [Value.isSome_compareWithin?_iff, and_iff_left hv]
      rw [hbracket]
      constructor
      · rintro ⟨op, ⟨hop, hsat⟩, -⟩
        rw [hstrict op hop] at hsat
        rw [← Option.isSome_map, hsat]
        rfl
      · intro hsome
        obtain ⟨o, ho⟩ := Option.isSome_iff_exists.mp hsome
        have hmem := Comparison.ofOrdering_mem o
        rw [ho, Option.map_some] at hstrict
        refine ⟨_, ⟨hmem, (hstrict _ hmem).mpr rfl⟩, fun op ⟨hop, hsat⟩ => ?_⟩
        exact (Option.some.inj ((hstrict op hop).mp hsat)).symm

/-- A record with a list of one document and a text. -/
def listedThree : Document :=
  [("geom", .array [.document [("H11", .double ⟨0x4008000000000000⟩)], .string "H11"])]

/-- A path through the list leads to the number three alone, which equals a whole number, and to
nothing under another name. -/
theorem comparisons_listedThree :
    (Value.int64 3).bracket?.isSome ∧
    listedThree.candidates "geom.H11" = [.double ⟨0x4008000000000000⟩] ∧
    Satisfies [] listedThree "geom.H11" .gte (.int64 3) ∧
    Satisfies [] listedThree "geom.H11" .lte (.int64 3) ∧
    ¬ Satisfies [] listedThree "geom.H11" .gt (.int64 3) ∧
    (∃! op, op ∈ [Comparison.lt, .eq, .gt] ∧ Satisfies [] listedThree "geom.H11" op (.int64 3)) ∧
    (∀ c, ¬ listedThree.LeadsTo "geom.H12" c) ∧
    ¬ Satisfies [] listedThree "geom.H12" .lte (.int64 3) ∧
    (Value.double ⟨0x4008000000000000⟩).equal (.int64 3) = true ∧
    (Value.double ⟨0x4008000000000000⟩).order (.int64 3) = .eq := by
  obtain ⟨hbracketed, hmissing, htied⟩ := comparisons_coherent
  have hbracket : (Value.int64 3).bracket?.isSome := rfl
  have hpath : pathSegments? "geom.H11" = some ["geom", "H11"] := by decide +kernel
  have hother : pathSegments? "geom.H12" = some ["geom", "H12"] := by decide +kernel
  have hsingle : listedThree.candidates "geom.H11" = [.double ⟨0x4008000000000000⟩] := by
    simp [Document.candidates, hpath, listedThree, Value.candidatesOfField, Value.candidatesIn,
      Value.candidatesOfItems]
  obtain ⟨hgte, hlte, hstrict⟩ := hbracketed [] listedThree "geom.H11" (.int64 3) hbracket
  obtain ⟨hunique, hexactly⟩ := hstrict _ hsingle
  have heq : Satisfies [] listedThree "geom.H11" .eq (.int64 3) :=
    satisfies_iff_holds.mpr (by rw [hsingle]; decide +kernel)
  have hnowhere : ∀ c, ¬ listedThree.LeadsTo "geom.H12" c := fun c hc => by
    have hmem := Document.mem_candidates_iff.mpr hc
    simp [Document.candidates, hother, listedThree, Value.candidatesOfField, Value.candidatesIn,
      Value.candidatesOfItems] at hmem
  have hequal : (Value.double ⟨0x4008000000000000⟩).equal (.int64 3) = true := by decide +kernel
  exact ⟨hbracket, hsingle, hgte.mpr (.inr heq), hlte.mpr (.inr heq),
    fun hgt => absurd (hunique .gt (by decide) .eq (by decide) hgt heq) (by decide),
    hexactly.mpr rfl, hnowhere, hmissing _ _ _ _ hnowhere .lte (by decide), hequal,
    htied _ _ hequal⟩

end Strata
