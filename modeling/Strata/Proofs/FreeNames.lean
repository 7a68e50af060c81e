import Mathlib.Data.Finset.Card
import Mathlib.Data.Finset.Dedup
import Mathlib.Order.Bounds.Basic
import Std.Data.String.ToNat
import Strata.Request.Compile

/-!
# Free names

Trying one number after the other has no bound of its own. It ends because different numbers make
different names, so that each try that fails uses up one of the taken names. It takes at most one try
more than there are taken names, and it ends with the least number whose name is free; the bound that
the search of a name is given is never what ends it.
-/

namespace Strata

/-- Trying the numbers from a given one on, without a bound, until the name with the number is free:
how many tries there are, and the number that ends them. -/
inductive NumberTries (name : String) (claimed : List String) : Nat → Nat → Nat → Prop
  | free {i : Nat} (hfree : name ++ "_" ++ toString i ∉ claimed) : NumberTries name claimed i 1 i
  | taken {i tries found : Nat} (htaken : name ++ "_" ++ toString i ∈ claimed)
      (hrest : NumberTries name claimed (i + 1) tries found) :
      NumberTries name claimed i (tries + 1) found

/-- Some taken names to which no number from the given one on leads. -/
structure UsedUp (name : String) (claimed : List String) (i : Nat) (used : Finset String) : Prop where
  subset : used ⊆ claimed.toFinset
  apart : ∀ j, i ≤ j → name ++ "_" ++ toString j ∉ used

section Tries

variable {name : String} {claimed : List String} {i tries found : Nat} {used : Finset String}

/-! ## A run of tries -/

theorem NumberTries.found_add_one (h : NumberTries name claimed i tries found) :
    found + 1 = i + tries := by
  induction h with
  | free => rfl
  | taken _ _ ih => omega

theorem NumberTries.isLeast (h : NumberTries name claimed i tries found) :
    IsLeast {j | i ≤ j ∧ name ++ "_" ++ toString j ∉ claimed} found := by
  induction h with
  | free hfree => exact ⟨⟨le_rfl, hfree⟩, fun j hj => hj.1⟩
  | @taken i tries found htaken _ ih =>
    obtain ⟨⟨hle, hfree⟩, hleast⟩ := ih
    refine ⟨⟨by omega, hfree⟩, fun j ⟨hj, hjfree⟩ => hleast ⟨?_, hjfree⟩⟩
    have hne : i ≠ j := by
      rintro rfl
      exact hjfree htaken
    exact Nat.lt_of_le_of_ne hj hne

theorem NumberTries.unique {tries' found' : Nat} (h : NumberTries name claimed i tries found)
    (h' : NumberTries name claimed i tries' found') : tries' = tries ∧ found' = found := by
  have hfound : found' = found := h'.isLeast.unique h.isLeast
  have htries := h.found_add_one
  have htries' := h'.found_add_one
  exact ⟨by omega, hfound⟩

/-- A bounded search that is allowed all the tries finds the number that ends them. -/
theorem NumberTries.numberedName_eq {bound : Nat} (h : NumberTries name claimed i tries found)
    (hbound : tries ≤ bound + 1) :
    numberedName name claimed i bound = name ++ "_" ++ toString found := by
  induction h generalizing bound with
  | free hfree =>
    cases bound with
    | zero => rfl
    | succ bound => rw [numberedName, if_neg (by simpa using hfree)]
  | taken htaken hrest ih =>
    cases bound with
    | zero =>
      have hle := hrest.isLeast.1.1
      have hcount := hrest.found_add_one
      omega
    | succ bound =>
      rw [numberedName, if_pos (by simpa using htaken)]
      exact ih (by omega)

/-! ## Its end -/

theorem usedUp_empty (name : String) (claimed : List String) (i : Nat) :
    UsedUp name claimed i ∅ :=
  ⟨Finset.empty_subset _, fun _ _ => Finset.notMem_empty _⟩

/-- A try that fails uses up its name: no later number leads to it. -/
theorem UsedUp.insert (h : UsedUp name claimed i used)
    (htaken : name ++ "_" ++ toString i ∈ claimed) :
    UsedUp name claimed (i + 1) (Insert.insert (name ++ "_" ++ toString i) used) := by
  refine ⟨Finset.insert_subset (List.mem_toFinset.mpr htaken) h.subset, fun j hj hmem => ?_⟩
  rcases Finset.mem_insert.mp hmem with heq | hmem
  · have hnumber : j = i := Nat.repr_inj.mp ((String.append_right_inj _).mp heq)
    omega
  · exact h.apart j (by omega) hmem

/-- The tries come to an end, and with the names that were used up before they are at most one more
than the taken names. -/
theorem exists_numberTries {i : Nat} {used : Finset String} (h : UsedUp name claimed i used) :
    ∃ tries found, NumberTries name claimed i tries found ∧
      tries + used.card ≤ claimed.toFinset.card + 1 := by
  by_cases htaken : name ++ "_" ++ toString i ∈ claimed
  · have hinsert := h.insert htaken
    have hcard := Finset.card_insert_of_notMem (h.apart i le_rfl)
    have hle := Finset.card_le_card hinsert.subset
    obtain ⟨tries, found, hrest, hbound⟩ := exists_numberTries hinsert
    exact ⟨tries + 1, found, .taken htaken hrest, by omega⟩
  · have hle := Finset.card_le_card h.subset
    exact ⟨1, i, .free htaken, by omega⟩
-- the taken names that are not used up become fewer
termination_by claimed.toFinset.card - used.card
decreasing_by omega

/-- Among one numbered name more than there are taken ones, one is free. -/
theorem numberedName_not_mem (name : String) (claimed : List String) (i : Nat) :
    numberedName name claimed i claimed.length ∉ claimed := by
  obtain ⟨tries, found, h, hbound⟩ := exists_numberTries (usedUp_empty name claimed i)
  have hlength := List.toFinset_card_le claimed
  rw [Finset.card_empty] at hbound
  rw [h.numberedName_eq (by omega)]
  exact h.isLeast.1.2

end Tries

/-! ## Free names of columns -/

section Disambiguate

variable {name : String} {level : Level} {claimed : List String}

theorem disambiguate_of_taken (h : name ∈ claimed) (htag : name ++ "__" ++ level.name ∈ claimed) :
    disambiguate name level claimed
      = numberedName (name ++ "__" ++ level.name) claimed 2 claimed.length := by
  simp [disambiguate, h, htag]

theorem disambiguate_of_tag_free (h : name ∈ claimed)
    (htag : name ++ "__" ++ level.name ∉ claimed) :
    disambiguate name level claimed = name ++ "__" ++ level.name := by
  simp [disambiguate, h, htag]

/-- The name that is made of a name is free. -/
theorem disambiguate_not_mem (name : String) (level : Level) (claimed : List String) :
    disambiguate name level claimed ∉ claimed := by
  simp only [disambiguate]
  split
  next h => simpa using h
  next =>
    split
    next h => simpa using h
    next => exact numberedName_not_mem _ _ _

/-- A name is kept if and only if it is free. -/
theorem disambiguate_eq_self_iff : disambiguate name level claimed = name ↔ name ∉ claimed := by
  constructor
  · intro h
    exact h ▸ disambiguate_not_mem name level claimed
  · intro h
    rw [disambiguate, if_pos (by simpa using h)]

theorem length_lt_length_numbered (name : String) (j : Nat) :
    name.length < (name ++ "_" ++ toString j).length := by
  have hmark : "_".length = 1 := rfl
  rw [String.length_append, String.length_append, hmark]
  omega

theorem length_lt_length_tagged (name : String) (level : Level) :
    name.length < (name ++ "__" ++ level.name).length := by
  have hmark : "__".length = 2 := rfl
  rw [String.length_append, String.length_append, hmark]
  omega

/-- A name and the name with a level behind it are shorter than those with a number behind it. -/
theorem usedUp_tagged (h : name ∈ claimed) (htag : name ++ "__" ++ level.name ∈ claimed) :
    UsedUp (name ++ "__" ++ level.name) claimed 2 {name, name ++ "__" ++ level.name} where
  subset := by
    refine Finset.insert_subset (List.mem_toFinset.mpr h) ?_
    exact Finset.singleton_subset_iff.mpr (List.mem_toFinset.mpr htag)
  apart := by
    intro j _ hmem
    have htagged := length_lt_length_tagged name level
    have hnumbered := length_lt_length_numbered (name ++ "__" ++ level.name) j
    rw [Finset.mem_insert, Finset.mem_singleton] at hmem
    rcases hmem with heq | heq
    · rw [heq] at hnumbered
      omega
    · rw [heq] at hnumbered
      omega

theorem card_tagged (name : String) (level : Level) :
    ({name, name ++ "__" ++ level.name} : Finset String).card = 2 := by
  refine Finset.card_pair fun heq => ?_
  exact (length_lt_length_tagged name level).ne (congrArg String.length heq)

/-- A name is made free. It stays as it is if it is free; else the name of the level goes behind it if
that makes it free; else the least number from two on that makes it free goes behind both. Tried one
after the other, the numbers come to this one and to no other, after at most one try more than there
are taken names, and it is never larger than the number of these. -/
theorem disambiguate_ends (name : String) (level : Level) (claimed : List String) :
    disambiguate name level claimed ∉ claimed ∧
      if name ∉ claimed then disambiguate name level claimed = name
      else if name ++ "__" ++ level.name ∉ claimed then
        disambiguate name level claimed = name ++ "__" ++ level.name
      else ∃ tries found,
        (∀ n j, NumberTries (name ++ "__" ++ level.name) claimed 2 n j ↔ n = tries ∧ j = found) ∧
          tries ≤ claimed.toFinset.card + 1 ∧ found ≤ claimed.toFinset.card ∧
          IsLeast {j | 2 ≤ j ∧ name ++ "__" ++ level.name ++ "_" ++ toString j ∉ claimed} found ∧
          disambiguate name level claimed
            = name ++ "__" ++ level.name ++ "_" ++ toString found := by
  refine ⟨disambiguate_not_mem name level claimed, ?_⟩
  by_cases hname : name ∈ claimed
  · rw [if_neg (not_not_intro hname)]
    by_cases htag : name ++ "__" ++ level.name ∈ claimed
    · rw [if_neg (not_not_intro htag)]
      -- two of the taken names have no number, so that two fewer are left for the tries
      obtain ⟨tries, found, h, hbound⟩ := exists_numberTries (usedUp_tagged hname htag)
      have hcount := h.found_add_one
      have hlength := List.toFinset_card_le claimed
      rw [card_tagged] at hbound
      refine ⟨tries, found, fun n j => ⟨h.unique, ?_⟩, by omega, by omega, h.isLeast, ?_⟩
      · rintro ⟨rfl, rfl⟩
        exact h
      · rw [disambiguate_of_taken hname htag, h.numberedName_eq (by omega)]
    · rw [if_pos htag]
      exact disambiguate_of_tag_free hname htag
  · rw [if_pos hname]
    exact disambiguate_eq_self_iff.mpr hname

example : disambiguate "H11" .geom ["H11", "H11__GEOM", "H11__GEOM_2", "H11__GEOM_4"]
    = "H11__GEOM_3" := rfl

end Disambiguate

end Strata
