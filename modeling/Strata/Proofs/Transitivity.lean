import Strata.Proofs.Rounding
import Strata.Proofs.Sorting

/-!
# Transitivity of the order of values

The order of sort stages turns around when its arguments are exchanged, but ties need not be
transitive: a value can be tied with two values that are not tied with each other. Then it hides
their order, and a sort may leave them the wrong way round.

This happens in three ways only. A symbol is tied with every string and a 128-bit decimal with every
number, since these pairs are in no common bracket. And a binary64 number is tied with every whole
number that is rounded to it. On values without such a triple the order is transitive.
-/

namespace Strata

namespace Decimal.Double

theorem orderKey_injective {a b : Double} (h : a.orderKey = b.orderKey) : a = b := by
  have hbits : a.bits.toNat = b.bits.toNat := by
    simp only [orderKey, isNegative, magnitude, decide_eq_true_eq] at h
    have ha := a.bits.toNat_lt
    have hb := b.bits.toNat_lt
    split_ifs at h <;> omega
  obtain ⟨a⟩ := a
  obtain ⟨b⟩ := b
  exact congrArg Double.mk (UInt64.toNat_inj.mp hbits)

end Decimal.Double

namespace Value

open Decimal

/-- The value `b` hides the order of `a` and `c`: it is tied with both, and they are not tied. -/
inductive Blurs : Value → Value → Value → Prop
  | symbol (name : String) {s t : String} (h : s ≠ t) : Blurs (symbol name) (string s) (string t)
  | decimal (d : Decimal128) {a c : Value} (ha : a.isNumber = true) (hc : c.isNumber = true)
      (h : compareNumbers a c ≠ .eq) : Blurs (decimal d) a c
  | rounding {a c : Value} {m n : Int} (ha : a.toInt? = some m) (hc : c.toInt? = some n) (h : m ≠ n)
      (hround : Double.ofInt m = Double.ofInt n) : Blurs (double (Double.ofInt m)) a c

/-! ## Numbers -/

variable {a b c : Value}

/-- A number is a whole number, which is rounded to binary64, or a binary64 number. -/
theorem isNumber_cases (h : a.isNumber = true) :
    (∃ n, a.toInt? = some n ∧ a.toDouble? = some (Double.ofInt n)) ∨ ∃ d, a = double d := by
  cases a with
  | int32 n => exact .inl ⟨n.toInt, rfl, rfl⟩
  | int64 n => exact .inl ⟨n.toInt, rfl, rfl⟩
  | double d => exact .inr ⟨d, rfl⟩
  | _ => cases h

theorem isNumber_of_toInt? {n : Int} (h : a.toInt? = some n) : a.isNumber = true := by
  cases a with
  | int32 _ | int64 _ => rfl
  | _ => cases h

theorem toDouble?_of_toInt? {n : Int} (h : a.toInt? = some n) :
    a.toDouble? = some (Double.ofInt n) := by
  cases a with
  | int32 _ | int64 _ =>
    cases h
    rfl
  | _ => cases h

/-- The place of a number among the binary64 words, after rounding. -/
def numberKey (a : Value) : Int := (a.toDouble?.map Double.orderKey).getD 0

theorem numberKey_double (d : Double) : (double d).numberKey = d.orderKey := rfl

theorem numberKey_of_toDouble? {d : Double} (h : a.toDouble? = some d) :
    a.numberKey = d.orderKey := by
  rw [numberKey, h]
  rfl

theorem compareNumbers_of_toInt? {m n : Int} (ha : a.toInt? = some m) (hb : b.toInt? = some n) :
    compareNumbers a b = compare m n := by
  rw [compareNumbers, ha, hb]

/-- A number is compared with a binary64 number by their places. -/
theorem compareNumbers_double (ha : a.isNumber = true) (d : Double) :
    compareNumbers a (double d) = compare a.numberKey d.orderKey := by
  rcases isNumber_cases ha with ⟨m, hint, hdouble⟩ | ⟨d', rfl⟩
  · rw [numberKey_of_toDouble? hdouble, compareNumbers, hint, hdouble]
    rfl
  · rfl

theorem numberKey_le (ha : a.isNumber = true) (hb : b.isNumber = true)
    (h : compareNumbers a b ≠ .gt) : a.numberKey ≤ b.numberKey := by
  rcases isNumber_cases hb with ⟨n, hbint, hbdouble⟩ | ⟨d, rfl⟩
  · rcases isNumber_cases ha with ⟨m, haint, hadouble⟩ | ⟨d, rfl⟩
    · rw [compareNumbers_of_toInt? haint hbint, Int.compare_ne_gt] at h
      rw [numberKey_of_toDouble? hadouble, numberKey_of_toDouble? hbdouble]
      exact Double.orderKey_ofInt_mono h
    · rw [compareNumbers_swap b (double d), compareNumbers_double hb, ← Std.OrientedOrd.eq_swap,
        Int.compare_ne_gt] at h
      exact h
  · rw [compareNumbers_double ha, Int.compare_ne_gt] at h
    exact h

/-- Only rounding breaks the transitivity of numbers. -/
theorem blurs_of_compareNumbers (ha : a.isNumber = true) (hb : b.isNumber = true)
    (hc : c.isNumber = true) (hab : compareNumbers a b ≠ .gt) (hbc : compareNumbers b c ≠ .gt)
    (hac : compareNumbers a c = .gt) : Blurs b a c := by
  have hkab := numberKey_le ha hb hab
  have hkbc := numberKey_le hb hc hbc
  rcases isNumber_cases hc with ⟨n, hcint, hcdouble⟩ | ⟨d, rfl⟩
  · rcases isNumber_cases ha with ⟨m, haint, hadouble⟩ | ⟨d, rfl⟩
    · rw [compareNumbers_of_toInt? haint hcint, Int.compare_eq_gt] at hac
      rcases isNumber_cases hb with ⟨k, hbint, -⟩ | ⟨d, rfl⟩
      · -- three whole numbers are compared exactly
        rw [compareNumbers_of_toInt? haint hbint, Int.compare_ne_gt] at hab
        rw [compareNumbers_of_toInt? hbint hcint, Int.compare_ne_gt] at hbc
        omega
      · -- `m` is the larger one, so rounding cannot put it before `n`; all three places are one
        rw [numberKey_of_toDouble? hadouble, numberKey_double] at hkab
        rw [numberKey_of_toDouble? hcdouble, numberKey_double] at hkbc
        have hmono := Double.orderKey_ofInt_mono hac.le
        have hm : Double.ofInt m = d := Double.orderKey_injective (by omega)
        have hn : Double.ofInt n = d := Double.orderKey_injective (by omega)
        rw [← hm]
        exact .rounding haint hcint hac.ne' (hm.trans hn.symm)
    · rw [compareNumbers_swap c (double d), compareNumbers_double hc, ← Std.OrientedOrd.eq_swap,
        Int.compare_eq_gt] at hac
      rw [numberKey_double] at hkab
      omega
  · rw [compareNumbers_double ha, Int.compare_eq_gt] at hac
    rw [numberKey_double] at hkbc
    omega

/-! ## Brackets and ranks -/

theorem rank_of_isNumber (h : a.isNumber = true) : a.rank = 2 := by
  cases a with
  | int32 _ | int64 _ | double _ => rfl
  | _ => cases h

/-- A bracket lies within a rank. -/
theorem rank_eq_of_compareWithin? {o : Ordering} (h : compareWithin? a b = some o) :
    a.rank = b.rank := by
  unfold compareWithin? at h
  split at h
  next hnumbers =>
    rw [Bool.and_eq_true] at hnumbers
    rw [rank_of_isNumber hnumbers.1, rank_of_isNumber hnumbers.2]
  next =>
    split at h
    all_goals first | rfl | cases h

theorem rank_le_of_order (h : a.order b ≠ .gt) : a.rank ≤ b.rank := by
  rw [order] at h
  cases hwithin : compareWithin? a b with
  | none =>
    rw [hwithin, Option.getD_none, Nat.compare_ne_gt] at h
    exact h
  | some o => exact (rank_eq_of_compareWithin? hwithin).le

theorem order_of_compareWithin? {o : Ordering} (h : compareWithin? a b = some o) :
    a.order b = o := by
  rw [order, h]
  rfl

theorem compareWithin?_of_isNumber (ha : a.isNumber = true) (hb : b.isNumber = true) :
    compareWithin? a b = some (compareNumbers a b) := by
  unfold compareWithin?
  rw [ha, hb]
  rfl

theorem order_of_isNumber (ha : a.isNumber = true) (hb : b.isNumber = true) :
    a.order b = compareNumbers a b :=
  order_of_compareWithin? (compareWithin?_of_isNumber ha hb)

theorem compare_trans {α : Type} [Ord α] [Std.TransOrd α] {x y z : α} (hxy : compare x y ≠ .gt)
    (hyz : compare y z ≠ .gt) : compare x z ≠ .gt := by
  have hle := Ordering.isLE_iff_ne_gt.mpr hxy
  exact Ordering.isLE_iff_ne_gt.mp (Std.TransOrd.isLE_trans hle (Ordering.isLE_iff_ne_gt.mpr hyz))

/-- The ranks do not decide that a value comes behind another one of no lower rank. -/
theorem compareWithin?_of_order_gt (hrank : a.rank ≤ c.rank) (h : a.order c = .gt) :
    compareWithin? a c = some .gt := by
  rw [order] at h
  cases hwithin : compareWithin? a c with
  | none =>
    rw [hwithin, Option.getD_none, Nat.compare_eq_gt] at h
    omega
  | some o =>
    rw [hwithin, Option.getD_some] at h
    rw [h]

theorem blurs_of_numbers (ha : a.isNumber = true) (hc : c.isNumber = true) (hrank : b.rank = 2)
    (hab : a.order b ≠ .gt) (hbc : b.order c ≠ .gt) (hac : compareNumbers a c = .gt) :
    Blurs b a c := by
  by_cases hb : b.isNumber = true
  · rw [order_of_isNumber ha hb] at hab
    rw [order_of_isNumber hb hc] at hbc
    exact blurs_of_compareNumbers ha hb hc hab hbc hac
  · cases b with
    | decimal d => exact .decimal d ha hc (by rw [hac]; decide)
    | int32 _ | int64 _ | double _ => exact absurd rfl hb
    | _ => simp [rank] at hrank

theorem blurs_of_strings {s t : String} (hrank : b.rank = 3) (hab : (string s).order b ≠ .gt)
    (hbc : b.order (string t) ≠ .gt) (hac : compare s t = .gt) :
    Blurs b (string s) (string t) := by
  cases b with
  | string u => exact absurd hac (compare_trans hab hbc)
  | symbol name =>
    refine .symbol name fun heq => ?_
    rw [heq, Std.ReflOrd.compare_self] at hac
    cases hac
  | _ => simp [rank] at hrank

/-- A value between two others that are the wrong way round hides their order. -/
theorem blurs_of_order (hab : a.order b ≠ .gt) (hbc : b.order c ≠ .gt) (hac : a.order c = .gt) :
    Blurs b a c := by
  have hrab := rank_le_of_order hab
  have hrbc := rank_le_of_order hbc
  have hwithin := compareWithin?_of_order_gt (hrab.trans hrbc) hac
  have hrank : b.rank = a.rank := by
    have hrac := rank_eq_of_compareWithin? hwithin
    omega
  unfold compareWithin? at hwithin
  split at hwithin
  next hnumbers =>
    obtain ⟨ha, hc⟩ := Bool.and_eq_true_iff.mp hnumbers
    rw [rank_of_isNumber ha] at hrank
    exact blurs_of_numbers ha hc hrank hab hbc (Option.some.inj hwithin)
  next =>
    split at hwithin
    next => exact blurs_of_strings hrank hab hbc (Option.some.inj hwithin)
    -- the other brackets are whole ranks with one linear order
    next =>
      cases b with
      | bool u => exact absurd (Option.some.inj hwithin) (compare_trans hab hbc)
      | _ => simp [rank] at hrank
    next =>
      cases b with
      | objectId k => exact absurd (Option.some.inj hwithin) (compare_trans hab hbc)
      | _ => simp [rank] at hrank
    next =>
      cases b with
      | dateTime u => exact absurd (Option.some.inj hwithin) (compare_trans hab hbc)
      | _ => simp [rank] at hrank
    next => cases hwithin

/-! ## What hides an order -/

theorem order_decimal (h : a.isNumber = true) (d : Decimal128) : a.order (decimal d) = .eq := by
  cases a with
  | int32 _ | int64 _ | double _ => rfl
  | _ => cases h

/-- A whole number is tied with the binary64 number that it is rounded to. -/
theorem order_rounding {n : Int} (h : a.toInt? = some n) :
    a.order (double (Double.ofInt n)) = .eq := by
  have hnumber : a.isNumber = true := isNumber_of_toInt? h
  rw [order_of_isNumber hnumber rfl, compareNumbers_double hnumber,
    numberKey_of_toDouble? (toDouble?_of_toInt? h)]
  exact Std.ReflOrd.compare_self

theorem Blurs.symm (h : Blurs b a c) : Blurs b c a := by
  cases h with
  | symbol name hst => exact .symbol name hst.symm
  | decimal d ha hc hne =>
    refine .decimal d hc ha fun heq => hne ?_
    rw [compareNumbers_swap c a, heq]
    rfl
  | rounding ha hc hne hround =>
    rw [hround]
    exact .rounding hc ha hne.symm hround.symm

/-- What hides the order of two values is tied with both of them, and they are not tied. -/
theorem Blurs.order (h : Blurs b a c) :
    a.order b = .eq ∧ c.order b = .eq ∧ a.order c ≠ .eq := by
  cases h with
  | symbol name hst =>
    refine ⟨rfl, rfl, fun heq => hst ?_⟩
    exact Std.LawfulEqOrd.eq_of_compare heq
  | decimal d ha hc hne =>
    refine ⟨order_decimal ha d, order_decimal hc d, ?_⟩
    rw [order_of_isNumber ha hc]
    exact hne
  | rounding ha hc hne hround =>
    refine ⟨order_rounding ha, ?_, ?_⟩
    · rw [hround]
      exact order_rounding hc
    · rw [order_of_isNumber (isNumber_of_toInt? ha) (isNumber_of_toInt? hc),
        compareNumbers_of_toInt? ha hc]
      exact fun heq => hne (Int.compare_eq_eq.mp heq)

theorem Blurs.order_ne_gt (h : Blurs b a c) : a.order b ≠ .gt ∧ b.order c ≠ .gt := by
  obtain ⟨hab, hcb, -⟩ := h.order
  refine ⟨by rw [hab]; decide, ?_⟩
  rw [order_swap c b, hcb]
  decide

/-- On a list of values the order is transitive exactly if none of them hides the order of two
others. -/
theorem transitiveOn_iff {vs : List Value} :
    TransitiveOn vs ↔ ∀ a ∈ vs, ∀ b ∈ vs, ∀ c ∈ vs, ¬ Blurs b a c := by
  constructor
  · intro htrans a ha b hb c hc hblurs
    obtain ⟨hab, hbc⟩ := hblurs.order_ne_gt
    obtain ⟨hcb, hba⟩ := hblurs.symm.order_ne_gt
    have hle : a.order c ≠ .gt := htrans a ha b hb c hc hab hbc
    have hge : c.order a ≠ .gt := htrans c hc b hb a ha hcb hba
    rw [order_swap a c] at hge
    cases hcompare : a.order c with
    | lt => exact hge (by rw [hcompare]; rfl)
    | eq => exact hblurs.order.2.2 hcompare
    | gt => exact hle hcompare
  · intro hclear a ha b hb c hc hab hbc hac
    exact hclear a ha b hb c hc (blurs_of_order hab hbc hac)

/-- **The order is total up to hidden orders.** It turns around when its arguments are exchanged, and
going from one value over a second to a third fails exactly if the second hides that the first comes
behind the third. -/
theorem order_swap_and_trans_iff (a b c : Value) :
    b.order a = (a.order b).swap ∧
      ((a.order b ≠ .gt → b.order c ≠ .gt → a.order c ≠ .gt) ↔
        ¬ (Blurs b a c ∧ a.order c = .gt)) := by
  refine ⟨order_swap a b, ⟨?_, ?_⟩⟩
  · rintro htrans ⟨hblurs, hac⟩
    obtain ⟨hab, hbc⟩ := hblurs.order_ne_gt
    exact htrans hab hbc hac
  · intro hclear hab hbc hac
    exact hclear ⟨blurs_of_order hab hbc hac, hac⟩

/-- Around two to the fifty-third power a binary64 number hides the order of two whole numbers, and
sorting leaves the larger one first. -/
theorem not_order_trans :
    (int64 9007199254740993).order (double ⟨0x4340000000000000⟩) ≠ .gt ∧
    (double ⟨0x4340000000000000⟩).order (int64 9007199254740992) ≠ .gt ∧
    (int64 9007199254740993).order (int64 9007199254740992) = .gt ∧
    sortRows [⟨"H11", .asc⟩] [[("H11", int64 9007199254740993)],
        [("H11", double ⟨0x4340000000000000⟩)], [("H11", int64 9007199254740992)]]
      = [[("H11", int64 9007199254740993)], [("H11", double ⟨0x4340000000000000⟩)],
        [("H11", int64 9007199254740992)]] := by
  refine ⟨by decide +kernel, by decide +kernel, by decide +kernel, ?_⟩
  rfl

end Value

end Strata
