import Strata.Proofs.WordUnits

/-!
# Numbers and their order

Numbers of three kinds are compared with each other. What a value denotes does not depend on its
kind, and comparing values should be comparing what they denote. It is, with two exceptions. A whole
number that no binary64 word denotes is rounded before it is compared with a word, and it is taken
for the number that it is rounded to. And the word of the negative zero comes before every other
zero.
-/

namespace Strata

namespace Value

open Decimal

/-! ## Comparing values -/

/-- What a number denotes, if it is one: all whole numbers and all words but the not-a-numbers. -/
def number? : Value → Option Number
  | int32 n => some ((n.toInt : ℚ) : Number)
  | int64 n => some ((n.toInt : ℚ) : Number)
  | double d => d.number?
  | _ => none

/-- Two values are compared as what they denote. -/
structure ComparedAs (a b : Value) (x y : Number) : Prop where
  equal : a.equal b = true ↔ x = y
  within : compareWithin? a b = some (compare x y)
  order : a.order b = compare x y

/-- Both values are zero, and exactly one of them is the word of the negative zero. -/
def SplitZeros (a b : Value) : Prop :=
  a.number? = some ((0 : ℚ) : Number) ∧ b.number? = some ((0 : ℚ) : Number) ∧
    Xor (a = double (.zero true)) (b = double (.zero true))

/-- A whole number is rounded to a word that denotes another number. -/
def RoundsTo (a b : Value) : Prop :=
  ∃ n, a.toInt? = some n ∧ b = double (Double.ofInt n) ∧ b.number? ≠ a.number?

/-- The units of a number. -/
def units : Value → Int
  | int32 n => n.toInt * Double.unitsOfOne
  | int64 n => n.toInt * Double.unitsOfOne
  | double d => d.units
  | _ => 0

variable {a b : Value} {x y : Number}

theorem number?_of_toInt? {n : Int} (h : a.toInt? = some n) :
    a.number? = some ((n : ℚ) : Number) ∧ a.units = n * Double.unitsOfOne ∧ n.natAbs ≤ 2 ^ 63 := by
  cases a with
  | int32 k =>
    obtain rfl := Option.some.inj h
    have hlow := k.le_toInt
    have hhigh := k.toInt_lt
    exact ⟨rfl, rfl, by omega⟩
  | int64 k =>
    obtain rfl := Option.some.inj h
    have hlow := k.le_toInt
    have hhigh := k.toInt_lt
    exact ⟨rfl, rfl, by omega⟩
  | _ => cases h

/-- What denotes a number is a whole number or a word. -/
theorem number?_cases (h : a.number? = some x) :
    (∃ n, a.toInt? = some n) ∨ ∃ d, a = double d ∧ d.isNaN = false := by
  cases a with
  | int32 n => exact .inl ⟨n.toInt, rfl⟩
  | int64 n => exact .inl ⟨n.toInt, rfl⟩
  | double d =>
    refine .inr ⟨d, rfl, ?_⟩
    cases hd : d.isNaN with
    | false => rfl
    | true => simp [number?, Double.number?, hd] at h
  | _ => cases h

theorem isNumber_of_number? (h : a.number? = some x) : a.isNumber = true := by
  rcases number?_cases h with ⟨n, hn⟩ | ⟨d, rfl, -⟩
  · exact isNumber_of_toInt? hn
  · rfl

theorem eq_ofUnits (h : a.number? = some x) : x = Double.ofUnits a.units := by
  rcases number?_cases h with ⟨n, hint⟩ | ⟨d, rfl, hd⟩
  · obtain ⟨hnumber, hunits, hn⟩ := number?_of_toInt? hint
    rw [hnumber] at h
    rw [← Option.some.inj h, hunits, Double.intCast_eq_ofUnits hn]
  · have hnumber : d.number? = some x := h
    rw [Double.number?_eq_ofUnits hd] at hnumber
    exact (Option.some.inj hnumber).symm

theorem natAbs_units_le (h : a.number? = some x) :
    a.units.natAbs ≤ Double.unitsOf Double.infinityMagnitude := by
  rcases number?_cases h with ⟨n, hint⟩ | ⟨d, rfl, hd⟩
  · obtain ⟨-, hunits, hn⟩ := number?_of_toInt? hint
    rw [hunits]
    exact (Double.natAbs_mul_unitsOfOne_lt hn).le
  · exact Double.natAbs_units_le hd

/-- Numbers are in the order of their units. -/
theorem lt_iff_units_lt (ha : a.number? = some x) (hb : b.number? = some y) :
    x < y ↔ a.units < b.units := by
  rw [eq_ofUnits ha, eq_ofUnits hb]
  exact Double.ofUnits_lt_iff (natAbs_units_le ha) (natAbs_units_le hb)

theorem le_iff_units_le (ha : a.number? = some x) (hb : b.number? = some y) :
    x ≤ y ↔ a.units ≤ b.units := by
  rw [← not_lt, lt_iff_units_lt hb ha, not_lt]

theorem SplitZeros.symm (h : SplitZeros a b) : SplitZeros b a := by
  obtain ⟨ha, hb, hsplit⟩ := h
  exact ⟨hb, ha, hsplit.symm⟩

theorem number?_zero (negative : Bool) :
    (double (.zero negative)).number? = some ((0 : ℚ) : Number) := by
  have hnan : (Double.zero negative).isNaN = false := by cases negative <;> decide
  have hinfinite : (Double.zero negative).isInfinite = false := by cases negative <;> decide
  have hsignificand : (Double.zero negative).significand = 0 := by cases negative <;> decide
  rw [number?, Double.number?, hnan, hinfinite, hsignificand]
  simp only [Bool.false_eq_true, if_false, Nat.cast_zero, mul_zero, zero_mul]

/-- A number that is not larger is not compared as the larger one, unless the zeros are split. -/
theorem compareNumbers_ne_gt (ha : a.number? = some x) (hb : b.number? = some y) (h : x ≤ y) :
    compareNumbers a b ≠ .gt ∨ SplitZeros a b := by
  rw [le_iff_units_le ha hb] at h
  rcases number?_cases ha with ⟨m, hm⟩ | ⟨d, rfl, hd⟩
  · obtain ⟨hmnumber, hmunits, -⟩ := number?_of_toInt? hm
    rw [hmunits] at h
    rcases number?_cases hb with ⟨n, hn⟩ | ⟨e, rfl, he⟩
    · -- two whole numbers are not rounded
      rw [(number?_of_toInt? hn).2.1] at h
      have hle : m ≤ n := Int.le_of_mul_le_mul_right h (Int.ofNat_lt.mpr Double.unitsOfOne_pos)
      rw [compareNumbers_of_toInt? hm hn]
      exact .inl (Int.compare_ne_gt.mpr hle)
    · rw [compareNumbers_double (isNumber_of_toInt? hm),
        numberKey_of_toDouble? (toDouble?_of_toInt? hm)]
      rcases Double.orderKey_ofInt_le he h with hle | ⟨rfl, rfl⟩
      · exact .inl (Int.compare_ne_gt.mpr hle)
      · refine .inr ⟨hmnumber, number?_zero true, .inr ⟨rfl, fun hzero => ?_⟩⟩
        rw [hzero] at hm
        cases hm
  · rw [compareNumbers_swap b (double d), compareNumbers_double (isNumber_of_number? hb),
      ← Std.OrientedOrd.eq_swap]
    rcases number?_cases hb with ⟨n, hn⟩ | ⟨e, rfl, he⟩
    · rw [(number?_of_toInt? hn).2.1] at h
      rw [numberKey_of_toDouble? (toDouble?_of_toInt? hn)]
      exact .inl (Int.compare_ne_gt.mpr (Double.orderKey_le_ofInt hd h))
    · rcases Double.orderKey_le_of_units_le h with hle | ⟨rfl, rfl⟩
      · exact .inl (Int.compare_ne_gt.mpr hle)
      · refine .inr ⟨number?_zero false, number?_zero true, .inr ⟨rfl, fun hzero => ?_⟩⟩
        injection hzero with hzero
        exact absurd hzero (by decide)

/-- Numbers that are tied are one number, unless a whole number is rounded to the other one. -/
theorem eq_of_compareNumbers (ha : a.number? = some x) (hb : b.number? = some y)
    (h : compareNumbers a b = .eq) : x = y ∨ RoundsTo a b ∨ RoundsTo b a := by
  by_cases hxy : x = y
  · exact .inl hxy
  · have hnumbers : b.number? ≠ a.number? := by
      rw [ha, hb]
      exact fun heq => hxy (Option.some.inj heq).symm
    rcases number?_cases ha with ⟨m, hm⟩ | ⟨d, rfl, hd⟩
    · rcases number?_cases hb with ⟨n, hn⟩ | ⟨e, rfl, he⟩
      · rw [compareNumbers_of_toInt? hm hn, Int.compare_eq_eq] at h
        rw [(number?_of_toInt? hm).1, (number?_of_toInt? hn).1, h] at hnumbers
        exact absurd rfl hnumbers
      · rw [compareNumbers_double (isNumber_of_toInt? hm),
          numberKey_of_toDouble? (toDouble?_of_toInt? hm), Int.compare_eq_eq] at h
        obtain rfl := Double.orderKey_injective h
        exact .inr (.inl ⟨m, hm, rfl, hnumbers⟩)
    · rw [compareNumbers_swap b (double d), compareNumbers_double (isNumber_of_number? hb),
        ← Std.OrientedOrd.eq_swap, Int.compare_eq_eq] at h
      rcases number?_cases hb with ⟨n, hn⟩ | ⟨e, rfl, he⟩
      · rw [numberKey_of_toDouble? (toDouble?_of_toInt? hn)] at h
        obtain rfl := Double.orderKey_injective h
        exact .inr (.inr ⟨n, hn, rfl, hnumbers.symm⟩)
      · obtain rfl := Double.orderKey_injective h
        exact absurd rfl hnumbers

theorem RoundsTo.number?_ne (h : RoundsTo a b) : b.number? ≠ a.number? := by
  obtain ⟨n, -, -, hne⟩ := h
  exact hne

theorem RoundsTo.compareNumbers (h : RoundsTo a b) : compareNumbers a b = .eq := by
  obtain ⟨n, hn, rfl, -⟩ := h
  rw [← order_of_isNumber (isNumber_of_toInt? hn) rfl]
  exact order_rounding hn

/-- No other zero is at the place of the negative one. -/
theorem numberKey_ne_of_zero (h : a.number? = some ((0 : ℚ) : Number))
    (hne : a ≠ double (.zero true)) : a.numberKey ≠ (Double.zero true).orderKey := by
  intro hkey
  rcases number?_cases h with ⟨n, hn⟩ | ⟨d, rfl, hd⟩
  · have hzero := (number?_of_toInt? hn).1
    rw [h] at hzero
    have hn0 : n = 0 := Int.cast_eq_zero.mp
      (WithBotTop.coe_injective (Option.some.inj hzero).symm)
    rw [numberKey_of_toDouble? (toDouble?_of_toInt? hn), hn0] at hkey
    exact absurd hkey (by decide)
  · rw [numberKey_double] at hkey
    exact hne (congrArg double (Double.orderKey_injective hkey))

theorem SplitZeros.compareNumbers_ne (h : SplitZeros a b) : compareNumbers a b ≠ .eq := by
  have hbehind {c : Value} (hc : c.number? = some ((0 : ℚ) : Number))
      (hne : c ≠ double (.zero true)) : Value.compareNumbers c (double (.zero true)) ≠ .eq := by
    rw [compareNumbers_double (isNumber_of_number? hc), Ne, Int.compare_eq_eq]
    exact numberKey_ne_of_zero hc hne
  obtain ⟨ha, hb, ⟨rfl, hne⟩ | ⟨rfl, hne⟩⟩ := h
  · rw [compareNumbers_swap b, Ne, Ordering.swap_eq_eq]
    exact hbehind hb hne
  · exact hbehind ha hne

/-- What rules out the two other results of comparing two numbers is the result. -/
theorem eq_compare {o : Ordering} (hle : x ≤ y → o ≠ .gt) (hge : y ≤ x → o ≠ .lt)
    (hne : x ≠ y → o ≠ .eq) : o = compare x y := by
  cases o with
  | lt => exact (compare_lt_iff_lt.mpr (not_le.mp fun h => hge h rfl)).symm
  | eq => exact (compare_eq_iff_eq.mpr (not_not.mp fun h => hne h rfl)).symm
  | gt => exact (compare_gt_iff_gt.mpr (not_le.mp fun h => hle h rfl)).symm

theorem compareNumbers_eq_iff (ha : a.number? = some x) (hb : b.number? = some y) :
    compareNumbers a b = compare x y ↔ ¬ SplitZeros a b ∧ ¬ RoundsTo a b ∧ ¬ RoundsTo b a := by
  constructor
  · intro hcompare
    refine ⟨fun hsplit => ?_, fun hround => ?_, fun hround => ?_⟩
    · obtain rfl : x = ((0 : ℚ) : Number) := Option.some.inj (ha.symm.trans hsplit.1)
      obtain rfl : y = ((0 : ℚ) : Number) := Option.some.inj (hb.symm.trans hsplit.2.1)
      exact hsplit.compareNumbers_ne (hcompare.trans (compare_eq_iff_eq.mpr rfl))
    · have hxy := compare_eq_iff_eq.mp (hcompare.symm.trans hround.compareNumbers)
      exact hround.number?_ne (by rw [ha, hb, hxy])
    · rw [compareNumbers_swap b a, hround.compareNumbers] at hcompare
      have hxy := compare_eq_iff_eq.mp hcompare.symm
      exact hround.number?_ne (by rw [ha, hb, hxy])
  · rintro ⟨hsplit, hab, hba⟩
    have hneq : x ≠ y → compareNumbers a b ≠ .eq := by
      intro hxy heq
      rcases eq_of_compareNumbers ha hb heq with h | h | h
      · exact hxy h
      · exact hab h
      · exact hba h
    have hle : x ≤ y → compareNumbers a b ≠ .gt := fun hxy =>
      (compareNumbers_ne_gt ha hb hxy).resolve_right hsplit
    have hge : y ≤ x → compareNumbers a b ≠ .lt := by
      intro hxy
      have hswap := (compareNumbers_ne_gt hb ha hxy).resolve_right fun h => hsplit h.symm
      rw [compareNumbers_swap a b, Ne, Ordering.swap_eq_gt] at hswap
      exact hswap
    exact eq_compare hle hge hneq

theorem equal_of_isNumber (ha : a.isNumber = true) (hb : b.isNumber = true) :
    a.equal b = (compareNumbers a b == .eq) := by
  rw [equal, ha, hb]
  rfl

theorem comparedAs_iff (ha : a.number? = some x) (hb : b.number? = some y) :
    ComparedAs a b x y ↔ compareNumbers a b = compare x y := by
  have hna := isNumber_of_number? ha
  have hnb := isNumber_of_number? hb
  constructor
  · intro h
    rw [← order_of_isNumber hna hnb, h.order]
  · intro h
    refine ⟨?_, ?_, ?_⟩
    · rw [equal_of_isNumber hna hnb, h, beq_iff_eq, compare_eq_iff_eq]
    · rw [compareWithin?_of_isNumber hna hnb, h]
    · rw [order_of_isNumber hna hnb, h]

/-- A whole number is never what another one is rounded to, and of at most fifty-three bits it is
not rounded itself. -/
theorem not_roundsTo {n : Int} (h : a.toInt? = some n) (hn : n.natAbs ≤ 2 ^ 53) :
    ¬ RoundsTo a b ∧ ¬ RoundsTo b a := by
  constructor
  · rintro ⟨m, hm, rfl, hne⟩
    obtain rfl : n = m := Option.some.inj (h.symm.trans hm)
    exact hne ((Double.number?_ofInt hn).trans (number?_of_toInt? h).1.symm)
  · rintro ⟨m, -, rfl, -⟩
    cases h

/-- **Numbers are compared by what they denote**, whatever their kinds: equality is equality of the
numbers, and conditions and sorting order values as the numbers. This fails exactly if the zeros are
split or if a whole number is rounded to a word that denotes another number. In the first case one
number is taken for two, in the second case two are taken for one. Whole numbers of at most
fifty-three bits are not rounded. -/
theorem comparedAs_number_iff (ha : a.number? = some x) (hb : b.number? = some y) :
    (ComparedAs a b x y ↔ ¬ SplitZeros a b ∧ ¬ RoundsTo a b ∧ ¬ RoundsTo b a) ∧
    (SplitZeros a b → x = y ∧ a.equal b = false ∧ a.order b ≠ .eq) ∧
    (RoundsTo a b ∨ RoundsTo b a → x ≠ y ∧ a.equal b = true ∧ a.order b = .eq) ∧
    ∀ n, a.toInt? = some n ∨ b.toInt? = some n → n.natAbs ≤ 2 ^ 53 →
      ¬ RoundsTo a b ∧ ¬ RoundsTo b a := by
  have hequal := equal_of_isNumber (isNumber_of_number? ha) (isNumber_of_number? hb)
  have horder := order_of_isNumber (isNumber_of_number? ha) (isNumber_of_number? hb)
  refine ⟨(comparedAs_iff ha hb).trans (compareNumbers_eq_iff ha hb), ?_, ?_, ?_⟩
  · intro hsplit
    have hne := hsplit.compareNumbers_ne
    rw [hequal, horder]
    refine ⟨?_, beq_false_of_ne hne, hne⟩
    exact Option.some.inj ((ha.symm.trans hsplit.1).trans (hsplit.2.1.symm.trans hb))
  · intro hround
    have heq : compareNumbers a b = .eq := by
      rcases hround with hab | hba
      · exact hab.compareNumbers
      · rw [compareNumbers_swap b a, hba.compareNumbers]
        rfl
    rw [hequal, horder, heq]
    refine ⟨fun hxy => ?_, rfl, rfl⟩
    rw [← hxy, ← ha] at hb
    rcases hround with hab | hba
    · exact hab.number?_ne hb
    · exact hba.number?_ne hb.symm
  · rintro n (hn | hn) hle
    · exact not_roundsTo hn hle
    · exact (not_roundsTo hn hle).symm

/-- A whole number that is rounded is still behind the words before its rounding. -/
theorem comparedAs_number_large :
    ComparedAs (int64 9007199254740993) (double ⟨0x433fffffffffffff⟩)
      ((9007199254740993 : Int) : ℚ) ((9007199254740991 : Int) : ℚ) ∧
    (int64 9007199254740993).order (double ⟨0x433fffffffffffff⟩) = .gt := by
  have hword : (⟨0x433fffffffffffff⟩ : Double) = Double.ofInt 9007199254740991 := by decide +kernel
  have hb : (double ⟨0x433fffffffffffff⟩).number?
      = some (((9007199254740991 : Int) : ℚ) : Number) := by
    rw [hword]
    exact Double.number?_ofInt (by decide)
  refine ⟨(comparedAs_number_iff rfl hb).1.mpr ⟨?_, ?_, ?_⟩, by decide +kernel⟩
  · rintro ⟨-, -, ⟨h, -⟩ | ⟨h, -⟩⟩
    · cases h
    · injection h with h
      exact absurd h (by decide +kernel)
  · rintro ⟨n, hn, h, -⟩
    obtain rfl := Option.some.inj hn
    injection h with h
    exact absurd h (by decide +kernel)
  · rintro ⟨n, hn, -⟩
    cases hn

/-- Just above two to the fifty-third power two numbers are taken for one, and the negative zero is
not taken for zero. -/
theorem not_comparedAs_number :
    (int64 9007199254740993).number? = some (((9007199254740993 : Int) : ℚ) : Number) ∧
    (double ⟨0x4340000000000000⟩).number? = some (((9007199254740992 : Int) : ℚ) : Number) ∧
    (int64 9007199254740993).equal (double ⟨0x4340000000000000⟩) = true ∧
    (int64 9007199254740993).order (double ⟨0x4340000000000000⟩) = .eq ∧
    (int32 0).number? = some ((0 : ℚ) : Number) ∧
    (double ⟨0x8000000000000000⟩).number? = some ((0 : ℚ) : Number) ∧
    (int32 0).equal (double ⟨0x8000000000000000⟩) = false ∧
    (int32 0).order (double ⟨0x8000000000000000⟩) = .gt := by
  have hword : (⟨0x4340000000000000⟩ : Double) = Double.ofInt 9007199254740992 := by decide +kernel
  refine ⟨rfl, ?_, by decide +kernel, by decide +kernel, rfl, number?_zero true, by decide +kernel,
    by decide +kernel⟩
  rw [hword]
  exact Double.number?_ofInt (by decide)

end Value

end Strata
