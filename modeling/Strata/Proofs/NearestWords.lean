import Strata.Proofs.WordUnits

/-!
# The word closest to a decimal

Every finite word has its place among the rational numbers, and infinity comes one step behind the last
of them. Reading a decimal finds the word whose place is closest to it, and the one with an even
significand if two are equally close. Decimals far beyond all finite words, and decimals far below the
smallest one, are recognised by their number of digits; there the closest word is infinity or zero.
-/

namespace Strata.Decimal.Double

variable {den : Nat}

/-! ## Closest words -/

/-- Where a word stands among the rational numbers. A finite word stands at its number, and infinity
one step behind the last one of these. -/
def place (d : Double) : ℚ := (if d.isNegative then -1 else 1) * d.significand * 2 ^ d.exponent

/-- A word is closest to a rational number, and its significand is even if another place is just as
close. -/
structure IsNearest (d : Double) (x : ℚ) : Prop where
  isNumber : d.isNaN = false
  close : ∀ e : Double, e.isNaN = false → |x - d.place| ≤ |x - e.place|
  even : ∀ e : Double, e.isNaN = false → e.place ≠ d.place → |x - e.place| = |x - d.place| →
    d.significand % 2 = 0

theorem place_eq (d : Double) :
    d.place = (if d.isNegative then -1 else 1) * (unitsOf d.magnitude / unitsOfOne) := by
  rw [place, mul_assoc, significand_mul_two_zpow]

theorem significand_mod_two (d : Double) : d.significand % 2 = d.magnitude % 2 := by
  rw [significand]
  split <;> omega

/-- The distance, in units, of a word from a number with a sign: to a word of the same sign it is that of
the magnitudes, and to a word of the other sign their sum. -/
theorem abs_sub_place_mul (negative : Bool) {x : ℚ} (hx : 0 ≤ x * unitsOfOne) (d : Double) :
    |(if negative then -1 else 1) * x - d.place| * unitsOfOne
      = if d.isNegative = negative then |x * unitsOfOne - unitsOf d.magnitude|
        else x * unitsOfOne + unitsOf d.magnitude := by
  have hpos := unitsOfOne_cast_pos
  have hscale : |(if negative then -1 else 1) * x - d.place| * unitsOfOne
      = |(if negative then -1 else 1) * (x * unitsOfOne)
        - (if d.isNegative then -1 else 1) * unitsOf d.magnitude| := by
    rw [place_eq, ← abs_of_pos hpos, ← abs_mul, abs_of_pos hpos, sub_mul, mul_assoc, mul_assoc,
      div_mul_cancel₀ _ hpos.ne']
  have hunits : (0 : ℚ) ≤ unitsOf d.magnitude := Nat.cast_nonneg _
  have hsum := add_nonneg hx hunits
  rw [hscale]
  cases negative <;> cases d.isNegative <;>
    simp only [if_true, if_false, Bool.false_eq_true, Bool.true_eq_false, one_mul, neg_one_mul]
  case false.true => rw [sub_neg_eq_add, abs_of_nonneg hsum]
  case true.false => rw [← neg_add', abs_neg, abs_of_nonneg hsum]
  case true.true => rw [neg_sub_neg, abs_sub_comm]

/-- The word with a sign and the closest magnitude is closest to a number with that sign. -/
theorem isNearest_ofMagnitude (negative : Bool) {m : Nat} {x : ℚ} (hx : 0 ≤ x)
    (h : IsClosest m (x * unitsOfOne)) :
    (ofMagnitude negative m).IsNearest ((if negative then -1 else 1) * x) := by
  have hpos := unitsOfOne_cast_pos
  have hunits : 0 ≤ x * unitsOfOne := mul_nonneg hx hpos.le
  obtain ⟨hsign, hmagnitude⟩ :=
    ofMagnitude_fields negative (h.le.trans_lt (show infinityMagnitude < 2 ^ 63 by decide))
  have hself := abs_sub_place_mul negative hunits (ofMagnitude negative m)
  rw [hsign, hmagnitude, if_pos rfl] at hself
  refine ⟨?_, fun e he => ?_, fun e he hne htie => ?_⟩
  · rw [isNaN, hmagnitude]
    exact decide_eq_false (Nat.not_lt.mpr h.le)
  · refine le_of_mul_le_mul_right ?_ hpos
    have hclose := h.close e.magnitude (magnitude_le he)
    rw [hself, abs_sub_place_mul negative hunits]
    split
    · exact hclose
    · have hother : (0 : ℚ) ≤ unitsOf e.magnitude := Nat.cast_nonneg _
      refine hclose.trans (abs_le.mpr ⟨?_, ?_⟩) <;> linarith
  · rw [significand_mod_two, hmagnitude]
    have htie' := congrArg (· * (unitsOfOne : ℚ)) htie
    simp only [hself, abs_sub_place_mul negative hunits] at htie'
    split at htie'
    next hsame =>
      refine h.even e.magnitude (magnitude_le he) ?_ htie'
      rintro rfl
      exact hne (by rw [place_eq, place_eq, hsame, hsign, hmagnitude])
    next =>
      -- a word of the other sign is as close only if zero is
      have hzero : |x * unitsOfOne - unitsOf 0| = x * unitsOfOne := by
        rw [unitsOf_zero, Nat.cast_zero, sub_zero, abs_of_nonneg hunits]
      have hclose := h.close 0 (Nat.zero_le _)
      have hother : (0 : ℚ) ≤ unitsOf e.magnitude := Nat.cast_nonneg _
      by_cases hm : m = 0
      · rw [hm]
      · refine h.even 0 (Nat.zero_le _) (Ne.symm hm) (le_antisymm ?_ hclose)
        rw [hzero, ← htie']
        linarith

/-- The word closest to a signed fraction. -/
theorem isNearest_nearest (negative : Bool) (num : Nat) (hden : 0 < den) :
    (nearest negative num den).IsNearest ((if negative then -1 else 1) * (num / den)) :=
  isNearest_ofMagnitude negative (div_nonneg (Nat.cast_nonneg _) (Nat.cast_nonneg _))
    (isClosest_nearestMagnitude num hden)

/-! ## Decimals -/

theorem unitsOf_infinityMagnitude :
    (unitsOf infinityMagnitude : ℚ) = 2 ^ (1024 : Int) * unitsOfOne := by
  have hunits := congrArg (Nat.cast (R := ℚ)) (unitsOf_two_pow 1024)
  rw [Nat.cast_mul, ← two_zpow_natCast] at hunits
  exact hunits

theorem two_zpow_le_ten_zpow (k : Nat) : (2 : ℚ) ^ (3 * k : Int) ≤ 10 ^ (k : Int) := by
  rw [zpow_mul, zpow_natCast, zpow_natCast]
  exact pow_le_pow_left₀ (zpow_pos two_pos 3).le (by norm_num) k

/-- To a number this large infinity is closest. -/
theorem isClosest_of_large {x : ℚ} (h : 10 ^ (400 : Int) ≤ x) :
    IsClosest infinityMagnitude (x * unitsOfOne) := by
  refine isClosest_infinity ?_
  rw [unitsOf_infinityMagnitude]
  refine mul_le_mul_of_nonneg_right ?_ unitsOfOne_cast_pos.le
  calc (2 : ℚ) ^ (1024 : Int) ≤ 2 ^ (3 * (400 : Nat) : Int) :=
        zpow_le_zpow_right₀ one_le_two (by decide)
    _ ≤ 10 ^ ((400 : Nat) : Int) := two_zpow_le_ten_zpow 400
    _ ≤ x := h

/-- To a number this small zero is closest. -/
theorem isClosest_of_small {x : ℚ} (hx : 0 ≤ x) (h : x ≤ 10 ^ (-400 : Int)) :
    IsClosest 0 (x * unitsOfOne) := by
  refine isClosest_zero (mul_nonneg hx unitsOfOne_cast_pos.le) ?_
  have hpower : (10 : ℚ) ^ (-((400 : Nat) : Int)) ≤ 2 ^ (-(3 * (400 : Nat)) : Int) := by
    rw [zpow_neg, zpow_neg]
    exact inv_anti₀ (zpow_pos two_pos _) (two_zpow_le_ten_zpow 400)
  calc x * (unitsOfOne : ℚ) ≤ 2 ^ (-(3 * (400 : Nat)) : Int) * unitsOfOne :=
        mul_le_mul_of_nonneg_right (h.trans hpower) unitsOfOne_cast_pos.le
    _ = 2 ^ (-(3 * (400 : Nat)) + 1074 : Int) := by rw [unitsOfOne_cast, zpow_add₀ two_ne_zero]
    _ ≤ 2 ^ (-1 : Int) := zpow_le_zpow_right₀ one_le_two (by decide)
    _ = 1 / 2 := by rw [zpow_neg_one, one_div]

/-- The size of a row of digits gives its power of ten. -/
theorem digits_bounds {digits : Nat} (h : 0 < digits) :
    (10 : ℚ) ^ (((Nat.toDigits 10 digits).length : Int) - 1) ≤ digits ∧
      (digits : ℚ) < 10 ^ ((Nat.toDigits 10 digits).length : Int) := by
  have hcast (k : Nat) : (10 : ℚ) ^ (k : Int) = ((10 ^ k : Nat) : ℚ) := by
    rw [zpow_natCast, Nat.cast_pow, Nat.cast_ofNat]
  obtain ⟨k, hk⟩ := Nat.exists_eq_add_one.mpr (Nat.length_toDigits_pos (b := 10) (n := digits))
  rw [hk, Nat.cast_succ, add_sub_cancel_right, ← Nat.cast_succ, hcast, hcast, Nat.cast_le,
    Nat.cast_lt]
  refine ⟨?_, (Nat.length_toDigits_le_iff (by decide) (Nat.succ_pos k)).mp hk.le⟩
  rcases Nat.eq_zero_or_pos k with rfl | hpos
  · exact h
  · have hlonger : ¬ (Nat.toDigits 10 digits).length ≤ k := by omega
    rwa [Nat.length_toDigits_le_iff (by decide) hpos, Nat.not_lt] at hlonger

/-- The word read from a decimal has its sign, also if it is a zero. -/
theorem isNegative_ofDecimal (negative : Bool) (digits : Nat) (exponent : Int) :
    (ofDecimal negative digits exponent).isNegative = negative := by
  have hword {m : Nat} (hm : m < 2 ^ 63) : (ofMagnitude negative m).isNegative = negative :=
    (ofMagnitude_fields negative hm).1
  unfold ofDecimal
  dsimp only
  split_ifs
  · exact hword (by decide)
  · exact hword (by decide)
  · exact hword (by decide)
  · exact hword (nearestMagnitude_lt _ _)
  · exact hword (nearestMagnitude_lt _ _)

/-- **Reading a decimal finds the word closest to it.** -/
theorem isNearest_ofDecimal (negative : Bool) (digits : Nat) (exponent : Int) :
    (ofDecimal negative digits exponent).IsNearest
      ((if negative then -1 else 1) * (digits * 10 ^ exponent)) := by
  have hten : (0 : ℚ) < 10 := by norm_num
  have hpower : (0 : ℚ) < 10 ^ exponent := zpow_pos hten exponent
  have hvalue : (0 : ℚ) ≤ digits * 10 ^ exponent := mul_nonneg (Nat.cast_nonneg _) hpower.le
  unfold ofDecimal
  rcases Nat.eq_zero_or_pos digits with rfl | hdigits
  · rw [if_pos rfl]
    refine isNearest_ofMagnitude negative hvalue ?_
    rw [Nat.cast_zero, zero_mul, zero_mul]
    exact isClosest_zero le_rfl one_half_pos.le
  obtain ⟨hlow, hhigh⟩ := digits_bounds hdigits
  rw [if_neg hdigits.ne']
  dsimp only
  generalize (Nat.toDigits 10 digits).length = size at hlow hhigh
  by_cases hlarge : 400 < (size : Int) + exponent
  · rw [if_pos hlarge]
    refine isNearest_ofMagnitude negative hvalue (isClosest_of_large ?_)
    calc (10 : ℚ) ^ (400 : Int) ≤ 10 ^ ((size : Int) - 1 + exponent) :=
          zpow_le_zpow_right₀ (by norm_num) (by omega)
      _ = 10 ^ ((size : Int) - 1) * 10 ^ exponent := zpow_add₀ hten.ne' _ _
      _ ≤ digits * 10 ^ exponent := mul_le_mul_of_nonneg_right hlow hpower.le
  rw [if_neg hlarge]
  by_cases hsmall : (size : Int) + exponent < -400
  · rw [if_pos hsmall]
    refine isNearest_ofMagnitude negative hvalue (isClosest_of_small hvalue ?_)
    calc digits * 10 ^ exponent ≤ (10 : ℚ) ^ (size : Int) * 10 ^ exponent :=
          mul_le_mul_of_nonneg_right hhigh.le hpower.le
      _ = 10 ^ ((size : Int) + exponent) := (zpow_add₀ hten.ne' _ _).symm
      _ ≤ 10 ^ (-400 : Int) := zpow_le_zpow_right₀ (by norm_num) (by omega)
  rw [if_neg hsmall]
  by_cases he : 0 ≤ exponent
  · have hexact : digits * (10 : ℚ) ^ exponent
        = ((digits * 10 ^ exponent.toNat : Nat) : ℚ) / (1 : Nat) := by
      rw [Nat.cast_one, div_one, Nat.cast_mul, Nat.cast_pow, Nat.cast_ofNat, ← zpow_natCast,
        Int.toNat_of_nonneg he]
    rw [if_pos he, hexact]
    exact isNearest_nearest negative _ Nat.one_pos
  · have hexact : digits * (10 : ℚ) ^ exponent
        = (digits : ℚ) / ((10 ^ (-exponent).toNat : Nat) : ℚ) := by
      rw [Nat.cast_pow, Nat.cast_ofNat, div_eq_mul_inv, ← zpow_natCast, ← zpow_neg,
        Int.toNat_of_nonneg (by omega), Int.neg_neg]
    rw [if_neg he, hexact]
    exact isNearest_nearest negative _ (Nat.pow_pos (by decide))

end Strata.Decimal.Double
