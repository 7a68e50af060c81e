import Strata.Proofs.Magnitudes

/-!
# Rounding whole numbers

Rounding a whole number to binary64 keeps the order: of two whole numbers the smaller one is never
rounded to the word that comes later in the order of all words. Different numbers may be rounded to
one word.
-/

namespace Strata.Decimal.Double

/-! ## Magnitudes of whole numbers -/

/-- Rounding a whole number gives the magnitude that is closest to its units. -/
theorem isClosest_wholeNumber (n : Nat) : IsClosest (nearestMagnitude n 1) (n * unitsOfOne) := by
  have hclosest := isClosest_nearestMagnitude n Nat.one_pos
  rwa [Nat.cast_one, div_one] at hclosest

theorem nearestMagnitude_mono {m n : Nat} (h : m ≤ n) :
    nearestMagnitude m 1 ≤ nearestMagnitude n 1 := by
  rcases Nat.lt_or_eq_of_le h with hlt | rfl
  · refine (isClosest_wholeNumber m).mono (isClosest_wholeNumber n) ?_
    exact mul_lt_mul_of_pos_right (Nat.cast_lt.mpr hlt) unitsOfOne_cast_pos
  · exact Nat.le_refl _

/-- A magnitude with no more units than a whole number is not behind its rounding. -/
theorem le_nearestMagnitude {m n : Nat} (hm : m ≤ infinityMagnitude)
    (h : unitsOf m ≤ n * unitsOfOne) : m ≤ nearestMagnitude n 1 := by
  refine (isClosest_wholeNumber n).le_of_unitsOf_le hm ?_
  rw [← Nat.cast_mul]
  exact Nat.cast_le.mpr h

/-- A magnitude with no fewer units than a whole number is not before its rounding. -/
theorem nearestMagnitude_le {m n : Nat} (h : n * unitsOfOne ≤ unitsOf m) :
    nearestMagnitude n 1 ≤ m := by
  rcases Nat.le_total m infinityMagnitude with hm | hm
  · refine (isClosest_wholeNumber n).le_of_le_unitsOf hm ?_
    rw [← Nat.cast_mul]
    exact Nat.cast_le.mpr h
  · exact (isClosest_wholeNumber n).le.trans hm

/-! ## Words of whole numbers -/

theorem nearestMagnitude_lt (num den : Nat) : nearestMagnitude num den < 2 ^ 63 := by
  rw [nearestMagnitude]
  split
  · exact Nat.two_pow_pos _
  · exact lt_of_le_of_lt (min_le_left _ _) (by decide)

/-- The place of the word with a sign and a magnitude. -/
theorem orderKey_ofMagnitude {negative : Bool} {magnitude : Nat} (h : magnitude < 2 ^ 63) :
    (ofMagnitude negative magnitude).orderKey
      = if negative then -(magnitude : Int) - 1 else magnitude := by
  cases negative with
  | false =>
    have hbits : (ofMagnitude false magnitude).bits.toNat = magnitude := by
      simp only [ofMagnitude, Bool.false_eq_true, if_false, UInt64.toNat_ofNat']
      omega
    simp only [orderKey, isNegative, Double.magnitude, hbits, Nat.mod_eq_of_lt h, Nat.not_le.mpr h]
    simp
  | true =>
    have hbits : (ofMagnitude true magnitude).bits.toNat = 2 ^ 63 + magnitude := by
      simp only [ofMagnitude, if_true, UInt64.toNat_ofNat']
      omega
    have hmod : (2 ^ 63 + magnitude) % 2 ^ 63 = magnitude := by omega
    simp only [orderKey, isNegative, Double.magnitude, hbits, hmod]
    simp

theorem orderKey_ofInt (n : Int) :
    (ofInt n).orderKey = if n < 0 then -(nearestMagnitude n.natAbs 1 : Int) - 1
      else nearestMagnitude n.natAbs 1 := by
  rw [ofInt, nearest, orderKey_ofMagnitude (nearestMagnitude_lt _ _)]
  simp only [decide_eq_true_eq]

/-- **Rounding keeps the order.** A whole number that is not larger is not rounded to a later word. -/
theorem orderKey_ofInt_mono {m n : Int} (h : m ≤ n) : (ofInt m).orderKey ≤ (ofInt n).orderKey := by
  rw [orderKey_ofInt, orderKey_ofInt]
  by_cases hm : m < 0
  · by_cases hn : n < 0
    · have hmagnitude : nearestMagnitude n.natAbs 1 ≤ nearestMagnitude m.natAbs 1 :=
        nearestMagnitude_mono (by omega)
      rw [if_pos hm, if_pos hn]
      omega
    · rw [if_pos hm, if_neg hn]
      omega
  · have hmagnitude : nearestMagnitude m.natAbs 1 ≤ nearestMagnitude n.natAbs 1 :=
      nearestMagnitude_mono (by omega)
    rw [if_neg hm, if_neg (by omega)]
    omega

end Strata.Decimal.Double
