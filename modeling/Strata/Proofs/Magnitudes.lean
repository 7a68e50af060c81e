import Mathlib.Algebra.Order.Field.Basic
import Mathlib.Algebra.Order.Field.Power
import Mathlib.Algebra.Order.Field.Rat
import Mathlib.Data.Rat.Cast.Order
import Mathlib.Tactic.Linarith
import Mathlib.Tactic.Ring
import Strata.Decimal.Double

/-!
# The magnitude closest to a fraction

Magnitudes of words are measured in units of the smallest positive word. Their units are whole numbers
that strictly increase up to those of infinity. Rounding a fraction divides it by the spacing of the
words around it, which is a power of two, and takes the closest whole number, the even one in the
middle; so it finds the magnitude whose units are closest to those of the fraction. That rounding
keeps the order follows from this alone.
-/

namespace Strata.Decimal.Double

/-! ## Units of magnitudes -/

/-- How many units make one. -/
@[irreducible]
def unitsOfOne : Nat := 2 ^ 1074

/-- The units of a magnitude. -/
def unitsOf (magnitude : Nat) : Nat :=
  (if magnitude / 2 ^ 52 = 0 then magnitude % 2 ^ 52 else 2 ^ 52 + magnitude % 2 ^ 52)
    * 2 ^ (magnitude / 2 ^ 52 - 1)

theorem two_pow_eq {e k : Nat} (h : e = k + 1074) : 2 ^ e = 2 ^ k * unitsOfOne := by
  unfold unitsOfOne
  -- a power of this size is not to be evaluated
  generalize 1074 = l at h ⊢
  rw [h, Nat.pow_add]

theorem unitsOfOne_pos : 0 < unitsOfOne := by
  unfold unitsOfOne
  generalize 1074 = l
  exact Nat.two_pow_pos l

theorem unitsOf_of_lt {m : Nat} (h : m < 2 ^ 52) : unitsOf m = m := by
  rw [unitsOf, Nat.div_eq_of_lt h, if_pos rfl, Nat.mod_eq_of_lt h, Nat.zero_sub, Nat.pow_zero,
    Nat.mul_one]

/-- The units of a magnitude with its exponent and a significand, which may just have reached the
next power of two. -/
theorem unitsOf_add {f s : Nat} (hlow : 2 ^ 52 ≤ s) (hhigh : s ≤ 2 ^ 53) :
    unitsOf (f * 2 ^ 52 + s) = s * 2 ^ f := by
  rcases Nat.lt_or_eq_of_le hhigh with hlt | rfl
  · have hfield : (f * 2 ^ 52 + s) / 2 ^ 52 = f + 1 := by omega
    have hfraction : 2 ^ 52 + (f * 2 ^ 52 + s) % 2 ^ 52 = s := by omega
    rw [unitsOf, hfield, hfraction, if_neg (Nat.succ_ne_zero f), Nat.add_sub_cancel]
  · have hfield : (f * 2 ^ 52 + 2 ^ 53) / 2 ^ 52 = f + 2 := by omega
    have hfraction : 2 ^ 52 + (f * 2 ^ 52 + 2 ^ 53) % 2 ^ 52 = 2 ^ 52 := by omega
    have hexponent : f + 2 - 1 = f + 1 := rfl
    have hdouble : 2 ^ 53 = 2 ^ 52 * 2 := rfl
    rw [unitsOf, hfield, hfraction, if_neg (Nat.succ_ne_zero _), hexponent, Nat.pow_succ 2 f,
      Nat.mul_comm (2 ^ f) 2, ← Nat.mul_assoc, hdouble]

theorem unitsOf_two_pow (k : Nat) :
    unitsOf ((k + 1022) * 2 ^ 52 + 2 ^ 52) = 2 ^ k * unitsOfOne := by
  rw [unitsOf_add le_rfl (by decide), ← Nat.pow_add,
    two_pow_eq (show 52 + (k + 1022) = k + 1074 by omega)]

theorem unitsOf_lt_succ (m : Nat) : unitsOf m < unitsOf (m + 1) := by
  rcases Nat.lt_or_ge m (2 ^ 52) with hsmall | hlarge
  · rw [unitsOf_of_lt hsmall]
    rcases Nat.lt_or_eq_of_le (Nat.succ_le_of_lt hsmall) with hlt | heq
    · rw [unitsOf_of_lt hlt]
      exact Nat.lt_succ_self m
    · have hnext : m + 1 = 0 * 2 ^ 52 + (m + 1) := by omega
      rw [hnext, unitsOf_add (by omega) (by omega)]
      omega
  · obtain ⟨f, s, rfl, hlow, hhigh⟩ : ∃ f s, m = f * 2 ^ 52 + s ∧ 2 ^ 52 ≤ s ∧ s < 2 ^ 53 :=
      ⟨m / 2 ^ 52 - 1, 2 ^ 52 + m % 2 ^ 52, by omega, by omega, by omega⟩
    rw [Nat.add_assoc, unitsOf_add hlow hhigh.le, unitsOf_add (by omega) hhigh]
    exact Nat.mul_lt_mul_of_pos_right (Nat.lt_succ_self s) (Nat.two_pow_pos f)

theorem unitsOf_strictMono : StrictMono unitsOf := strictMono_nat_of_lt_succ unitsOf_lt_succ

theorem unitsOf_zero : unitsOf 0 = 0 := rfl

theorem unitsOf_le_iff {m n : Nat} : unitsOf m ≤ unitsOf n ↔ m ≤ n := unitsOf_strictMono.le_iff_le

/-- The units of a magnitude with its exponent and a significand, which has its hidden bit unless the
exponent is the least. -/
theorem unitsOf_grid {f s : Nat} (hlow : f = 0 ∨ 2 ^ 52 ≤ s) (hhigh : s ≤ 2 ^ 53) :
    unitsOf (f * 2 ^ 52 + s) = s * 2 ^ f := by
  rcases Nat.lt_or_ge s (2 ^ 52) with hsmall | hlarge
  · obtain rfl : f = 0 := hlow.resolve_right (Nat.not_le.mpr hsmall)
    rw [Nat.zero_mul, Nat.zero_add, unitsOf_of_lt hsmall, Nat.pow_zero, Nat.mul_one]
  · exact unitsOf_add hlarge hhigh

theorem unitsOf_cast_le {j k : Nat} : (unitsOf j : ℚ) ≤ unitsOf k ↔ j ≤ k := by
  rw [Nat.cast_le, unitsOf_le_iff]

theorem two_zpow_natCast (k : Nat) : (2 : ℚ) ^ (k : Int) = ((2 ^ k : Nat) : ℚ) := by
  rw [zpow_natCast, Nat.cast_pow, Nat.cast_ofNat]

theorem unitsOfOne_cast : (unitsOfOne : ℚ) = 2 ^ (1074 : Int) := by
  unfold unitsOfOne
  exact (two_zpow_natCast 1074).symm

theorem unitsOfOne_cast_pos : (0 : ℚ) < (unitsOfOne : ℚ) := Nat.cast_pos.mpr unitsOfOne_pos

theorem two_zpow_sub (k : Nat) : (2 : ℚ) ^ ((k : Int) - 1074) = 2 ^ k / (unitsOfOne : ℚ) := by
  rw [zpow_sub₀ two_ne_zero, zpow_natCast, unitsOfOne_cast]

/-! ## Division to the nearest -/

theorem divideToEven_cases (num den : Nat) :
    divideToEven num den = num / den ∨ divideToEven num den = num / den + 1 := by
  simp only [divideToEven]
  split_ifs
  · exact .inl rfl
  · exact .inr rfl
  · exact .inl rfl
  · exact .inr rfl

/-- A whole number within a half of a number, which is even if it is just that far. -/
structure IsNearestWhole (q : Nat) (t : ℚ) : Prop where
  close : |t - q| ≤ 1 / 2
  even : |t - q| = 1 / 2 → q % 2 = 0

/-- The whole number below a fraction, and the part of the fraction above it. -/
theorem div_eq_add (num : Nat) {den : Nat} (hden : 0 < den) :
    (num / den : ℚ) = (num / den : Nat) + ((num % den : Nat) : ℚ) / den := by
  have hpos : (0 : ℚ) < den := Nat.cast_pos.mpr hden
  calc (num / den : ℚ) = (den * (num / den : Nat) + (num % den : Nat)) / den := by
        rw [← Nat.cast_mul, ← Nat.cast_add, Nat.div_add_mod]
    _ = (num / den : Nat) + ((num % den : Nat) : ℚ) / den := by
        rw [add_div, mul_div_cancel_left₀ _ hpos.ne']

theorem div_bounds (num : Nat) {den : Nat} (hden : 0 < den) :
    ((num / den : Nat) : ℚ) ≤ num / den ∧ (num / den : ℚ) < (num / den : Nat) + 1 := by
  have hpos : (0 : ℚ) < den := Nat.cast_pos.mpr hden
  have hlow : (0 : ℚ) ≤ ((num % den : Nat) : ℚ) / den := div_nonneg (Nat.cast_nonneg _) hpos.le
  have hhigh : ((num % den : Nat) : ℚ) / den < 1 :=
    (div_lt_one hpos).mpr (Nat.cast_lt.mpr (Nat.mod_lt num hden))
  rw [div_eq_add num hden]
  constructor <;> linarith

theorem isNearestWhole_divideToEven (num : Nat) {den : Nat} (hden : 0 < den) :
    IsNearestWhole (divideToEven num den) (num / den) := by
  have hpos : (0 : ℚ) < den := Nat.cast_pos.mpr hden
  have hmod := Nat.mod_lt num hden
  rw [div_eq_add num hden]
  unfold divideToEven
  dsimp only
  generalize num % den = r at hmod ⊢
  generalize num / den = c
  have hrest : (0 : ℚ) ≤ r / den := div_nonneg (Nat.cast_nonneg r) hpos.le
  have htwice : 2 * ((r : ℚ) / den) = ((2 * r : Nat) : ℚ) / den := by
    rw [Nat.cast_mul, mul_div_assoc, Nat.cast_ofNat]
  have hbelow : |(c : ℚ) + r / den - c| = r / den := by
    rw [add_sub_cancel_left, abs_of_nonneg hrest]
  have habove : |(c : ℚ) + r / den - (c + 1 : Nat)| = 1 - r / den := by
    have hlt : (r : ℚ) / den < 1 := (div_lt_one hpos).mpr (Nat.cast_lt.mpr hmod)
    rw [Nat.cast_add_one, abs_of_neg (by linarith)]
    ring
  rcases Nat.lt_trichotomy (2 * r) den with hlt | heq | hgt
  · have hhalf : 2 * ((r : ℚ) / den) < 1 := htwice ▸ (div_lt_one hpos).mpr (Nat.cast_lt.mpr hlt)
    rw [if_pos hlt]
    exact ⟨by linarith, fun h => by linarith⟩
  · have hhalf : 2 * ((r : ℚ) / den) = 1 := htwice.trans (by rw [heq, div_self hpos.ne'])
    rw [if_neg (by omega), if_neg (by omega)]
    split
    next heven => exact ⟨by linarith, fun _ => heven⟩
    next hodd => exact ⟨by linarith, fun _ => by omega⟩
  · have hhalf : 1 < 2 * ((r : ℚ) / den) := htwice ▸ (one_lt_div hpos).mpr (Nat.cast_lt.mpr hgt)
    rw [if_neg (by omega), if_pos hgt]
    exact ⟨by linarith, fun h => by linarith⟩

/-! ## Fractions in powers of two -/

variable {num den : Nat} {e : Int}

theorem div_two_zpow_of_nonneg (he : 0 ≤ e) :
    (num / den : ℚ) / 2 ^ e = num / ((den * 2 ^ e.toNat : Nat) : ℚ) := by
  have hpower : (2 : ℚ) ^ e = ((2 ^ e.toNat : Nat) : ℚ) := by
    rw [← two_zpow_natCast, Int.toNat_of_nonneg he]
  rw [hpower, div_div, Nat.cast_mul]

theorem div_two_zpow_of_neg (he : ¬ 0 ≤ e) :
    (num / den : ℚ) / 2 ^ e = ((num * 2 ^ (-e).toNat : Nat) : ℚ) / den := by
  have hpower : ((2 : ℚ) ^ e)⁻¹ = ((2 ^ (-e).toNat : Nat) : ℚ) := by
    rw [← two_zpow_natCast, Int.toNat_of_nonneg (by omega), zpow_neg]
  rw [div_eq_mul_inv _ ((2 : ℚ) ^ e), hpower, Nat.cast_mul, div_mul_eq_mul_div]

/-- The power of two that a positive fraction has reached, but not the next one. -/
theorem floorLog2_spec (hnum : 0 < num) (hden : 0 < den) :
    (2 : ℚ) ^ floorLog2 num den ≤ num / den ∧ (num / den : ℚ) < 2 ^ (floorLog2 num den + 1) := by
  have hpos : (0 : ℚ) < den := Nat.cast_pos.mpr hden
  have hlog {n : Nat} (hn : 0 < n) :
      (2 : ℚ) ^ (n.log2 : Int) ≤ n ∧ (n : ℚ) < 2 ^ ((n.log2 : Int) + 1) := by
    rw [← Nat.cast_succ, two_zpow_natCast, two_zpow_natCast]
    exact ⟨Nat.cast_le.mpr (Nat.log2_self_le hn.ne'), Nat.cast_lt.mpr Nat.lt_log2_self⟩
  obtain ⟨hnumLow, hnumHigh⟩ := hlog hnum
  obtain ⟨hdenLow, hdenHigh⟩ := hlog hden
  have hlow : (2 : ℚ) ^ ((num.log2 : Int) - den.log2 - 1) < num / den := by
    rw [lt_div_iff₀ hpos]
    calc (2 : ℚ) ^ ((num.log2 : Int) - den.log2 - 1) * den
        < 2 ^ ((num.log2 : Int) - den.log2 - 1) * 2 ^ ((den.log2 : Int) + 1) :=
          mul_lt_mul_of_pos_left hdenHigh (zpow_pos two_pos _)
      _ = 2 ^ (num.log2 : Int) := by
          rw [← zpow_add₀ two_ne_zero]
          congr 1
          omega
      _ ≤ num := hnumLow
  have hhigh : (num / den : ℚ) < 2 ^ ((num.log2 : Int) - den.log2 + 1) := by
    rw [div_lt_iff₀ hpos]
    calc (num : ℚ) < 2 ^ ((num.log2 : Int) + 1) := hnumHigh
      _ = 2 ^ ((num.log2 : Int) - den.log2 + 1) * 2 ^ (den.log2 : Int) := by
          rw [← zpow_add₀ two_ne_zero]
          congr 1
          omega
      _ ≤ 2 ^ ((num.log2 : Int) - den.log2 + 1) * den :=
          mul_le_mul_of_nonneg_left hdenLow (zpow_pos two_pos _).le
  unfold floorLog2
  dsimp only
  generalize (num.log2 : Int) - (den.log2 : Int) = e at hlow hhigh
  have hreached : (if 0 ≤ e then decide (den * 2 ^ e.toNat ≤ num)
      else decide (den ≤ num * 2 ^ (-e).toNat)) = decide ((2 : ℚ) ^ e ≤ num / den) := by
    have hone : (2 : ℚ) ^ e ≤ num / den ↔ 1 ≤ (num / den : ℚ) / 2 ^ e :=
      (one_le_div (zpow_pos two_pos e)).symm
    split
    next he =>
      rw [decide_eq_decide, hone, div_two_zpow_of_nonneg he,
        one_le_div (Nat.cast_pos.mpr (Nat.mul_pos hden (Nat.two_pow_pos _))), Nat.cast_le]
    next he => rw [decide_eq_decide, hone, div_two_zpow_of_neg he, one_le_div hpos, Nat.cast_le]
  rw [hreached]
  split
  next h => exact ⟨of_decide_eq_true h, hhigh⟩
  next h =>
    rw [decide_eq_true_eq, not_le] at h
    exact ⟨hlow.le, by rwa [Int.sub_add_cancel]⟩

/-! ## Magnitudes of fractions -/

/-- The spacing of the words around a positive fraction is a power of two. The fraction is measured
in this spacing and rounded. -/
theorem nearestMagnitude_cases (hnum : 0 < num) (hden : 0 < den) :
    ∃ f s q : Nat, ∃ t : ℚ, t * 2 ^ f = num / den * unitsOfOne ∧
      (f = 0 ∨ 2 ^ 52 ≤ s) ∧ s < 2 ^ 53 ∧ (s : ℚ) ≤ t ∧ t < s + 1 ∧ (q = s ∨ q = s + 1) ∧
      IsNearestWhole q t ∧ nearestMagnitude num den = min infinityMagnitude (f * 2 ^ 52 + q) := by
  obtain ⟨hlow, hhigh⟩ := floorLog2_spec hnum hden
  rw [nearestMagnitude, if_neg hnum.ne']
  dsimp only
  generalize floorLog2 num den = l at hlow hhigh
  generalize hexponent : max (-1074) (l - 52) = e
  have hpower : (0 : ℚ) < 2 ^ e := zpow_pos two_pos e
  obtain ⟨a, b, hb, hfraction, hround⟩ : ∃ a b : Nat, 0 < b ∧ (a / b : ℚ) = num / den / 2 ^ e ∧
      (if 0 ≤ e then divideToEven num (den * 2 ^ e.toNat)
        else divideToEven (num * 2 ^ (-e).toNat) den) = divideToEven a b := by
    split
    next he =>
      exact ⟨num, den * 2 ^ e.toNat, Nat.mul_pos hden (Nat.two_pow_pos _),
        (div_two_zpow_of_nonneg he).symm, rfl⟩
    next he => exact ⟨num * 2 ^ (-e).toNat, den, hden, (div_two_zpow_of_neg he).symm, rfl⟩
  obtain ⟨hfloor, hceil⟩ := div_bounds a hb
  have hnearest := isNearestWhole_divideToEven a hb
  rw [hround]
  rw [hfraction] at hfloor hceil hnearest
  refine ⟨(e + 1074).toNat, a / b, divideToEven a b, _, ?_, ?_, ?_, hfloor, hceil,
    divideToEven_cases a b, hnearest, rfl⟩
  · have hunit : (2 : ℚ) ^ e = 2 ^ (e + 1074).toNat / unitsOfOne := by
      rw [← two_zpow_sub]
      congr 1
      omega
    rw [hunit, div_div_eq_mul_div, div_mul_cancel₀ _ (pow_ne_zero _ two_ne_zero)]
  · by_cases hleast : e = -1074
    · exact .inl (by omega)
    · refine .inr ?_
      have hpower' : (2 : ℚ) ^ l = ((2 ^ 52 : Nat) : ℚ) * 2 ^ e := by
        rw [← two_zpow_natCast, ← zpow_add₀ two_ne_zero]
        congr 1
        omega
      have hge : ((2 ^ 52 : Nat) : ℚ) ≤ num / den / 2 ^ e := by
        rw [le_div_iff₀ hpower, ← hpower']
        exact hlow
      have hlt : ((2 ^ 52 : Nat) : ℚ) < (a / b + 1 : Nat) := by
        rw [Nat.cast_add_one]
        exact hge.trans_lt hceil
      exact Nat.le_of_lt_succ (Nat.cast_lt.mp hlt)
  · have hpower' : (2 : ℚ) ^ (l + 1) ≤ ((2 ^ 53 : Nat) : ℚ) * 2 ^ e := by
      rw [← two_zpow_natCast, ← zpow_add₀ two_ne_zero]
      exact zpow_le_zpow_right₀ one_le_two (by omega)
    have hlt : num / den / 2 ^ e < ((2 ^ 53 : Nat) : ℚ) := by
      rw [div_lt_iff₀ hpower]
      exact hhigh.trans_le hpower'
    exact Nat.cast_lt.mp (hfloor.trans_lt hlt)

/-! ## Closest magnitudes -/

/-- A magnitude up to infinity whose units are closest to a number, and which is even if others are
just as close. -/
structure IsClosest (m : Nat) (x : ℚ) : Prop where
  le : m ≤ infinityMagnitude
  close : ∀ k ≤ infinityMagnitude, |x - unitsOf m| ≤ |x - unitsOf k|
  even : ∀ k ≤ infinityMagnitude, k ≠ m → |x - unitsOf k| = |x - unitsOf m| → m % 2 = 0

/-- Beyond infinity nothing is closer. -/
theorem isClosest_infinity {x : ℚ} (h : (unitsOf infinityMagnitude : ℚ) ≤ x) :
    IsClosest infinityMagnitude x := by
  refine ⟨le_rfl, ?_, fun _ _ _ _ => by decide⟩
  intro k hk
  have hle : (unitsOf k : ℚ) ≤ unitsOf infinityMagnitude := unitsOf_cast_le.mpr hk
  rw [abs_of_nonneg (by linarith), abs_of_nonneg (by linarith)]
  linarith

/-- Of two neighbours with a number between them, one within half their distance is closest. -/
theorem isClosest_of_between {x : ℚ} {c m : Nat} (hm : m ≤ infinityMagnitude)
    (hlow : (unitsOf c : ℚ) ≤ x) (hhigh : x < unitsOf (c + 1)) (hside : m = c ∨ m = c + 1)
    (hclose : |x - unitsOf m| ≤ (unitsOf (c + 1) - unitsOf c : ℚ) / 2)
    (heven : |x - unitsOf m| = (unitsOf (c + 1) - unitsOf c : ℚ) / 2 → m % 2 = 0) :
    IsClosest m x := by
  have hbelow {k : Nat} (hk : k ≤ c) : |x - unitsOf k| = x - unitsOf k :=
    abs_of_nonneg (sub_nonneg.mpr ((unitsOf_cast_le.mpr hk).trans hlow))
  have habove {k : Nat} (hk : c + 1 ≤ k) : |x - unitsOf k| = unitsOf k - x := by
    rw [abs_sub_comm]
    exact abs_of_pos (sub_pos.mpr (hhigh.trans_le (unitsOf_cast_le.mpr hk)))
  have hmin : |x - unitsOf m| ≤ x - unitsOf c ∧ |x - unitsOf m| ≤ unitsOf (c + 1) - x := by
    rcases hside with rfl | rfl
    · rw [hbelow le_rfl] at hclose ⊢
      constructor <;> linarith
    · rw [habove le_rfl] at hclose ⊢
      constructor <;> linarith
  refine ⟨hm, fun k _ => ?_, fun k _ hne htie => heven ?_⟩
  · rcases Nat.lt_or_ge c k with hk | hk
    · rw [habove hk]
      exact hmin.2.trans (sub_le_sub_right (unitsOf_cast_le.mpr hk) x)
    · rw [hbelow hk]
      exact hmin.1.trans (sub_le_sub_left (unitsOf_cast_le.mpr hk) x)
  · -- what is just as close is the other neighbour
    rcases Nat.lt_or_ge c k with hk | hk
    · rw [habove hk] at htie
      obtain rfl : k = c + 1 :=
        Nat.le_antisymm (unitsOf_cast_le.mp (by linarith)) hk
      obtain rfl : m = c := hside.resolve_right hne.symm
      rw [hbelow le_rfl] at htie ⊢
      linarith
    · rw [hbelow hk] at htie
      obtain rfl : k = c := Nat.le_antisymm hk (unitsOf_cast_le.mp (by linarith))
      obtain rfl : m = k + 1 := hside.resolve_left hne.symm
      rw [habove le_rfl] at htie ⊢
      linarith

/-- Up to half a unit, nothing is closer than zero. -/
theorem isClosest_zero {x : ℚ} (hlow : 0 ≤ x) (hhigh : x ≤ 1 / 2) : IsClosest 0 x := by
  have hone : unitsOf 1 = 1 := unitsOf_of_lt (by decide)
  refine isClosest_of_between (m := 0) (c := 0) (Nat.zero_le _) ?_ ?_ (.inl rfl) ?_ fun _ => rfl
  · rwa [unitsOf_zero, Nat.cast_zero]
  · rw [Nat.zero_add, hone, Nat.cast_one]
    exact hhigh.trans_lt one_half_lt_one
  · rwa [Nat.zero_add, hone, unitsOf_zero, Nat.cast_zero, Nat.cast_one, sub_zero, sub_zero,
      abs_of_nonneg hlow]

/-- Rounding a fraction gives the magnitude that is closest to its units. -/
theorem isClosest_nearestMagnitude (num : Nat) (hden : 0 < den) :
    IsClosest (nearestMagnitude num den) (num / den * unitsOfOne) := by
  rcases Nat.eq_zero_or_pos num with rfl | hnum
  · rw [Nat.cast_zero, zero_div, zero_mul]
    exact isClosest_zero le_rfl one_half_pos.le
  obtain ⟨f, s, q, t, ht, hgrid, hs, hlow, hhigh, hq, hnearest, hround⟩ :=
    nearestMagnitude_cases hnum hden
  have hstep : (0 : ℚ) < 2 ^ f := pow_pos two_pos f
  have hunits {k : Nat} (hk : k = s ∨ k = s + 1) : (unitsOf (f * 2 ^ 52 + k) : ℚ) = k * 2 ^ f := by
    rw [unitsOf_grid (by omega) (by omega), Nat.cast_mul, Nat.cast_pow, Nat.cast_ofNat]
  have hbelow : (unitsOf (f * 2 ^ 52 + s) : ℚ) ≤ t * 2 ^ f := by
    rw [hunits (.inl rfl)]
    exact mul_le_mul_of_nonneg_right hlow hstep.le
  have habove : t * 2 ^ f < unitsOf (f * 2 ^ 52 + s + 1) := by
    rw [Nat.add_assoc, hunits (.inr rfl), Nat.cast_add_one]
    exact mul_lt_mul_of_pos_right hhigh hstep
  rw [hround, ← ht]
  rcases Nat.lt_or_ge infinityMagnitude (f * 2 ^ 52 + q) with hbeyond | hwithin
  · rw [min_eq_left hbeyond.le]
    exact isClosest_infinity ((unitsOf_cast_le.mpr (by omega)).trans hbelow)
  · have hdistance : |t * 2 ^ f - unitsOf (f * 2 ^ 52 + q)| = |t - q| * 2 ^ f := by
      rw [hunits hq, ← sub_mul, abs_mul, abs_of_pos hstep]
    have hspacing : (unitsOf (f * 2 ^ 52 + s + 1) - unitsOf (f * 2 ^ 52 + s) : ℚ) / 2
        = 1 / 2 * 2 ^ f := by
      rw [Nat.add_assoc, hunits (.inl rfl), hunits (.inr rfl), Nat.cast_add_one]
      ring
    rw [min_eq_right hwithin]
    refine isClosest_of_between hwithin hbelow habove (by omega) ?_ ?_
    · rw [hdistance, hspacing]
      exact mul_le_mul_of_nonneg_right hnearest.close hstep.le
    · rw [hdistance, hspacing]
      intro htie
      have heven := hnearest.even (mul_right_cancel₀ hstep.ne' htie)
      omega

theorem IsClosest.le_of_unitsOf_le {m k : Nat} {x : ℚ} (h : IsClosest m x)
    (hk : k ≤ infinityMagnitude) (hx : (unitsOf k : ℚ) ≤ x) : k ≤ m := by
  by_contra hlt
  have hunits : ¬ (unitsOf k : ℚ) ≤ unitsOf m := unitsOf_cast_le.not.mpr hlt
  have hclose := h.close k hk
  rw [abs_of_nonneg (by linarith), abs_of_nonneg (by linarith)] at hclose
  linarith

theorem IsClosest.le_of_le_unitsOf {m k : Nat} {x : ℚ} (h : IsClosest m x)
    (hk : k ≤ infinityMagnitude) (hx : x ≤ unitsOf k) : m ≤ k := by
  by_contra hlt
  have hunits : ¬ (unitsOf m : ℚ) ≤ unitsOf k := unitsOf_cast_le.not.mpr hlt
  have hclose := h.close k hk
  rw [abs_sub_comm, abs_sub_comm x, abs_of_nonneg (by linarith), abs_of_nonneg (by linarith)]
    at hclose
  linarith

/-- What is not closer to the smaller of two numbers is not below their middle. -/
theorem middle_le {a b x : ℚ} (hab : a < b) (h : |x - b| ≤ |x - a|) : (a + b) / 2 ≤ x := by
  rcases abs_cases (x - a) with ⟨ha, _⟩ | ⟨ha, _⟩ <;>
    rcases abs_cases (x - b) with ⟨hb, _⟩ | ⟨hb, _⟩ <;> linarith

/-- The larger of two numbers does not have the smaller closest magnitude. -/
theorem IsClosest.mono {m n : Nat} {x y : ℚ} (hm : IsClosest m x) (hn : IsClosest n y) (h : x < y) :
    m ≤ n := by
  by_contra hlt
  have hunits : (unitsOf n : ℚ) < unitsOf m := not_le.mp (unitsOf_cast_le.not.mpr hlt)
  have hx := middle_le hunits (hm.close n hn.le)
  have hy : (-unitsOf m + -unitsOf n : ℚ) / 2 ≤ -y := by
    refine middle_le (neg_lt_neg hunits) ?_
    rw [neg_sub_neg, neg_sub_neg, abs_sub_comm _ y, abs_sub_comm _ y]
    exact hn.close m hm.le
  linarith

end Strata.Decimal.Double
