import Mathlib.Algebra.Order.Field.Basic
import Mathlib.Algebra.Order.Field.Rat
import Mathlib.Data.Rat.Cast.Order
import Mathlib.Order.WithBotTop
import Mathlib.Tactic.NormNum
import Strata.Proofs.Transitivity

/-!
# The numbers of words

A binary64 word denotes a rational number or one of the two infinities. Numbers of words are
measured in units of the smallest positive word: the units of the magnitudes are strictly increasing
whole numbers, so the order of the words is the order of their units, up to the two zeros. A whole
number is rounded to the closest magnitude; so rounding never leaves the side of a word on which the
number is.
-/

namespace Strata

namespace Decimal

/-- The rational numbers with the two infinities. -/
abbrev Number := WithBotTop ℚ

end Decimal

namespace Decimal.Double

/-! ## The number of a word -/

/-- What a word denotes: a rational number, or an infinity of either sign beyond all of them. -/
def number? (d : Double) : Option Number :=
  if d.isNaN then none
  else if d.isInfinite then some (if d.isNegative then ⊥ else ⊤)
  else
    let sign : ℚ := if d.isNegative then -1 else 1
    some ((sign * d.significand * 2 ^ d.exponent : ℚ) : Number)

/-- The units of a word, with its sign. -/
def units (d : Double) : Int := if d.isNegative then -(unitsOf d.magnitude) else unitsOf d.magnitude

/-! ## The order of words in units -/

variable {d e : Double}

theorem magnitude_le (h : d.isNaN = false) : d.magnitude ≤ infinityMagnitude := by
  rw [isNaN, decide_eq_false_iff_not, Nat.not_lt] at h
  exact h

/-- The zero with a sign is the word that has the place of it. -/
theorem eq_zero_iff (negative : Bool) :
    d = zero negative ↔ d.isNegative = negative ∧ d.magnitude = 0 := by
  constructor
  · rintro rfl
    cases negative <;> decide
  · rintro ⟨hsign, hmagnitude⟩
    refine orderKey_injective ?_
    rw [zero, orderKey_ofMagnitude (Nat.two_pow_pos 63), orderKey, hsign, hmagnitude]

/-- If magnitudes are in the order of their units, then so are the places, unless there are no units
and only the signs differ. -/
theorem place_le {s t : Bool} {u v m k : Nat} (hup : u ≤ v → m ≤ k) (hdown : v ≤ u → k ≤ m)
    (h : (if s then -(u : Int) else u) ≤ if t then -(v : Int) else v) :
    (if s then -(m : Int) - 1 else m) ≤ (if t then -(k : Int) - 1 else k) ∨
      (s = false ∧ t = true ∧ u = 0 ∧ v = 0) := by
  cases s <;> cases t <;> simp only [if_true, if_false, Bool.false_eq_true] at h ⊢
  case false.false => exact .inl (by omega)
  case false.true => exact .inr ⟨trivial, trivial, by omega, by omega⟩
  case true.false => exact .inl (by omega)
  case true.true => exact .inl (by omega)

theorem mul_unitsOfOne_eq (n : Int) :
    n * unitsOfOne = if decide (n < 0) = true then -((n.natAbs * unitsOfOne : Nat) : Int)
      else (n.natAbs * unitsOfOne : Nat) := by
  rw [Int.natCast_mul]
  by_cases hn : n < 0
  · have habs : (n.natAbs : Int) = -n := by omega
    rw [decide_eq_true hn, if_pos rfl, habs, Int.neg_mul, Int.neg_neg]
  · have habs : (n.natAbs : Int) = n := by omega
    rw [decide_eq_false hn, if_neg Bool.false_ne_true, habs]

theorem orderKey_ofInt_eq (n : Int) :
    (ofInt n).orderKey = if decide (n < 0) = true then -(nearestMagnitude n.natAbs 1 : Int) - 1
      else nearestMagnitude n.natAbs 1 := by
  rw [orderKey_ofInt]
  simp only [decide_eq_true_eq]

/-- A word with no more units than another one does not come behind it, unless both are zeros. -/
theorem orderKey_le_of_units_le (h : d.units ≤ e.units) :
    d.orderKey ≤ e.orderKey ∨ (d = zero false ∧ e = zero true) := by
  have hzero {w : Double} (hw : unitsOf w.magnitude = 0) : w.magnitude = 0 := by
    rw [← unitsOf_zero] at hw
    exact unitsOf_strictMono.injective hw
  rcases place_le unitsOf_le_iff.mp unitsOf_le_iff.mp h with hle | ⟨hd, he, hdzero, hezero⟩
  · exact .inl hle
  · exact .inr ⟨(eq_zero_iff _).mpr ⟨hd, hzero hdzero⟩, (eq_zero_iff _).mpr ⟨he, hzero hezero⟩⟩

/-- A word with no more units than a whole number does not come behind its rounding. -/
theorem orderKey_le_ofInt (hd : d.isNaN = false) {n : Int} (h : d.units ≤ n * unitsOfOne) :
    d.orderKey ≤ (ofInt n).orderKey := by
  rw [mul_unitsOfOne_eq] at h
  rw [orderKey_ofInt_eq]
  rcases place_le (le_nearestMagnitude (magnitude_le hd)) nearestMagnitude_le h
    with hle | ⟨-, hn, -, hzero⟩
  · exact hle
  · have hpos := Nat.mul_pos (Int.natAbs_pos.mpr (of_decide_eq_true hn).ne) unitsOfOne_pos
    omega

/-- A word with no fewer units than a whole number does not come before its rounding, unless it is
the negative zero. -/
theorem orderKey_ofInt_le (hd : d.isNaN = false) {n : Int} (h : n * unitsOfOne ≤ d.units) :
    (ofInt n).orderKey ≤ d.orderKey ∨ (n = 0 ∧ d = zero true) := by
  rw [mul_unitsOfOne_eq] at h
  rw [orderKey_ofInt_eq]
  rcases place_le nearestMagnitude_le (le_nearestMagnitude (magnitude_le hd)) h
    with hle | ⟨-, hsign, hn, hunits⟩
  · exact .inl hle
  · refine .inr ⟨?_, (eq_zero_iff true).mpr ⟨hsign, ?_⟩⟩
    · exact Int.natAbs_eq_zero.mp ((Nat.mul_eq_zero.mp hn).resolve_right unitsOfOne_pos.ne')
    · exact unitsOf_strictMono.injective hunits

/-! ## The number in units -/

/-- The number that has so many units; from the units of infinity on there is nothing else. -/
def ofUnits (k : Int) : Number :=
  if k ≤ -(unitsOf infinityMagnitude : Int) then ⊥
  else if (unitsOf infinityMagnitude : Int) ≤ k then ⊤
  else ((k / unitsOfOne : ℚ) : Number)

theorem ofUnits_of_lt {k : Int} (h : k.natAbs < unitsOf infinityMagnitude) :
    ofUnits k = ((k / unitsOfOne : ℚ) : Number) := by
  rw [ofUnits, if_neg (by omega), if_neg (by omega)]

theorem ofUnits_lt {j k : Int} (hj : j.natAbs ≤ unitsOf infinityMagnitude)
    (hk : k.natAbs ≤ unitsOf infinityMagnitude) (h : j < k) : ofUnits j < ofUnits k := by
  by_cases hbot : j ≤ -(unitsOf infinityMagnitude : Int)
  · rw [ofUnits, if_pos hbot, ofUnits, if_neg (by omega)]
    split
    · exact bot_lt_top
    · exact bot_lt_iff_ne_bot.mpr (WithBotTop.coe_ne_bot _)
  · rw [ofUnits_of_lt (by omega)]
    by_cases htop : (unitsOf infinityMagnitude : Int) ≤ k
    · rw [ofUnits, if_neg (by omega), if_pos htop]
      exact lt_top_iff_ne_top.mpr (WithBotTop.coe_ne_top _)
    · rw [ofUnits_of_lt (by omega), WithBotTop.coe_lt_coe]
      exact div_lt_div_of_pos_right (Int.cast_lt.mpr h) unitsOfOne_cast_pos

/-- Up to the units of infinity, numbers are in the order of their units. -/
theorem ofUnits_lt_iff {j k : Int} (hj : j.natAbs ≤ unitsOf infinityMagnitude)
    (hk : k.natAbs ≤ unitsOf infinityMagnitude) : ofUnits j < ofUnits k ↔ j < k := by
  constructor
  · intro hlt
    rcases Int.lt_trichotomy j k with h | rfl | h
    · exact h
    · exact absurd hlt (lt_irrefl _)
    · exact absurd hlt (ofUnits_lt hk hj h).asymm
  · exact ofUnits_lt hj hk

theorem natAbs_units (d : Double) : d.units.natAbs = unitsOf d.magnitude := by
  rw [units]
  split <;> omega

/-- A word that denotes something has no more units than infinity has. -/
theorem natAbs_units_le (hd : d.isNaN = false) : d.units.natAbs ≤ unitsOf infinityMagnitude := by
  rw [natAbs_units]
  exact unitsOf_le_iff.mpr (magnitude_le hd)

/-- The significand of a word with its power of two, in units. -/
theorem significand_mul_two_zpow (d : Double) :
    (d.significand : ℚ) * 2 ^ d.exponent = (unitsOf d.magnitude : ℚ) / (unitsOfOne : ℚ) := by
  have hexponent : d.exponent = ((d.exponentField - 1 : Nat) : Int) - 1074 := by
    rw [exponent]
    split <;> omega
  have hunits : unitsOf d.magnitude = d.significand * 2 ^ (d.exponentField - 1) := rfl
  rw [hexponent, two_zpow_sub, hunits, Nat.cast_mul, Nat.cast_pow, mul_div_assoc, Nat.cast_ofNat]

/-- What a word denotes is given by its units. -/
theorem number?_eq_ofUnits (hd : d.isNaN = false) : d.number? = some (ofUnits d.units) := by
  have hle := magnitude_le hd
  rw [number?, hd, if_neg Bool.false_ne_true]
  rcases Nat.lt_or_eq_of_le hle with hlt | heq
  · have hinfinite : d.isInfinite = false := beq_false_of_ne hlt.ne
    have hunits : unitsOf d.magnitude < unitsOf infinityMagnitude := unitsOf_strictMono hlt
    rw [hinfinite, if_neg Bool.false_ne_true, units]
    simp only [mul_assoc, significand_mul_two_zpow]
    split
    · rw [ofUnits_of_lt (by omega), Int.cast_neg, Int.cast_natCast, neg_one_mul, neg_div]
    · rw [ofUnits_of_lt (by omega), Int.cast_natCast, one_mul]
  · have hinfinite : d.isInfinite = true := beq_iff_eq.mpr heq
    have hpos : unitsOf 0 < unitsOf infinityMagnitude := unitsOf_strictMono (by decide)
    rw [unitsOf_zero] at hpos
    rw [hinfinite, if_pos rfl, units, heq]
    split
    · rw [ofUnits, if_pos le_rfl]
    · rw [ofUnits, if_neg (by omega), if_pos le_rfl]

/-- A whole number of sixty-four bits has fewer units than infinity. -/
theorem natAbs_mul_unitsOfOne_lt {n : Int} (h : n.natAbs ≤ 2 ^ 63) :
    (n * unitsOfOne).natAbs < unitsOf infinityMagnitude := by
  have hlt : n.natAbs < 2 ^ 64 := h.trans_lt (by decide)
  calc
    (n * unitsOfOne).natAbs = n.natAbs * unitsOfOne := Int.natAbs_mul _ _
    _ < 2 ^ 64 * unitsOfOne := Nat.mul_lt_mul_of_pos_right hlt unitsOfOne_pos
    _ = unitsOf ((64 + 1022) * 2 ^ 52 + 2 ^ 52) := (unitsOf_two_pow 64).symm
    _ < unitsOf infinityMagnitude := unitsOf_strictMono (by decide)

/-- A whole number of sixty-four bits is denoted by its units. -/
theorem intCast_eq_ofUnits {n : Int} (h : n.natAbs ≤ 2 ^ 63) :
    ((n : ℚ) : Number) = ofUnits (n * unitsOfOne) := by
  rw [ofUnits_of_lt (natAbs_mul_unitsOfOne_lt h), Int.cast_mul, Int.cast_natCast,
    mul_div_cancel_right₀ _ unitsOfOne_cast_pos.ne']

/-! ## Whole numbers that are words -/

/-- Whole numbers of fifty-three bits have a magnitude. -/
theorem exists_unitsOf_eq {n : Nat} (hn : n ≤ 2 ^ 53) :
    ∃ m ≤ infinityMagnitude, unitsOf m = n * unitsOfOne := by
  rcases Nat.eq_zero_or_pos n with rfl | hpos
  · exact ⟨0, Nat.zero_le _, by rw [Nat.zero_mul, unitsOf_zero]⟩
  · -- at the end of the range the significand has just reached the next power of two
    obtain ⟨k, hk, hlow, hhigh⟩ : ∃ k ≤ 52, 2 ^ k ≤ n ∧ n ≤ 2 ^ (k + 1) := by
      rcases Nat.le_total n.log2 52 with hlog | hlog
      · exact ⟨n.log2, hlog, Nat.log2_self_le hpos.ne', Nat.lt_log2_self.le⟩
      · have hpower : 2 ^ 52 ≤ 2 ^ n.log2 := Nat.pow_le_pow_right (by decide) hlog
        exact ⟨52, le_rfl, hpower.trans (Nat.log2_self_le hpos.ne'), hn⟩
    have hfirst : 2 ^ 52 ≤ n * 2 ^ (52 - k) := by
      have hsplit : 2 ^ 52 = 2 ^ k * 2 ^ (52 - k) := by rw [← Nat.pow_add, Nat.add_sub_cancel' hk]
      rw [hsplit]
      exact Nat.mul_le_mul_right _ hlow
    have hlast : n * 2 ^ (52 - k) ≤ 2 ^ 53 := by
      have hsplit : 2 ^ 53 = 2 ^ (k + 1) * 2 ^ (52 - k) := by
        rw [← Nat.pow_add]
        congr 1
        omega
      rw [hsplit]
      exact Nat.mul_le_mul_right _ hhigh
    refine ⟨(k + 1022) * 2 ^ 52 + n * 2 ^ (52 - k), by rw [infinityMagnitude]; omega, ?_⟩
    rw [unitsOf_add hfirst hlast, Nat.mul_assoc, ← Nat.pow_add,
      two_pow_eq (show 52 - k + (k + 1022) = 0 + 1074 by omega), Nat.pow_zero, Nat.one_mul]

theorem ofMagnitude_fields (negative : Bool) {m : Nat} (h : m < 2 ^ 63) :
    (ofMagnitude negative m).isNegative = negative ∧ (ofMagnitude negative m).magnitude = m := by
  have hkey : (ofMagnitude negative m).orderKey = _ := orderKey_ofMagnitude h
  rw [orderKey] at hkey
  cases hsign : (ofMagnitude negative m).isNegative <;> cases negative <;>
    simp only [hsign, if_true, if_false, Bool.false_eq_true] at hkey <;>
    first | exact ⟨rfl, by omega⟩ | omega

theorem isNaN_ofInt (n : Int) : (ofInt n).isNaN = false := by
  rw [isNaN, ofInt, nearest, (ofMagnitude_fields _ (nearestMagnitude_lt _ _)).2,
    decide_eq_false_iff_not, Nat.not_lt, nearestMagnitude]
  split
  · exact Nat.zero_le _
  · exact min_le_left _ _

/-- Whole numbers of fifty-three bits are not rounded. -/
theorem number?_ofInt {n : Int} (h : n.natAbs ≤ 2 ^ 53) :
    (ofInt n).number? = some ((n : ℚ) : Number) := by
  obtain ⟨m, hm, hunits⟩ := exists_unitsOf_eq h
  have hmagnitude : nearestMagnitude n.natAbs 1 = m :=
    Nat.le_antisymm (nearestMagnitude_le hunits.ge) (le_nearestMagnitude hm hunits.le)
  obtain ⟨hsign, hfield⟩ := ofMagnitude_fields (decide (n < 0)) (nearestMagnitude_lt n.natAbs 1)
  have hexact : (ofInt n).units = n * unitsOfOne := by
    rw [mul_unitsOfOne_eq, units, ofInt, nearest, hsign, hfield, hmagnitude, hunits]
  rw [number?_eq_ofUnits (isNaN_ofInt n), hexact, intCast_eq_ofUnits (h.trans (by decide))]

end Decimal.Double

end Strata
