import Strata.Proofs.ConditionLaws
import Strata.Proofs.JsonRoundTrip
import Strata.Proofs.NearestWords
import Strata.Proofs.NumberOrder
import Strata.Proofs.TokenIntegrity
import Strata.Proofs.Visibility

/-!
# Scalars in texts

A text is read as a boolean or a number only if it is spelled like one: the two words, and digits with
perhaps a sign in front and a fraction behind. All else is a text, also what is a number elsewhere,
such as `+5` or `1e5`. Nothing is lost of a whole number that fits sixty-four bits, so a condition with
its numeral finds it, in whichever kind it is stored; of all other numbers the closest word is taken.
-/

namespace Strata

open Text Decimal

/-! ## Decimal literals -/

/-- A decimal literal: digits with perhaps a minus sign in front, and perhaps a point and further
digits behind. -/
structure DecimalText where
  negative : Bool
  whole : List Char
  fraction? : Option (List Char)
  isDigits_whole : Numeral.isDigits whole = true
  isDigits_fraction : ∀ ds ∈ fraction?, Numeral.isDigits ds = true

namespace DecimalText

/-- The characters of a fraction, if there is one. -/
def fractionChars : Option (List Char) → List Char
  | none => []
  | some ds => '.' :: ds

/-- The characters of a literal without its sign. -/
def unsigned (n : DecimalText) : List Char := n.whole ++ fractionChars n.fraction?

/-- The characters of a literal. -/
def chars (n : DecimalText) : List Char := if n.negative then '-' :: n.unsigned else n.unsigned

/-- The text of a literal. -/
def text (n : DecimalText) : String := String.ofList n.chars

/-- The whole number that stands in front of the point. -/
def int (n : DecimalText) : Int :=
  if n.negative then -(Numeral.ofDigits n.whole : Int) else Numeral.ofDigits n.whole

/-- The number that a literal denotes. -/
def value (n : DecimalText) : ℚ :=
  (if n.negative then -1 else 1) * (Numeral.ofDigits n.whole +
    match n.fraction? with
    | none => 0
    | some ds => Numeral.ofDigits ds / 10 ^ ds.length)

/-- What a literal is read as. Without a fraction it is a whole number of the narrowest kind that holds
it. With a fraction, or if no kind holds it, it is the closest binary64 number. -/
inductive ReadAs (n : DecimalText) : Value → Prop where
  | int32 (k : Int32) (hwhole : n.fraction? = none) (hk : k.toInt = n.int) : ReadAs n (.int32 k)
  | int64 (k : Int64) (hwhole : n.fraction? = none) (hwide : ¬ (-2 ^ 31 ≤ n.int ∧ n.int < 2 ^ 31))
      (hk : k.toInt = n.int) : ReadAs n (.int64 k)
  | double (d : Double) (hwide : n.fraction? = none → ¬ (-2 ^ 63 ≤ n.int ∧ n.int < 2 ^ 63))
      (hd : d.IsNearest n.value) (hsign : d.isNegative = n.negative) : ReadAs n (.double d)

/-! ## Spelling -/

theorem forall_isDigit {cs : List Char} (h : Numeral.isDigits cs = true) :
    ∀ c ∈ cs, Numeral.isDigit c = true := by
  rw [Numeral.isDigits, Bool.and_eq_true, List.all_eq_true] at h
  exact h.2

theorem exists_cons_whole (n : DecimalText) :
    ∃ c cs, n.whole = c :: cs ∧ Numeral.isDigit c = true := by
  have hdigits := n.isDigits_whole
  cases hwhole : n.whole with
  | nil => simp [hwhole, Numeral.isDigits] at hdigits
  | cons c cs =>
    refine ⟨c, cs, rfl, forall_isDigit n.isDigits_whole c ?_⟩
    rw [hwhole]
    exact List.mem_cons_self

/-- Without its sign a literal begins with a digit. -/
theorem unsigned_ne_cons (n : DecimalText) {c : Char} (hc : Numeral.isDigit c = false)
    (rest : List Char) : n.unsigned ≠ c :: rest := by
  obtain ⟨d, cs, hwhole, hd⟩ := n.exists_cons_whole
  rw [unsigned, hwhole]
  intro h
  obtain ⟨rfl, -⟩ := List.cons.inj h
  rw [hd] at hc
  cases hc

theorem point_not_mem {cs : List Char} (h : Numeral.isDigits cs = true) : '.' ∉ cs := by
  intro hmem
  exact absurd (forall_isDigit h '.' hmem) (by decide)

theorem isUnsignedDecimal_iff (cs : List Char) :
    isUnsignedDecimal cs = true ↔ ∃ whole fraction?, Numeral.isDigits whole = true ∧
      (∀ ds ∈ fraction?, Numeral.isDigits ds = true) ∧ cs = whole ++ fractionChars fraction? := by
  unfold isUnsignedDecimal
  constructor
  · intro h
    cases hsplit : splitOnce? '.' cs with
    | none =>
      rw [hsplit] at h
      exact ⟨cs, none, h, nofun, (List.append_nil cs).symm⟩
    | some parts =>
      rw [hsplit] at h
      obtain ⟨hwhole, hfraction⟩ := Bool.and_eq_true_iff.mp h
      obtain ⟨rfl, -⟩ := splitOnce?_eq_some_iff.mp hsplit
      exact ⟨parts.1, some parts.2, hwhole, fun _ hds => Option.some.inj hds ▸ hfraction, rfl⟩
  · rintro ⟨whole, fraction?, hwhole, hfraction, rfl⟩
    have hpoint := point_not_mem hwhole
    cases fraction? with
    | none =>
      have hsplit : splitOnce? '.' (whole ++ fractionChars none) = none := by
        rw [fractionChars, List.append_nil, Option.eq_none_iff_forall_ne_some]
        rintro ⟨before, after⟩ hparts
        obtain ⟨rfl, -⟩ := splitOnce?_eq_some_iff.mp hparts
        exact hpoint (List.mem_append_right _ List.mem_cons_self)
      rw [hsplit, fractionChars, List.append_nil]
      exact hwhole
    | some ds =>
      rw [fractionChars, splitOnce?_eq_some_iff.mpr ⟨rfl, hpoint⟩]
      exact Bool.and_eq_true_iff.mpr ⟨hwhole, hfraction ds rfl⟩

/-- What passes for a decimal literal is the spelling of one. -/
theorem isDecimal_iff (cs : List Char) : isDecimal cs = true ↔ ∃ n : DecimalText, cs = n.chars := by
  constructor
  · intro h
    unfold isDecimal at h
    split at h
    next rest =>
      obtain ⟨whole, fraction?, hwhole, hfraction, rfl⟩ := (isUnsignedDecimal_iff rest).mp h
      exact ⟨⟨true, whole, fraction?, hwhole, hfraction⟩, rfl⟩
    next =>
      obtain ⟨whole, fraction?, hwhole, hfraction, rfl⟩ := (isUnsignedDecimal_iff _).mp h
      exact ⟨⟨false, whole, fraction?, hwhole, hfraction⟩, rfl⟩
  · rintro ⟨n, rfl⟩
    have hunsigned : isUnsignedDecimal n.unsigned = true := (isUnsignedDecimal_iff _).mpr
      ⟨n.whole, n.fraction?, n.isDigits_whole, n.isDigits_fraction, rfl⟩
    unfold chars
    split
    · exact hunsigned
    · unfold isDecimal
      split
      next rest hcs => exact absurd hcs (n.unsigned_ne_cons (by decide) rest)
      next => exact hunsigned

theorem isBlank_of_isDigit {c : Char} (h : Numeral.isDigit c = true) : isBlank c = false := by
  rw [Numeral.isDigit, Bool.and_eq_true, decide_eq_true_eq, decide_eq_true_eq] at h
  have hne {k : Nat} (hk : k < 48 ∨ 57 < k) : (c.toNat == k) = false := by
    rw [beq_eq_false_iff_ne]
    omega
  unfold isBlank
  simp [hne]
  omega

/-- A literal has no blanks. -/
theorem trim_text (n : DecimalText) : trim n.text = n.text := by
  refine trim_of_forall_not_blank fun c hc => ?_
  have hunsigned : c ∈ n.unsigned → c = '.' ∨ Numeral.isDigit c = true := by
    intro h
    rcases List.mem_append.mp h with h | h
    · exact .inr (forall_isDigit n.isDigits_whole c h)
    · cases hfraction : n.fraction? with
      | none => simp [hfraction, fractionChars] at h
      | some ds =>
        rw [hfraction] at h
        rcases List.mem_cons.mp h with h | h
        · exact .inl h
        · exact .inr (forall_isDigit (n.isDigits_fraction ds hfraction) c h)
  have hcases : c = '-' ∨ c = '.' ∨ Numeral.isDigit c = true := by
    rw [text, String.toList_ofList] at hc
    unfold chars at hc
    split at hc
    · rcases List.mem_cons.mp hc with hc | hc
      · exact .inl hc
      · exact .inr (hunsigned hc)
    · exact .inr (hunsigned hc)
  rcases hcases with rfl | rfl | hdigit
  · decide
  · decide
  · exact isBlank_of_isDigit hdigit

/-! ## Reading -/

variable (n : DecimalText)

theorem contains_point : n.text.toList.contains '.' = n.fraction?.isSome := by
  have hpoint := point_not_mem n.isDigits_whole
  rw [text, String.toList_ofList, Bool.eq_iff_iff, List.contains_iff_mem]
  unfold chars unsigned
  cases hfraction : n.fraction? with
  | none => cases n.negative <;> simp [fractionChars, hpoint]
  | some ds => cases n.negative <;> simp [fractionChars]

/-- A literal without a fraction is a signed numeral. -/
theorem intChars?_chars (h : n.fraction? = none) : Numeral.intChars? n.chars = some n.int := by
  have hunsigned : n.unsigned = n.whole := by rw [unsigned, h, fractionChars, List.append_nil]
  unfold chars int
  cases n.negative with
  | true =>
    show (if Numeral.isDigits n.unsigned = true then some _ else none) = _
    rw [hunsigned, if_pos n.isDigits_whole]
    rfl
  | false =>
    rw [if_neg Bool.false_ne_true, if_neg Bool.false_ne_true]
    unfold Numeral.intChars?
    split
    next rest hcs => exact absurd hcs (n.unsigned_ne_cons (by decide) rest)
    next rest hcs => exact absurd hcs (n.unsigned_ne_cons (by decide) rest)
    next => rw [hunsigned, if_pos n.isDigits_whole]

theorem int64?_text (h : n.fraction? = none) :
    Numeral.int64? n.text = if -2 ^ 63 ≤ n.int ∧ n.int < 2 ^ 63 then some n.int else none := by
  have hrange : decide (-2 ^ 63 ≤ n.int ∧ n.int ≤ 2 ^ 63 - 1)
      = decide (-2 ^ 63 ≤ n.int ∧ n.int < 2 ^ 63) := by
    rw [decide_eq_decide]
    omega
  unfold Numeral.int64? Numeral.intWithin?
  rw [text, String.toList_ofList, intChars?_chars n h, Option.filter_some, hrange]
  simp only [decide_eq_true_eq]

theorem toLower_of_isDigit {c : Char} (h : Numeral.isDigit c = true) : c.toLower = c := by
  rw [Numeral.isDigit, Bool.and_eq_true, decide_eq_true_eq, decide_eq_true_eq] at h
  unfold Char.toLower
  split
  next hupper =>
    have hletter : 65 ≤ c.toNat := UInt32.le_iff_toNat_le.mp hupper.1
    omega
  next => rfl

theorem unsignedLiteral?_unsigned (negative : Bool) :
    unsignedLiteral? negative n.unsigned = some ⟨negative, n.whole, n.fraction?.getD [], 0⟩ := by
  have hwhole := forall_isDigit n.isDigits_whole
  have hempty : n.whole.isEmpty = false := by
    obtain ⟨c, cs, hcons, -⟩ := n.exists_cons_whole
    rw [hcons]
    rfl
  unfold unsignedLiteral? unsigned
  rw [List.takeWhile_append_of_pos hwhole, List.dropWhile_append_of_pos hwhole]
  cases hfraction : n.fraction? with
  | none => simp [fractionChars, hempty]
  | some ds =>
    have hds := forall_isDigit (n.isDigits_fraction ds hfraction)
    have hpoint : Numeral.isDigit '.' = false := by decide
    simp [fractionChars, hempty, hpoint, List.takeWhile_eq_self_iff.mpr hds,
      List.dropWhile_eq_nil_iff.mpr hds]

/-- Digits begin no name of a number. -/
theorem unsignedDouble?_unsigned (negative : Bool) :
    unsignedDouble? negative n.unsigned = some (Double.ofDecimal negative
      (Numeral.ofDigits (n.whole ++ n.fraction?.getD [])) (-(n.fraction?.getD []).length)) := by
  obtain ⟨c, cs, hwhole, hc⟩ := n.exists_cons_whole
  have hname {t : String} {d : Char} {rest : List Char} (ht : t.toList = d :: rest)
      (hd : Numeral.isDigit d = false) : String.ofList (n.unsigned.map Char.toLower) ≠ t := by
    rintro rfl
    rw [String.toList_ofList, unsigned, hwhole, List.cons_append, List.map_cons,
      toLower_of_isDigit hc] at ht
    rw [(List.cons.inj ht).1, hd] at hc
    cases hc
  have hinf := hname (show "inf".toList = ['i', 'n', 'f'] from rfl) (by decide)
  have hinfinity := hname
    (show "infinity".toList = ['i', 'n', 'f', 'i', 'n', 'i', 't', 'y'] from rfl) (by decide)
  have hnan := hname (show "nan".toList = ['n', 'a', 'n'] from rfl) (by decide)
  unfold unsignedDouble?
  dsimp only
  rw [if_neg (not_or.mpr ⟨hinf, hinfinity⟩), if_neg hnan]
  rw [unsignedLiteral?_unsigned]
  simp [Literal.toDouble]

theorem ofText?_text :
    Double.ofText? n.text = some (Double.ofDecimal n.negative
      (Numeral.ofDigits (n.whole ++ n.fraction?.getD [])) (-(n.fraction?.getD []).length)) := by
  unfold Double.ofText?
  rw [text, String.toList_ofList]
  cases hsign : n.negative with
  | true =>
    rw [chars, hsign, if_pos rfl]
    exact unsignedDouble?_unsigned n true
  | false =>
    have hread := unsignedDouble?_unsigned n false
    rw [chars, hsign, if_neg Bool.false_ne_true]
    split
    next rest hcs => exact absurd hcs (n.unsigned_ne_cons (by decide) rest)
    next rest hcs => exact absurd hcs (n.unsigned_ne_cons (by decide) rest)
    next => exact hread

theorem ofDigits_append (cs ds : List Char) :
    Numeral.ofDigits (cs ++ ds) = 10 ^ ds.length * Numeral.ofDigits cs + Numeral.ofDigits ds := by
  show Nat.ofDigitChars 10 (cs ++ ds) 0 = _
  rw [Nat.ofDigitChars_append, Nat.ofDigitChars_eq_ofDigitChars_zero]
  rfl

/-- The digits of a literal, read as one number, are moved by as many places as the fraction has. -/
theorem value_eq :
    n.value = (if n.negative then -1 else 1) *
      ((Numeral.ofDigits (n.whole ++ n.fraction?.getD []) : ℚ)
        * 10 ^ (-(n.fraction?.getD []).length : Int)) := by
  unfold value
  congr 1
  cases n.fraction? with
  | none => simp
  | some ds =>
    have hpower : (10 : ℚ) ^ ds.length ≠ 0 := pow_ne_zero _ (by norm_num)
    rw [Option.getD_some, ofDigits_append, zpow_neg, zpow_natCast, Nat.cast_add, Nat.cast_mul,
      Nat.cast_pow, Nat.cast_ofNat, add_mul, mul_right_comm, mul_inv_cancel₀ hpower, one_mul,
      ← div_eq_mul_inv]

/-- A literal is read as a number of the narrowest kind that holds it, or as the closest one. -/
theorem readAs_readDecimal : n.ReadAs (readDecimal n.text) := by
  have hclosest (hwide : n.fraction? = none → ¬ (-2 ^ 63 ≤ n.int ∧ n.int < 2 ^ 63)) :
      n.ReadAs (.double (Double.ofDecimal n.negative (Numeral.ofDigits (n.whole ++ n.fraction?.getD []))
        (-(n.fraction?.getD []).length))) := by
    refine .double _ hwide ?_ (Double.isNegative_ofDecimal _ _ _)
    rw [value_eq]
    exact Double.isNearest_ofDecimal _ _ _
  unfold readDecimal
  rw [contains_point, ofText?_text]
  dsimp only
  cases hfraction : n.fraction? with
  | some ds =>
    rw [hfraction] at hclosest
    exact hclosest nofun
  | none =>
    rw [hfraction] at hclosest
    rw [Option.isSome_none, if_neg Bool.false_ne_true, int64?_text n hfraction]
    by_cases hfits : -2 ^ 63 ≤ n.int ∧ n.int < 2 ^ 63
    · rw [if_pos hfits]
      dsimp only
      unfold Value.ofInt
      split
      next hnarrow => exact .int32 _ hfraction (Int32.toInt_ofInt_of_le hnarrow.1 hnarrow.2)
      next hwide => exact .int64 _ hfraction hwide (Int64.toInt_ofInt_of_le hfits.1 hfits.2)
    · rw [if_neg hfits]
      exact hclosest fun _ => hfits

end DecimalText

/-! ## Scalars -/

section Scalar

variable {raw : String}

theorem isDecimal_toList_iff (s : String) :
    isDecimal s.toList = true ↔ ∃ n : DecimalText, s = n.text := by
  rw [DecimalText.isDecimal_iff]
  refine exists_congr fun n => ?_
  rw [DecimalText.text, ← String.toList_inj, String.toList_ofList]

theorem readScalar_of_bool (b : Bool) (h : trim raw = toString b) : readScalar raw = .bool b := by
  unfold readScalar
  rw [h]
  cases b <;> rfl

theorem readScalar_of_decimal (n : DecimalText) (h : trim raw = n.text) :
    readScalar raw = readDecimal n.text := by
  have hdecimal : isDecimal n.text.toList = true := (isDecimal_toList_iff _).mpr ⟨n, rfl⟩
  have hword {w : String} (hw : isDecimal w.toList = false) : n.text ≠ w := by
    rintro rfl
    rw [hdecimal] at hw
    cases hw
  unfold readScalar
  dsimp only
  rw [h, if_neg (hword (by decide)), if_neg (hword (by decide)), if_pos hdecimal]

theorem readScalar_of_other (hbool : ∀ b : Bool, trim raw ≠ toString b)
    (hdecimal : ∀ n : DecimalText, trim raw ≠ n.text) : readScalar raw = .string (trim raw) := by
  have hother : isDecimal (trim raw).toList = false := by
    rw [Bool.eq_false_iff, ne_eq, isDecimal_toList_iff]
    exact not_exists.mpr hdecimal
  unfold readScalar
  dsimp only
  rw [if_neg (show trim raw ≠ "true" from hbool true),
    if_neg (show trim raw ≠ "false" from hbool false), hother, if_neg Bool.false_ne_true]

/-- A text is spelled like a boolean, like a number, or neither. -/
theorem scalar_cases (raw : String) : (∃ b : Bool, trim raw = toString b) ∨
    (∃ n : DecimalText, trim raw = n.text) ∨
    (∀ b : Bool, trim raw ≠ toString b) ∧ ∀ n : DecimalText, trim raw ≠ n.text := by
  by_cases hbool : ∃ b : Bool, trim raw = toString b
  · exact .inl hbool
  · by_cases hdecimal : ∃ n : DecimalText, trim raw = n.text
    · exact .inr (.inl hdecimal)
    · exact .inr (.inr ⟨not_exists.mp hbool, not_exists.mp hdecimal⟩)

theorem isNumber_of_readAs {n : DecimalText} {v : Value} (h : n.ReadAs v) : v.isNumber = true := by
  cases h <;> rfl

theorem readScalar_eq_bool_iff (b : Bool) : readScalar raw = .bool b ↔ trim raw = toString b := by
  constructor
  · intro h
    rcases scalar_cases raw with ⟨b', hb'⟩ | ⟨n, hn⟩ | ⟨hbool, hdecimal⟩
    · rw [readScalar_of_bool b' hb'] at h
      rw [hb', Value.bool.inj h]
    · have hnumber := isNumber_of_readAs n.readAs_readDecimal
      rw [← readScalar_of_decimal n hn, h] at hnumber
      cases hnumber
    · rw [readScalar_of_other hbool hdecimal] at h
      cases h
  · exact readScalar_of_bool b

theorem isNumber_readScalar_iff :
    (readScalar raw).isNumber = true ↔ ∃ n : DecimalText, trim raw = n.text := by
  constructor
  · intro h
    rcases scalar_cases raw with ⟨b, hb⟩ | hdecimal | ⟨hbool, hdecimal⟩
    · rw [readScalar_of_bool b hb] at h
      cases h
    · exact hdecimal
    · rw [readScalar_of_other hbool hdecimal] at h
      cases h
  · rintro ⟨n, hn⟩
    rw [readScalar_of_decimal n hn]
    exact isNumber_of_readAs n.readAs_readDecimal

end Scalar

/-! ## Whole numbers in conditions -/

namespace DecimalText

/-- The literal of a whole number. -/
def ofInt (n : Int) : DecimalText where
  negative := n < 0
  whole := Nat.toDigits 10 n.natAbs
  fraction? := none
  isDigits_whole := by
    rw [Numeral.isDigits, Bool.and_eq_true, List.all_eq_true]
    exact ⟨by simp, fun c => Numeral.isDigit_of_mem_toDigits⟩
  isDigits_fraction := nofun

theorem int_ofInt (n : Int) : (ofInt n).int = n := by
  unfold int ofInt
  simp only [Numeral.ofDigits_toDigits, decide_eq_true_eq]
  split <;> omega

theorem text_ofInt (n : Int) : (ofInt n).text = toString n := by
  rw [← String.toList_inj, Json.toList_toString_int, text, String.toList_ofList]
  unfold chars unsigned fractionChars ofInt
  simp only [decide_eq_true_eq, List.append_nil]
  split <;> rfl

/-- Nothing is lost of a whole number of sixty-four bits. -/
theorem ReadAs.toInt?_eq {n : DecimalText} {v : Value} (h : n.ReadAs v) (hwhole : n.fraction? = none)
    (hfits : -2 ^ 63 ≤ n.int ∧ n.int < 2 ^ 63) : v.toInt? = some n.int := by
  cases h with
  | int32 k _ hk => rw [← hk]; rfl
  | int64 k _ _ hk => rw [← hk]; rfl
  | double d hwide => exact absurd hfits (hwide hwhole)

end DecimalText

theorem toInt?_readScalar (n : Int64) : (readScalar (toString n.toInt)).toInt? = some n.toInt := by
  have hread := (DecimalText.ofInt n.toInt).readAs_readDecimal
  rw [← readScalar_of_decimal _ (DecimalText.ofInt n.toInt).trim_text, DecimalText.text_ofInt]
    at hread
  have hfits : -2 ^ 63 ≤ (DecimalText.ofInt n.toInt).int ∧ (DecimalText.ofInt n.toInt).int < 2 ^ 63 := by
    rw [DecimalText.int_ofInt]
    exact ⟨n.le_toInt, n.toInt_lt⟩
  rw [hread.toInt?_eq rfl hfits, DecimalText.int_ofInt]

/-- On a field that may be used, the condition with the numeral of a whole number finds that number, in
whichever kind it is stored. -/
theorem matches_numeral {l : Level} {f : String} (hf : (l.operators? f).isSome) (n : Int64)
    (bound : Bindings) {d : Document} {v : Value} (hget : d.get? f = some v)
    (hv : v.toInt? = some n.toInt) : Matches l [⟨f, .eq, toString n.toInt⟩] bound d := by
  have hcheck := (check_eq_and_ne hf (toString n.toInt)).1
  have hsegment : IsSegment f := Level.isSegment_of_mem_columns (Condition.mem_columns_of_check hcheck)
  have hread := toInt?_readScalar n
  rw [matches_singleton_iff hcheck, holds_eq_iff]
  refine ⟨v, ?_, ?_⟩
  · rw [Document.candidates_of_isSegment hsegment, hget]
    cases v with
    | int32 _ | int64 _ => exact List.mem_singleton.mpr rfl
    | _ => cases hv
  · rw [Value.equal_of_isNumber (Value.isNumber_of_toInt? hv) (Value.isNumber_of_toInt? hread),
      Value.compareNumbers_of_toInt? hv hread, beq_iff_eq]
    exact compare_eq_iff_eq.mpr rfl

/-- **Scalars are read by their spelling, and whole numbers exactly.** With the blanks around it taken
off, a text is read as a boolean exactly if it is the word for it, and as a number exactly if it is a
decimal literal; any other text is read as it is. A literal is a whole number of the narrowest kind
that holds it, or else the closest binary64 number. So on a field that may be used, the equality with
the numeral of a whole number of sixty-four bits matches the documents that hold this number there, in
either kind. -/
theorem readScalar_by_spelling :
    (∀ raw : String,
      (∀ b : Bool, readScalar raw = .bool b ↔ trim raw = toString b) ∧
      ((readScalar raw).isNumber = true ↔ ∃ n : DecimalText, trim raw = n.text) ∧
      ((∀ b : Bool, trim raw ≠ toString b) → (∀ n : DecimalText, trim raw ≠ n.text) →
        readScalar raw = .string (trim raw)) ∧
      ∀ n : DecimalText, trim raw = n.text → n.ReadAs (readScalar raw)) ∧
    ∀ (l : Level) (f : String) (n : Int64) (bound : Bindings) (d : Document),
      (l.operators? f).isSome →
      (d.get? f = some (.int64 n) ∨ ∃ k : Int32, k.toInt = n.toInt ∧ d.get? f = some (.int32 k)) →
      Matches l [⟨f, .eq, toString n.toInt⟩] bound d := by
  constructor
  · intro raw
    refine ⟨readScalar_eq_bool_iff, isNumber_readScalar_iff, readScalar_of_other, ?_⟩
    intro n hn
    rw [readScalar_of_decimal n hn]
    exact n.readAs_readDecimal
  · intro l f n bound d hf hd
    rcases hd with hd | ⟨k, hk, hd⟩
    · exact matches_numeral hf n bound hd rfl
    · exact matches_numeral hf n bound hd (congrArg some hk)

/-- Seven below zero, with zeros in front. -/
def minusSeven : DecimalText := ⟨true, "007".toList, none, by decide, nofun⟩

/-- The first whole number that does not fit sixty-four bits. -/
def twoPow63 : DecimalText := ⟨false, "9223372036854775808".toList, none, by decide, nofun⟩

/-- One tenth. -/
def oneTenth : DecimalText := ⟨false, ['0'], some ['1'], by decide, by decide⟩

/-- Zeros in front and blanks around do no harm, a plus sign makes a text, and the least whole number
of sixty-four bits is found. -/
theorem readScalar_spelledNumbers :
    readScalar " -007\t" = .int32 (-7) ∧ readScalar " +5" = .string "+5" ∧
    (∃ d : Double, readScalar "9223372036854775808" = .double d ∧ d.IsNearest (2 ^ 63)) ∧
    (∃ d : Double, readScalar "0.1" = .double d ∧ d.IsNearest (1 / 10)) ∧
    Matches .poly [⟨"H11", .eq, "-9223372036854775808"⟩] [] [("H11", .int64 Int64.minValue)] := by
  refine ⟨?_, ?_, ?_, ?_, ?_⟩
  · have hread := (readScalar_by_spelling.1 " -007\t").2.2.2 minusSeven (by decide +kernel)
    have hint : minusSeven.int = -7 := by decide
    generalize readScalar " -007\t" = v at hread ⊢
    cases hread with
    | int32 k _ hk => exact congrArg Value.int32 (Int32.toInt_inj.mp (hk.trans hint))
    | int64 k _ hwide _ => exact absurd (by rw [hint]; decide) hwide
    | double d hwide => exact absurd (by rw [hint]; decide) (hwide rfl)
  · have htrim : trim " +5" = "+5" := by decide +kernel
    have hbool : ∀ b : Bool, trim " +5" ≠ toString b := by decide +kernel
    have hdecimal : ∀ n : DecimalText, trim " +5" ≠ n.text := by
      intro n h
      have hspelled := (isDecimal_toList_iff _).mpr ⟨n, h⟩
      rw [htrim] at hspelled
      exact absurd hspelled (by decide)
    rw [(readScalar_by_spelling.1 " +5").2.2.1 hbool hdecimal, htrim]
  · have hread := (readScalar_by_spelling.1 "9223372036854775808").2.2.2 twoPow63 (by decide +kernel)
    have hint : twoPow63.int = 2 ^ 63 := by decide
    have hvalue : twoPow63.value = 2 ^ 63 := by
      have hdigits : Numeral.ofDigits twoPow63.whole = 2 ^ 63 := by decide
      unfold DecimalText.value
      rw [hdigits]
      norm_num [twoPow63]
    generalize readScalar "9223372036854775808" = v at hread ⊢
    cases hread with
    | int32 k _ hk =>
      have hlt := k.toInt_lt
      omega
    | int64 k _ _ hk =>
      have hlt := k.toInt_lt
      omega
    | double d _ hd => exact ⟨d, rfl, hvalue ▸ hd⟩
  · have hread := (readScalar_by_spelling.1 "0.1").2.2.2 oneTenth (by decide +kernel)
    have hvalue : oneTenth.value = 1 / 10 := by
      have hwhole : Numeral.ofDigits oneTenth.whole = 0 := by decide
      have hfraction : Numeral.ofDigits ['1'] = 1 := by decide
      unfold DecimalText.value
      rw [hwhole]
      simp [oneTenth, hfraction]
    generalize readScalar "0.1" = v at hread ⊢
    cases hread with
    | int32 k hwhole => cases hwhole
    | int64 k hwhole => cases hwhole
    | double d _ hd => exact ⟨d, rfl, hvalue ▸ hd⟩
  · exact readScalar_by_spelling.2 .poly "H11" Int64.minValue [] _ (by decide) (.inl rfl)

end Strata
