import Strata.Text.Base64
import Strata.Text.Hex
import Strata.Text.Utf8
import Strata.Value.Basic

/-!
# Reading back what was written

Bytes in base 64, texts in UTF-8 and identifiers in hexadecimal digits are read back as they were
written.
-/

namespace Strata.Text

/-! ## Base 64 -/

namespace Base64

/-- An alphabet whose letters have different values and do not stand for padding. -/
structure Variant.IsAlphabet (v : Variant) : Prop where
  value?_letter : ∀ n < 64, v.value? (v.letter n) = some n
  letter_ne_padding : ∀ n < 64, v.letter n ≠ '='

theorem isAlphabet_urlSafe : urlSafe.IsAlphabet := ⟨by decide, by decide⟩

theorem lt_of_mem_sextets {bytes : List UInt8} {n : Nat} (h : n ∈ sextets bytes) : n < 64 := by
  induction bytes using sextets.induct with
  | case1 => simp [sextets] at h
  | case2 a =>
    have ha := a.toNat_lt
    simp only [sextets, List.mem_cons, List.not_mem_nil, or_false] at h
    omega
  | case3 a b =>
    have ha := a.toNat_lt
    have hb := b.toNat_lt
    simp only [sextets, List.mem_cons, List.not_mem_nil, or_false] at h
    omega
  | case4 a b c rest ih =>
    have ha := a.toNat_lt
    have hb := b.toNat_lt
    have hc := c.toNat_lt
    simp only [sextets, List.mem_cons] at h
    rcases h with h | h | h | h | h
    · omega
    · omega
    · omega
    · omega
    · exact ih h

theorem length_sextets (bytes : List UInt8) :
    (sextets bytes).length = (4 * bytes.length + 2) / 3 := by
  induction bytes using sextets.induct with
  | case1 => rfl
  | case2 a => simp [sextets]
  | case3 a b => simp [sextets]
  | case4 a b c rest ih =>
    simp only [sextets, List.length_cons, ih]
    omega

private theorem ofNat_of_eq_toNat {b : UInt8} {n : Nat} (h : n = b.toNat) : UInt8.ofNat n = b := by
  rw [h, UInt8.ofNat_toNat]

theorem ofSextets?_sextets (bytes : List UInt8) : ofSextets? (sextets bytes) = some bytes := by
  induction bytes using sextets.induct with
  | case1 => rfl
  | case2 a =>
    have ha : UInt8.ofNat (a.toNat / 4 * 4 + a.toNat % 4 * 16 / 16) = a :=
      ofNat_of_eq_toNat (by omega)
    rw [sextets, ofSextets?, if_pos (by omega), ha]
  | case3 a b =>
    have hb := b.toNat_lt
    have ha : UInt8.ofNat (a.toNat / 4 * 4 + (a.toNat % 4 * 16 + b.toNat / 16) / 16) = a :=
      ofNat_of_eq_toNat (by omega)
    have hb : UInt8.ofNat ((a.toNat % 4 * 16 + b.toNat / 16) % 16 * 16 + b.toNat % 16 * 4 / 4) = b :=
      ofNat_of_eq_toNat (by omega)
    rw [sextets, ofSextets?, if_pos (by omega), ha, hb]
  | case4 a b c rest ih =>
    have hb := b.toNat_lt
    have hc := c.toNat_lt
    have ha : UInt8.ofNat (a.toNat / 4 * 4 + (a.toNat % 4 * 16 + b.toNat / 16) / 16) = a :=
      ofNat_of_eq_toNat (by omega)
    have hb : UInt8.ofNat ((a.toNat % 4 * 16 + b.toNat / 16) % 16 * 16 +
        (b.toNat % 16 * 4 + c.toNat / 64) / 4) = b :=
      ofNat_of_eq_toNat (by omega)
    have hc : UInt8.ofNat ((b.toNat % 16 * 4 + c.toNat / 64) % 4 * 64 + c.toNat % 64) = c :=
      ofNat_of_eq_toNat (by omega)
    rw [sextets, ofSextets?, ih]
    simp only [Option.bind_eq_bind, Option.bind_some, ha, hb, hc]
    rfl

variable {v : Variant}

theorem mapM_letter (hv : v.IsAlphabet) {groups : List Nat} (h : ∀ n ∈ groups, n < 64) :
    (groups.map v.letter).mapM v.value? = some groups := by
  induction groups with
  | nil => rfl
  | cons n rest ih =>
    rw [List.forall_mem_cons] at h
    simp [hv.value?_letter n h.1, ih h.2]

/-- Bytes are read back from the characters that stand for them. -/
theorem decodeChars?_encodeChars (hv : v.IsAlphabet) (bytes : List UInt8) :
    v.decodeChars? (v.encodeChars bytes) = some bytes := by
  have hletters : ∀ c ∈ (sextets bytes).map v.letter, (c != '=') = true := by
    intro c hc
    obtain ⟨n, hn, rfl⟩ := List.mem_map.mp hc
    simpa using hv.letter_ne_padding n (lt_of_mem_sextets hn)
  have htake : (v.encodeChars bytes).takeWhile (· != '=') = (sextets bytes).map v.letter := by
    rw [Variant.encodeChars, List.takeWhile_append_of_pos hletters, List.takeWhile_replicate]
    simp
  have hdrop : (v.encodeChars bytes).dropWhile (· != '=')
      = List.replicate (v.padding ((sextets bytes).map v.letter).length) '=' := by
    rw [Variant.encodeChars, List.dropWhile_append_of_pos hletters, List.dropWhile_replicate]
    simp
  have hguard : ∀ {p : Prop} [Decidable p], p → (guard p : Option Unit) = some () := by
    intro p _ h
    exact if_pos h
  rw [Variant.decodeChars?, htake, hdrop, mapM_letter hv fun n => lt_of_mem_sextets, hguard rfl]
  exact ofSextets?_sextets bytes

/-- A letter is the letter of its value. -/
theorem letter_of_value? {c : Char} {n : Nat} (h : v.value? c = some n) :
    n < 64 ∧ v.letter n = c := by
  have hnumber : ∀ m, m = c.toNat → Char.ofNat m = c := fun m hm => by rw [hm, Char.ofNat_toNat]
  simp only [Variant.value?] at h
  split at h
  next hc =>
    obtain rfl := Option.some.inj h
    rw [Variant.letter, if_pos (by omega)]
    exact ⟨by omega, hnumber _ (by omega)⟩
  split at h
  next hc =>
    obtain rfl := Option.some.inj h
    rw [Variant.letter, if_neg (by omega), if_pos (by omega)]
    exact ⟨by omega, hnumber _ (by omega)⟩
  split at h
  next hc =>
    obtain rfl := Option.some.inj h
    rw [Variant.letter, if_neg (by omega), if_neg (by omega), if_pos (by omega)]
    exact ⟨by omega, hnumber _ (by omega)⟩
  split at h
  next hc =>
    obtain rfl := Option.some.inj h
    exact ⟨by decide, hc.symm⟩
  split at h
  next hc =>
    obtain rfl := Option.some.inj h
    exact ⟨by decide, hc.symm⟩
  next => cases h

theorem letters_of_mapM {cs : List Char} {groups : List Nat} (h : cs.mapM v.value? = some groups) :
    (∀ n ∈ groups, n < 64) ∧ groups.map v.letter = cs := by
  induction cs generalizing groups with
  | nil =>
    obtain rfl := Option.some.inj h
    exact ⟨nofun, rfl⟩
  | cons c rest ih =>
    rw [List.mapM_cons] at h
    obtain ⟨n, hn, h⟩ := Option.bind_eq_some_iff.mp h
    obtain ⟨ns, hns, h⟩ := Option.bind_eq_some_iff.mp h
    obtain rfl := Option.some.inj h
    obtain ⟨hlt, hletter⟩ := letter_of_value? hn
    obtain ⟨hall, hmap⟩ := ih hns
    exact ⟨List.forall_mem_cons.mpr ⟨hlt, hall⟩, by rw [List.map_cons, hletter, hmap]⟩

private theorem toNat_ofNat_of_lt {n : Nat} (h : n < 256) : (UInt8.ofNat n).toNat = n := by
  rw [UInt8.toNat_ofNat']
  omega

/-- Groups of six bits are those of the bytes they are joined to. -/
theorem sextets_of_ofSextets? {groups : List Nat} (hlt : ∀ n ∈ groups, n < 64) {bytes : List UInt8}
    (h : ofSextets? groups = some bytes) : sextets bytes = groups := by
  induction groups using ofSextets?.induct generalizing bytes with
  | case1 =>
    obtain rfl := Option.some.inj h
    rfl
  | case2 a => cases h
  | case3 a b hzero =>
    obtain ⟨ha, hb⟩ : a < 64 ∧ b < 64 := by simpa using hlt
    rw [ofSextets?, if_pos hzero] at h
    obtain rfl := Option.some.inj h
    rw [sextets, toNat_ofNat_of_lt (by omega)]
    simp only [List.cons.injEq, and_true]
    omega
  | case4 a b hzero =>
    rw [ofSextets?, if_neg hzero] at h
    cases h
  | case5 a b c hzero =>
    obtain ⟨ha, hb, hc⟩ : a < 64 ∧ b < 64 ∧ c < 64 := by simpa using hlt
    rw [ofSextets?, if_pos hzero] at h
    obtain rfl := Option.some.inj h
    rw [sextets, toNat_ofNat_of_lt (by omega), toNat_ofNat_of_lt (by omega)]
    simp only [List.cons.injEq, and_true]
    omega
  | case6 a b c hzero =>
    rw [ofSextets?, if_neg hzero] at h
    cases h
  | case7 a b c d rest ih =>
    simp only [List.forall_mem_cons] at hlt
    obtain ⟨ha, hb, hc, hd, hrest⟩ := hlt
    rw [ofSextets?] at h
    obtain ⟨tail, htail, h⟩ := Option.bind_eq_some_iff.mp h
    obtain rfl := Option.some.inj h
    rw [sextets, ih hrest htail, toNat_ofNat_of_lt (by omega), toNat_ofNat_of_lt (by omega),
      toNat_ofNat_of_lt (by omega)]
    simp only [List.cons.injEq, and_true]
    omega

/-- **Reading is strict.** Characters are read as bytes exactly if they are what stands for them. -/
theorem decodeChars?_eq_some_iff (hv : v.IsAlphabet) {cs : List Char} {bytes : List UInt8} :
    v.decodeChars? cs = some bytes ↔ cs = v.encodeChars bytes := by
  refine ⟨fun h => ?_, fun h => h ▸ decodeChars?_encodeChars hv bytes⟩
  obtain ⟨⟨⟩, hguard, h⟩ := Option.bind_eq_some_iff.mp h
  obtain ⟨groups, hgroups, hbytes⟩ := Option.bind_eq_some_iff.mp h
  obtain ⟨hlt, hletters⟩ := letters_of_mapM hgroups
  have hpadding : cs.dropWhile (· != '=') =
      List.replicate (v.padding (cs.takeWhile (· != '=')).length) '=' :=
    Decidable.of_not_not fun hne => nomatch hguard.symm.trans (if_neg hne)
  rw [Variant.encodeChars, sextets_of_ofSextets? hlt hbytes, hletters, ← hpadding,
    List.takeWhile_append_dropWhile]

theorem length_encodeChars_urlSafe (bytes : List UInt8) :
    (urlSafe.encodeChars bytes).length = (4 * bytes.length + 2) / 3 := by
  simp [Variant.encodeChars, Variant.padding, urlSafe, length_sextets]

/-- What holds for every letter holds for the characters that stand for bytes. -/
theorem forall_mem_encodeChars_urlSafe {P : Char → Prop} (h : ∀ n < 64, P (urlSafe.letter n))
    {bytes : List UInt8} {c : Char} (hc : c ∈ urlSafe.encodeChars bytes) : P c := by
  have hletters : urlSafe.encodeChars bytes = (sextets bytes).map urlSafe.letter := by
    simp [Variant.encodeChars, Variant.padding, urlSafe]
  rw [hletters] at hc
  obtain ⟨n, hn, rfl⟩ := List.mem_map.mp hc
  exact h n (lt_of_mem_sextets hn)

end Base64

/-! ## UTF-8 -/

namespace Utf8

theorem payload?_ofNat {n : Nat} (h : n < 64) : payload? (UInt8.ofNat (n + 0x80)) = some n := by
  have hn : (UInt8.ofNat (n + 0x80)).toNat = n + 0x80 := by
    rw [UInt8.toNat_ofNat']
    omega
  rw [payload?, hn, if_pos (by omega), Nat.add_sub_cancel]

theorem scalar?_toNat {lo hi n : Nat} {c : Char} (hn : n = c.toNat) (hlo : lo ≤ n) (hhi : n ≤ hi) :
    scalar? lo hi n = some c := by
  have hvalid : n < 0xd800 ∨ 0xdfff < n ∧ n < 0x110000 := hn ▸ c.valid
  rw [scalar?, if_pos ⟨hlo, hhi, by omega⟩, hn, Char.ofNat_toNat]

/-! One lemma for each length that the bytes of a character can have. -/

section Lengths

variable {c : Char} {n : Nat} (hn : n = c.toNat) (rest : List UInt8)
include hn

theorem character?_one (hhi : n ≤ 0x7f) : character? (UInt8.ofNat n) rest = some (c, 0) := by
  have ha : (UInt8.ofNat n).toNat = n := by
    rw [UInt8.toNat_ofNat']
    omega
  simp only [character?, ha]
  rw [if_pos (by omega), hn, Char.ofNat_toNat]

theorem character?_two (hlo : 0x80 ≤ n) (hhi : n ≤ 0x7ff) :
    character? (UInt8.ofNat (n / 64 % 0x20 + 0xc0)) (UInt8.ofNat (n % 0x40 + 0x80) :: rest)
      = some (c, 1) := by
  have ha : (UInt8.ofNat (n / 64 % 0x20 + 0xc0)).toNat = n / 64 + 0xc0 := by
    rw [UInt8.toNat_ofNat']
    omega
  have hx := payload?_ofNat (n := n % 0x40) (by omega)
  have hs : scalar? 0x80 0x7ff ((n / 64 + 0xc0 - 0xc0) * 64 + n % 0x40) = some c :=
    scalar?_toNat (by omega) (by omega) (by omega)
  simp only [character?, ha]
  rw [if_neg (by omega), if_neg (by omega), if_pos (by omega)]
  simp only [List.getElem?_cons_zero, Option.bind_eq_bind, Option.bind_some, hx, hs]
  rfl

theorem character?_three (hlo : 0x800 ≤ n) (hhi : n ≤ 0xffff) :
    character? (UInt8.ofNat (n / 4096 % 0x10 + 0xe0))
      (UInt8.ofNat (n / 64 % 0x40 + 0x80) :: UInt8.ofNat (n % 0x40 + 0x80) :: rest)
      = some (c, 2) := by
  have ha : (UInt8.ofNat (n / 4096 % 0x10 + 0xe0)).toNat = n / 4096 + 0xe0 := by
    rw [UInt8.toNat_ofNat']
    omega
  have hx := payload?_ofNat (n := n / 64 % 0x40) (by omega)
  have hy := payload?_ofNat (n := n % 0x40) (by omega)
  have hs : scalar? 0x800 0xffff
      (((n / 4096 + 0xe0 - 0xe0) * 64 + n / 64 % 0x40) * 64 + n % 0x40) = some c :=
    scalar?_toNat (by omega) (by omega) (by omega)
  simp only [character?, ha]
  rw [if_neg (by omega), if_neg (by omega), if_neg (by omega), if_pos (by omega)]
  simp only [List.getElem?_cons_zero, List.getElem?_cons_succ, Option.bind_eq_bind,
    Option.bind_some, hx, hy, hs]
  rfl

theorem character?_four (hlo : 0x10000 ≤ n) :
    character? (UInt8.ofNat (n / 262144 % 0x08 + 0xf0))
      (UInt8.ofNat (n / 4096 % 0x40 + 0x80) :: UInt8.ofNat (n / 64 % 0x40 + 0x80) ::
        UInt8.ofNat (n % 0x40 + 0x80) :: rest) = some (c, 3) := by
  -- a character is at most 0x10ffff, which bounds its first byte
  have hvalid : n < 0xd800 ∨ 0xdfff < n ∧ n < 0x110000 := hn ▸ c.valid
  have ha : (UInt8.ofNat (n / 262144 % 0x08 + 0xf0)).toNat = n / 262144 + 0xf0 := by
    rw [UInt8.toNat_ofNat']
    omega
  have hx := payload?_ofNat (n := n / 4096 % 0x40) (by omega)
  have hy := payload?_ofNat (n := n / 64 % 0x40) (by omega)
  have hz := payload?_ofNat (n := n % 0x40) (by omega)
  have hs : scalar? 0x10000 0x10ffff
      ((((n / 262144 + 0xf0 - 0xf0) * 64 + n / 4096 % 0x40) * 64 + n / 64 % 0x40) * 64 +
        n % 0x40) = some c :=
    scalar?_toNat (by omega) (by omega) (by omega)
  simp only [character?, ha]
  rw [if_neg (by omega), if_neg (by omega), if_neg (by omega), if_neg (by omega),
    if_pos (by omega)]
  simp only [List.getElem?_cons_zero, List.getElem?_cons_succ, Option.bind_eq_bind,
    Option.bind_some, hx, hy, hz, hs]
  rfl

end Lengths

/-- The bytes of a character are read back as this character, whatever comes behind them. -/
theorem exists_character?_eq (c : Char) (rest : List UInt8) :
    ∃ a tail, String.utf8EncodeChar c = a :: tail ∧
      character? a (tail ++ rest) = some (c, tail.length) := by
  have hc : c.val.toNat = c.toNat := rfl
  rw [String.utf8EncodeChar]
  split
  next h1 => exact ⟨_, _, rfl, character?_one hc rest h1⟩
  next h1 =>
    split
    next h2 => exact ⟨_, _, rfl, character?_two hc rest (by omega) h2⟩
    next h2 =>
      split
      next h3 => exact ⟨_, _, rfl, character?_three hc rest (by omega) h3⟩
      next h3 => exact ⟨_, _, rfl, character?_four hc rest (by omega)⟩

theorem glyphsFrom_append (acc : List Glyph) (read rest : List UInt8) :
    glyphsFrom acc read.length (read ++ rest) = glyphsFrom acc 0 rest := by
  induction read with
  | nil => rfl
  | cons b tail ih => rw [List.length_cons, List.cons_append, glyphsFrom, ih]

/-- A text is read back from its bytes. -/
theorem glyphs_encode (s : String) : glyphs (encode s) = glyphsOf s := by
  suffices h : ∀ (cs : List Char) (acc : List Glyph),
      glyphsFrom acc 0 (cs.flatMap String.utf8EncodeChar) = acc.reverse ++ cs.map some from
    h s.toList []
  intro cs
  induction cs with
  | nil => intro acc; simp [glyphsFrom]
  | cons c rest ih =>
    intro acc
    obtain ⟨a, tail, hbytes, hread⟩ :=
      exists_character?_eq c (rest.flatMap String.utf8EncodeChar)
    rw [List.flatMap_cons, hbytes, List.cons_append, glyphsFrom, hread]
    simp only [glyphsFrom_append, ih]
    simp

end Utf8

/-! ## Hexadecimal digits -/

namespace Hex

theorem digitValue?_digit : ∀ n < 16, digitValue? (digit n) = some n := by decide

theorem digitValue?_digitChar : ∀ n < 16, digitValue? (Nat.digitChar n) = some n := by decide

/-- The number that digits denote, if they are digits. -/
def valueOf? (cs : List Char) : Option Nat :=
  (cs.mapM digitValue?).map fun ds => ds.foldl (fun n d => 16 * n + d) 0

theorem valueOf?_concat {cs : List Char} {n d : Nat} {c : Char} (hcs : valueOf? cs = some n)
    (hc : digitValue? c = some d) : valueOf? (cs ++ [c]) = some (16 * n + d) := by
  obtain ⟨ds, hds, hn⟩ := Option.map_eq_some_iff.mp hcs
  simp [valueOf?, List.mapM_append, hds, hc, hn]

theorem valueOf?_cons_zero (cs : List Char) : valueOf? ('0' :: cs) = valueOf? cs := by
  have hzero : digitValue? '0' = some 0 := rfl
  rw [valueOf?, List.mapM_cons, hzero, valueOf?]
  cases cs.mapM digitValue? <;> rfl

theorem valueOf?_toDigits (n : Nat) : valueOf? (Nat.toDigits 16 n) = some n := by
  induction n using Nat.strongRecOn with
  | ind n ih =>
    by_cases hn : n < 16
    · rw [Nat.toDigits_of_lt_base hn]
      simp [valueOf?, digitValue?_digitChar n hn]
    · rw [Nat.toDigits_of_base_le (by decide) (by omega),
        valueOf?_concat (ih (n / 16) (by omega)) (digitValue?_digitChar (n % 16) (by omega))]
      exact congrArg some (by omega)

theorem toList_padded (width n : Nat) :
    (padded width n).toList
      = List.replicate (width - (Nat.toDigits 16 n).length) '0' ++ Nat.toDigits 16 n :=
  String.toList_ofList

/-- Zeros in front do not change the number. -/
theorem valueOf?_padded (width n : Nat) : valueOf? (padded width n).toList = some n := by
  rw [toList_padded]
  induction width - (Nat.toDigits 16 n).length with
  | zero => exact valueOf?_toDigits n
  | succ k ih => rw [List.replicate_succ, List.cons_append, valueOf?_cons_zero, ih]

theorem length_padded {width n : Nat} (hwidth : 0 < width) (h : n < 16 ^ width) :
    (padded width n).toList.length = width := by
  have hle := (Nat.length_toDigits_le_iff (by decide) hwidth).mpr h
  rw [toList_padded, List.length_append, List.length_replicate]
  omega

/-- What holds for every digit holds for the characters of a padded number. -/
theorem forall_mem_padded {P : Char → Prop} (h : ∀ d < 16, P (Nat.digitChar d)) {width n : Nat}
    {c : Char} (hc : c ∈ (padded width n).toList) : P c := by
  have hdigits : ∀ m, ∀ d ∈ Nat.toDigits 16 m, P d := by
    intro m
    induction m using Nat.strongRecOn with
    | ind m ih =>
      intro d hd
      by_cases hm : m < 16
      · rw [Nat.toDigits_of_lt_base hm, List.mem_singleton] at hd
        exact hd ▸ h m hm
      · rw [Nat.toDigits_of_base_le (by decide) (by omega), List.mem_append,
          List.mem_singleton] at hd
        rcases hd with hd | rfl
        · exact ih (m / 16) (by omega) d hd
        · exact h (m % 16) (by omega)
  rw [toList_padded, List.mem_append] at hc
  rcases hc with hc | hc
  · rw [List.eq_of_mem_replicate hc]
    exact h 0 (by decide)
  · exact hdigits n c hc

end Hex

end Strata.Text

namespace Strata.ObjectId

open Text

theorem ofHex?_eq (s : String) :
    ofHex? s = if s.length = 24 then (Hex.valueOf? s.toList).map ofNat else none := by
  rw [ofHex?, Hex.valueOf?, Option.map_map]
  rfl

theorem toNat_lt (id : ObjectId) : id.toNat < 16 ^ 24 := id.bits.isLt

theorem ofNat_toNat (id : ObjectId) : ofNat id.toNat = id := by
  simp [ofNat, toNat]

theorem length_toHex (id : ObjectId) : id.toHex.toList.length = 24 :=
  Hex.length_padded (by decide) id.toNat_lt

/-- Identifiers are read back from their digits. -/
theorem ofHex?_toHex (id : ObjectId) : ofHex? id.toHex = some id := by
  have hlength : id.toHex.length = 24 := by rw [← String.length_toList, id.length_toHex]
  rw [ofHex?_eq, if_pos hlength, toHex, Hex.valueOf?_padded, Option.map_some, ofNat_toNat]

end Strata.ObjectId
