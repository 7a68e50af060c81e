import Strata.Proofs.JsonText

/-!
# Values in JSON texts

A value whose numbers are whole is read back from its text: the tree of the text has the parts of
the value, in the order in which they were written.
-/

namespace Strata.Text.Numeral

/-! ## Numerals -/

theorem ofDigits_toDigits (n : Nat) : ofDigits (Nat.toDigits 10 n) = n :=
  Nat.ofDigitChars_toDigits (by decide) (by decide)

theorem isDigit_of_mem_toDigits {n : Nat} {c : Char} (h : c ∈ Nat.toDigits 10 n) :
    isDigit c = true := by
  have hdigit := Nat.isDigit_of_mem_toDigits (by decide) (by decide) h
  rw [Char.isDigit, Bool.and_eq_true, decide_eq_true_eq, decide_eq_true_eq, ge_iff_le,
    UInt32.le_iff_toNat_le, UInt32.le_iff_toNat_le] at hdigit
  rw [isDigit, Bool.and_eq_true, decide_eq_true_eq, decide_eq_true_eq]
  exact hdigit

/-- Only the numeral of zero starts with a zero. -/
theorem eq_zero_of_toDigits_eq_cons {n : Nat} {ds : List Char} (h : Nat.toDigits 10 n = '0' :: ds) :
    n = 0 := by
  induction n using Nat.strongRecOn generalizing ds with
  | ind n ih =>
    by_cases hn : n < 10
    · rw [Nat.toDigits_of_lt_base hn] at h
      have hchar : ∀ m < 10, Nat.digitChar m = '0' → m = 0 := by decide
      exact hchar n hn (List.cons.inj h).1
    · rw [Nat.toDigits_of_base_le (by decide) (by omega)] at h
      cases hdigits : Nat.toDigits 10 (n / 10) with
      | nil => exact absurd hdigits Nat.toDigits_ne_nil
      | cons d rest =>
        rw [hdigits, List.cons_append] at h
        obtain ⟨rfl, -⟩ := List.cons.inj h
        have := ih (n / 10) (by omega) hdigits
        omega

end Strata.Text.Numeral

namespace Strata.Json

open Text

/-! ## Numbers -/

/-- What can follow a value: nothing, or what separates or closes. -/
def Follows (rest : List Glyph) : Prop :=
  ∀ g, rest.head? = some g → g = some ',' ∨ g = some ']' ∨ g = some '\x7d'

variable {rest : List Glyph}

theorem digits_append {ds : List Char} (hds : ∀ c ∈ ds, Numeral.isDigit c = true)
    (hrest : Follows rest) : digits (ds.map some ++ rest) = (ds, rest) := by
  have hall : ∀ g ∈ ds.map some, isDigitGlyph g = true := by
    intro g hg
    obtain ⟨c, hc, rfl⟩ := List.mem_map.mp hg
    exact hds c hc
  have hnone : rest.takeWhile isDigitGlyph = [] ∧ rest.dropWhile isDigitGlyph = rest := by
    cases rest with
    | nil => exact ⟨rfl, rfl⟩
    | cons g tail =>
      have hg : isDigitGlyph g = false := by
        rcases hrest g rfl with rfl | rfl | rfl <;> rfl
      simp [hg]
  rw [digits, List.takeWhile_append_of_pos hall, List.dropWhile_append_of_pos hall, hnone.1,
    hnone.2]
  simp

theorem fraction?_of_follows (hrest : Follows rest) : fraction? rest = some (none, rest) := by
  unfold fraction?
  split
  next tail => simpa using hrest _ rfl
  next => rfl

theorem exponent?_of_follows (hrest : Follows rest) : exponent? rest = some (none, rest) := by
  unfold exponent?
  split
  next c tail =>
    have hc : ¬ (c = 'e' ∨ c = 'E') := by
      rintro (rfl | rfl) <;> simpa using hrest _ rfl
    rw [if_neg hc]
  next => rfl

theorem unsigned?_toDigits (negative : Bool) (n : Nat) (hrest : Follows rest) :
    unsigned? negative ((Nat.toDigits 10 n).map some ++ rest)
      = some (.number ⟨negative, Nat.toDigits 10 n, [], 0⟩ true, rest) := by
  have hdigits := digits_append (fun c => Numeral.isDigit_of_mem_toDigits (n := n)) hrest
  have hwhole : wholeDigits? ((Nat.toDigits 10 n).map some ++ rest)
      = some (Nat.toDigits 10 n, rest) := by
    rw [wholeDigits?, hdigits]
    split
    next heq => exact absurd (Prod.mk.inj heq).1 Nat.toDigits_ne_nil
    next heq =>
      have hzero := (Prod.mk.inj heq).1
      rw [Numeral.eq_zero_of_toDigits_eq_cons hzero] at hzero
      simp at hzero
    next heq =>
      obtain ⟨rfl, rfl⟩ := Prod.mk.inj heq
      rfl
  simp [unsigned?, hwhole, fraction?_of_follows hrest, exponent?_of_follows hrest]

theorem isDigit_ne {c : Char} (h : Numeral.isDigit c = true) {d : Char}
    (hd : Numeral.isDigit d = false) : c ≠ d := by
  rintro rfl
  rw [h] at hd
  cases hd

theorem number?_toDigits (n : Nat) (hrest : Follows rest) :
    number? ((Nat.toDigits 10 n).map some ++ rest)
      = some (.number ⟨false, Nat.toDigits 10 n, [], 0⟩ true, rest) := by
  rw [← unsigned?_toDigits false n hrest]
  unfold number?
  split
  next heq =>
    cases hdigits : Nat.toDigits 10 n with
    | nil => exact absurd hdigits Nat.toDigits_ne_nil
    | cons d ds =>
      rw [hdigits, List.map_cons, List.cons_append] at heq
      have hd := Numeral.isDigit_of_mem_toDigits (hdigits ▸ List.mem_cons_self)
      exact absurd (Option.some.inj (List.cons.inj heq).1) (isDigit_ne hd rfl)
  next => rfl

/-- A text that starts with a digit or a minus sign is read as a number. -/
theorem tree?_of_isDigit {c : Char} (hc : Numeral.isDigit c = true ∨ c = '-') (n : Nat)
    (gs : List Glyph) : tree? (n + 1) (some c :: gs) = number? (some c :: gs) := by
  have hne : ∀ d : Char, Numeral.isDigit d = false → d ≠ '-' → c ≠ d := by
    rintro d hd hminus rfl
    rcases hc with hc | rfl
    · exact isDigit_ne hc hd rfl
    · exact hminus rfl
  have hgap : isGap (some c) = false := by
    simp [isGap, hne ' ' rfl (by decide), hne '\n' rfl (by decide), hne '\t' rfl (by decide),
      hne '\r' rfl (by decide)]
  rw [tree?, skipGap_cons hgap]
  split
  next heq => exact absurd (Option.some.inj (List.cons.inj heq).1) (hne '\x7b' rfl (by decide))
  next heq => exact absurd (Option.some.inj (List.cons.inj heq).1) (hne '[' rfl (by decide))
  next heq => exact absurd (Option.some.inj (List.cons.inj heq).1) (hne '"' rfl (by decide))
  next heq => exact absurd (Option.some.inj (List.cons.inj heq).1) (hne 't' rfl (by decide))
  next heq => exact absurd (Option.some.inj (List.cons.inj heq).1) (hne 'f' rfl (by decide))
  next heq => exact absurd (Option.some.inj (List.cons.inj heq).1) (hne 'n' rfl (by decide))
  next => rfl

/-- The characters of a whole number: its digits behind a minus sign or none. -/
theorem toList_toString_int (n : Int) :
    (toString n).toList
      = (if n < 0 then ['-'] else []) ++ Nat.toDigits 10 n.natAbs := by
  cases n with
  | ofNat m =>
    rw [if_neg (by simp), Int.toString_eq_repr]
    exact String.toList_ofList
  | negSucc m =>
    rw [if_pos (Int.negSucc_lt_zero m), Int.toString_eq_repr]
    have hdigits : (Nat.repr (m + 1)).toList = Nat.toDigits 10 (m + 1) := String.toList_ofList
    show ("-" ++ Nat.repr (m + 1)).toList = _
    rw [String.toList_append, hdigits]
    rfl

theorem tree?_toString_int {n : Nat} (k : Int) (hrest : Follows rest) :
    tree? (n + 1) (Utf8.glyphsOf (toString k) ++ rest)
      = some (.number ⟨decide (k < 0), Nat.toDigits 10 k.natAbs, [], 0⟩ true, rest) := by
  rw [Utf8.glyphsOf, toList_toString_int]
  by_cases hk : k < 0
  · rw [if_pos hk, decide_eq_true hk, List.singleton_append, List.map_cons, List.cons_append,
      tree?_of_isDigit (.inr rfl)]
    exact unsigned?_toDigits true _ hrest
  · rw [if_neg hk, decide_eq_false hk, List.nil_append, ← number?_toDigits _ hrest]
    cases hdigits : Nat.toDigits 10 k.natAbs with
    | nil => exact absurd hdigits Nat.toDigits_ne_nil
    | cons d ds =>
      have hd := Numeral.isDigit_of_mem_toDigits (hdigits ▸ List.mem_cons_self)
      exact tree?_of_isDigit (.inl hd) n _

/-! ## Trees of values -/

mutual

/-- The tree of the text of a value. Numbers that are not whole have none here. -/
def tree : Json → Tree
  | null | real _ => .null
  | bool b => .bool b
  | int n => .number ⟨decide (n < 0), Nat.toDigits 10 n.natAbs, [], 0⟩ true
  | str s => .string (some s)
  | arr items => .array (itemTrees items)
  | obj members => .object (memberTrees members)

def itemTrees : List Json → List Tree
  | [] => []
  | v :: rest => tree v :: itemTrees rest

def memberTrees : List (String × Json) → List (Option String × Tree)
  | [] => []
  | (k, v) :: rest => (some k, tree v) :: memberTrees rest

end

/-- All numbers of a value are whole. -/
inductive Whole : Json → Prop
  | null : Whole null
  | bool (b : Bool) : Whole (bool b)
  | int (n : Int) : Whole (int n)
  | str (s : String) : Whole (str s)
  | arr {items : List Json} (h : ∀ v ∈ items, Whole v) : Whole (arr items)
  | obj {members : List (String × Json)} (h : ∀ m ∈ members, Whole m.2) : Whole (obj members)

/-- A value is read from its text, whatever follows. -/
def IsRead (v : Json) : Prop :=
  ∀ n rest, Follows rest → (Utf8.glyphsOf (compact v)).length < n →
    tree? n (Utf8.glyphsOf (compact v) ++ rest) = some (v.tree, rest)

theorem glyphsOf_compactItems_cons (v w : Json) (tail : List Json) :
    Utf8.glyphsOf (compactItems (v :: w :: tail)) =
      Utf8.glyphsOf (compact v) ++ some ',' :: Utf8.glyphsOf (compactItems (w :: tail)) := by
  rw [compactItems]
  · simp [Utf8.glyphsOf]
  · simp

theorem glyphsOf_compactMembers_singleton (k : String) (v : Json) :
    Utf8.glyphsOf (compactMembers [(k, v)]) =
      (quoteChars k).map some ++ some ':' :: Utf8.glyphsOf (compact v) := by
  rw [compactMembers]
  simp [Utf8.glyphsOf, quote]

theorem glyphsOf_compactMembers_cons (k : String) (v : Json) (m : String × Json)
    (tail : List (String × Json)) :
    Utf8.glyphsOf (compactMembers ((k, v) :: m :: tail)) =
      (quoteChars k).map some ++ some ':' :: (Utf8.glyphsOf (compact v) ++
        some ',' :: Utf8.glyphsOf (compactMembers (m :: tail))) := by
  rw [compactMembers]
  · simp [Utf8.glyphsOf, quote]
  · simp

/-- A value starts with a character that is no gap and closes nothing. -/
theorem exists_cons_compact {v : Json} (hv : Whole v) :
    ∃ c cs, Utf8.glyphsOf (compact v) = some c :: cs ∧ isGap (some c) = false ∧ c ≠ ']' := by
  have hcons : ∀ (c : Char) (cs : List Char), (compact v).toList = c :: cs →
      isGap (some c) = false → c ≠ ']' → ∃ c cs, Utf8.glyphsOf (compact v) = some c :: cs ∧
        isGap (some c) = false ∧ c ≠ ']' := by
    intro c cs hchars hgap hclose
    exact ⟨c, cs.map some, by rw [Utf8.glyphsOf, hchars, List.map_cons], hgap, hclose⟩
  cases hv with
  | null => exact hcons 'n' ['u', 'l', 'l'] rfl rfl (by decide)
  | bool b =>
    cases b
    · exact hcons 'f' ['a', 'l', 's', 'e'] rfl rfl (by decide)
    · exact hcons 't' ['r', 'u', 'e'] rfl rfl (by decide)
  | int n =>
    have hchars : (compact (int n)).toList = _ := toList_toString_int n
    by_cases hn : n < 0
    · rw [if_pos hn] at hchars
      exact hcons '-' _ hchars rfl (by decide)
    · rw [if_neg hn, List.nil_append] at hchars
      cases hdigits : Nat.toDigits 10 n.natAbs with
      | nil => exact absurd hdigits Nat.toDigits_ne_nil
      | cons d ds =>
        rw [hdigits] at hchars
        have hd := Numeral.isDigit_of_mem_toDigits (hdigits ▸ List.mem_cons_self)
        have hne : ∀ e, Numeral.isDigit e = false → d ≠ e := fun e => isDigit_ne hd
        exact hcons d ds hchars
          (by simp [isGap, hne ' ' rfl, hne '\n' rfl, hne '\t' rfl, hne '\r' rfl]) (hne ']' rfl)
  | str s =>
    have hchars : (compact (str s)).toList = '"' :: (s.toList.flatMap escapeChar ++ ['"']) := by
      simp [compact, scalarText, quote, quoteChars]
    exact hcons _ _ hchars rfl (by decide)
  | @arr items h =>
    have hchars : (compact (arr items)).toList = '[' :: ((compactItems items).toList ++ [']']) := by
      simp [compact]
    exact hcons _ _ hchars rfl (by decide)
  | @obj members h =>
    have hchars : (compact (obj members)).toList =
        '\x7b' :: ((compactMembers members).toList ++ ['\x7d']) := by
      simp [compact]
    exact hcons _ _ hchars rfl (by decide)

theorem follows_separator (rest : List Glyph) : Follows (some ',' :: rest) := by
  simp [Follows]

theorem follows_bracket (rest : List Glyph) : Follows (some ']' :: rest) := by
  simp [Follows]

theorem follows_brace (rest : List Glyph) : Follows (some '\x7d' :: rest) := by
  simp [Follows]

theorem items?_compactItems {v : Json} {tail : List Json} (h : ∀ w ∈ v :: tail, IsRead w)
    (acc : List Tree) {n : Nat}
    (hn : (Utf8.glyphsOf (compactItems (v :: tail))).length + 1 < n) (rest : List Glyph) :
    items? n acc (Utf8.glyphsOf (compactItems (v :: tail)) ++ some ']' :: rest)
      = some (.array (acc.reverse ++ itemTrees (v :: tail)), rest) := by
  induction tail generalizing v acc n with
  | nil =>
    obtain ⟨m, rfl⟩ : ∃ m, n = m + 1 := ⟨n - 1, by omega⟩
    have hone : compactItems [v] = compact v := by rw [compactItems]
    rw [hone] at hn ⊢
    have hread := h v List.mem_cons_self m _ (follows_bracket rest) (by omega)
    have hgap : skipGap (some ']' :: rest) = some ']' :: rest := skipGap_cons rfl _
    simp only [items?, hread, hgap]
    simp [itemTrees]
  | cons w tail ih =>
    obtain ⟨m, rfl⟩ : ∃ m, n = m + 1 := ⟨n - 1, by omega⟩
    obtain ⟨hv, htail⟩ := List.forall_mem_cons.mp h
    rw [glyphsOf_compactItems_cons] at hn ⊢
    simp only [List.length_append, List.length_cons] at hn
    rw [List.append_assoc, List.cons_append]
    generalize hmore : Utf8.glyphsOf (compactItems (w :: tail)) ++ some ']' :: rest = more
    have hread := hv m _ (follows_separator more) (by omega)
    have hgap : skipGap (some ',' :: more) = some ',' :: more := skipGap_cons rfl _
    have hstep := ih htail (v.tree :: acc) (n := m) (by omega)
    rw [hmore] at hstep
    simp only [items?, hread, hgap, hstep]
    simp [itemTrees]

/-- A member is read, with what follows it. -/
theorem members?_quoteChars_append {n : Nat} (acc : List (Option String × Tree)) (key : String)
    (hn : key.toList.length < n) {value : Tree} {text more : List Glyph}
    (hvalue : tree? n text = some (value, some ',' :: more)) :
    members? (n + 1) acc ((quoteChars key).map some ++ some ':' :: text)
      = members? n ((some key, value) :: acc) more := by
  have hcolon : skipGap (some ':' :: text) = some ':' :: text := skipGap_cons rfl _
  have hcomma : skipGap (some ',' :: more) = some ',' :: more := skipGap_cons rfl _
  rw [quoteChars, List.map_cons, List.cons_append, members?, skipGap_cons rfl]
  simp only [stringRest?_quoteChars key hn, hcolon, hvalue, hcomma]

theorem members?_compactMembers {m : String × Json} {tail : List (String × Json)}
    (h : ∀ k ∈ m :: tail, IsRead k.2) (acc : List (Option String × Tree)) {n : Nat}
    (hn : (Utf8.glyphsOf (compactMembers (m :: tail))).length + 1 < n) (rest : List Glyph) :
    members? n acc (Utf8.glyphsOf (compactMembers (m :: tail)) ++ some '\x7d' :: rest)
      = some (.object (acc.reverse ++ memberTrees (m :: tail)), rest) := by
  induction tail generalizing m acc n with
  | nil =>
    obtain ⟨k, v⟩ := m
    obtain ⟨n, rfl⟩ : ∃ l, n = l + 1 := ⟨n - 1, by omega⟩
    have hkey := length_le_length_quoteChars k
    rw [glyphsOf_compactMembers_singleton] at hn ⊢
    simp only [List.length_append, List.length_cons, List.length_map] at hn
    rw [List.append_assoc, List.cons_append]
    have hv : IsRead v := h (k, v) List.mem_cons_self
    have hread : tree? (n + 1 - 1) (Utf8.glyphsOf (compact v) ++ some '\x7d' :: rest)
        = some (v.tree, some '\x7d' :: rest) := hv n _ (follows_brace rest) (by omega)
    rw [members?_quoteChars acc k (by omega) hread]
    simp [memberTrees]
  | cons m' tail ih =>
    obtain ⟨k, v⟩ := m
    obtain ⟨n, rfl⟩ : ∃ l, n = l + 1 := ⟨n - 1, by omega⟩
    obtain ⟨hv, htail⟩ := List.forall_mem_cons.mp h
    have hv : IsRead v := hv
    have hkey := length_le_length_quoteChars k
    rw [glyphsOf_compactMembers_cons] at hn ⊢
    simp only [List.length_append, List.length_cons, List.length_map] at hn
    rw [List.append_assoc, List.cons_append, List.append_assoc, List.cons_append]
    generalize hmore : Utf8.glyphsOf (compactMembers (m' :: tail)) ++ some '\x7d' :: rest = more
    have hread := hv n _ (follows_separator more) (by omega)
    have hstep := ih htail ((some k, v.tree) :: acc) (n := n) (by omega)
    rw [hmore] at hstep
    rw [members?_quoteChars_append acc k (by omega) hread, hstep]
    simp [memberTrees]

theorem isRead_arr {items : List Json} (hitems : ∀ v ∈ items, Whole v)
    (h : ∀ v ∈ items, IsRead v) : IsRead (arr items) := by
  intro n rest _ hn
  obtain ⟨n, rfl⟩ : ∃ m, n = m + 1 := ⟨n - 1, by omega⟩
  have hchars : Utf8.glyphsOf (compact (arr items)) =
      some '[' :: (Utf8.glyphsOf (compactItems items) ++ [some ']']) := by
    simp [Utf8.glyphsOf, compact]
  rw [hchars] at hn ⊢
  simp only [List.length_cons, List.length_append, List.length_nil] at hn
  rw [List.cons_append, List.append_assoc, List.singleton_append, tree?, skipGap_cons rfl]
  cases items with
  | nil =>
    have hclose : skipGap (Utf8.glyphsOf (compactItems []) ++ some ']' :: rest) =
        some ']' :: rest := by
      rw [compactItems]
      exact skipGap_cons rfl _
    simp only [hclose]
    rfl
  | cons v tail =>
    obtain ⟨c, cs, hcons, hgap, hclose⟩ :
        ∃ c cs, Utf8.glyphsOf (compactItems (v :: tail)) = some c :: cs ∧
          isGap (some c) = false ∧ c ≠ ']' := by
      obtain ⟨c, cs, hcons, hgap, hclose⟩ := exists_cons_compact (hitems v List.mem_cons_self)
      cases tail with
      | nil => exact ⟨c, cs, by rw [compactItems, hcons], hgap, hclose⟩
      | cons w tail =>
        exact ⟨c, _, by rw [glyphsOf_compactItems_cons, hcons, List.cons_append], hgap, hclose⟩
    have hread := items?_compactItems h [] (n := n) (by omega) rest
    rw [hcons, List.cons_append] at hread ⊢
    simp only [skipGap_cons hgap]
    split
    next heq => exact absurd (Option.some.inj (List.cons.inj heq).1) hclose
    next => exact hread

theorem isRead_obj {members : List (String × Json)} (h : ∀ m ∈ members, IsRead m.2) :
    IsRead (obj members) := by
  intro n rest _ hn
  obtain ⟨n, rfl⟩ : ∃ m, n = m + 1 := ⟨n - 1, by omega⟩
  have hchars : Utf8.glyphsOf (compact (obj members)) =
      some '\x7b' :: (Utf8.glyphsOf (compactMembers members) ++ [some '\x7d']) := by
    simp [Utf8.glyphsOf, compact]
  rw [hchars] at hn ⊢
  simp only [List.length_cons, List.length_append, List.length_nil] at hn
  rw [List.cons_append, List.append_assoc, List.singleton_append, tree?, skipGap_cons rfl]
  cases members with
  | nil =>
    have hclose : skipGap (Utf8.glyphsOf (compactMembers []) ++ some '\x7d' :: rest) =
        some '\x7d' :: rest := by
      rw [compactMembers]
      exact skipGap_cons rfl _
    simp only [hclose]
    rfl
  | cons m tail =>
    obtain ⟨gs, hcons⟩ : ∃ gs, Utf8.glyphsOf (compactMembers (m :: tail)) = some '"' :: gs := by
      obtain ⟨k, v⟩ := m
      cases tail with
      | nil => exact ⟨_, by rw [glyphsOf_compactMembers_singleton, quoteChars]; rfl⟩
      | cons m' tail => exact ⟨_, by rw [glyphsOf_compactMembers_cons, quoteChars]; rfl⟩
    have hread := members?_compactMembers h [] (n := n) (by omega) rest
    rw [hcons, List.cons_append] at hread ⊢
    have hgap : ∀ gs : List Glyph, skipGap (some '"' :: gs) = some '"' :: gs := skipGap_cons rfl
    simp only [hgap]
    exact hread

/-- Values are read from their texts. -/
theorem Whole.isRead {v : Json} (hv : Whole v) : IsRead v := by
  induction hv with
  | null =>
    intro n rest _ hn
    obtain ⟨n, rfl⟩ : ∃ m, n = m + 1 := ⟨n - 1, by omega⟩
    rfl
  | bool b =>
    intro n rest _ hn
    obtain ⟨n, rfl⟩ : ∃ m, n = m + 1 := ⟨n - 1, by omega⟩
    cases b <;> rfl
  | int k =>
    intro n rest hrest hn
    obtain ⟨n, rfl⟩ : ∃ m, n = m + 1 := ⟨n - 1, by omega⟩
    exact tree?_toString_int k hrest
  | str s =>
    intro n rest _ hn
    have hquoted : Utf8.glyphsOf (compact (.str s)) = (quoteChars s).map some := by
      simp [Utf8.glyphsOf, compact, scalarText, quote]
    have hlength := length_le_length_quoteChars s
    rw [hquoted, List.length_map] at hn
    rw [hquoted, tree?_quoteChars s (by omega)]
    rfl
  | arr hitems ih => exact isRead_arr hitems ih
  | obj _ ih => exact isRead_obj ih

/-- **Values are read back.** The text of a value whose numbers are whole is read as its tree. -/
theorem read?_compact {v : Json} (hv : Whole v) :
    Tree.read? (Utf8.glyphsOf (compact v)) = some v.tree := by
  have hread := hv.isRead (2 * (Utf8.glyphsOf (compact v)).length + 2) [] nofun (by omega)
  rw [List.append_nil] at hread
  rw [Tree.read?, hread]
  rfl

end Strata.Json
