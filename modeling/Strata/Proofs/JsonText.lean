import Strata.Json.Printer
import Strata.Json.Tree
import Strata.Proofs.Codecs

/-!
# Strings in JSON texts

A string in quotes is read back as it was, whatever characters it holds and whatever comes behind it.
-/

namespace Strata.Json

open Text

/-- A digit below sixteen is read back in a number of four digits. -/
theorem hex4?_of_lt {hi lo : Nat} (hhi : hi < 16) (hlo : lo < 16) (rest : List Glyph) :
    hex4? (some '0' :: some '0' :: some (Hex.digit hi) :: some (Hex.digit lo) :: rest)
      = some (16 * hi + lo, rest) := by
  have hzero : Hex.digitValue? '0' = some 0 := rfl
  simp only [hex4?, hzero, Hex.digitValue?_digit hi hhi, Hex.digitValue?_digit lo hlo,
    Option.bind_eq_bind, Option.bind_some]
  congr 2
  omega

theorem escape?_control {c : Char} (hc : c.toNat < 0x20) (rest : List Glyph) :
    escape? (some 'u' :: some '0' :: some '0' :: some (Hex.digit (c.toNat / 16)) ::
      some (Hex.digit (c.toNat % 16)) :: rest) = some (some c, rest) := by
  have hvalue : 16 * (c.toNat / 16) + c.toNat % 16 = c.toNat := by omega
  simp only [escape?, hex4?_of_lt (show c.toNat / 16 < 16 by omega) (Nat.mod_lt _ (by decide)), hvalue]
  rw [if_neg (by omega), if_neg (by omega), Char.ofNat_toNat]

/-- A character is written with a backslash and a letter, by its number, or as it is. -/
theorem escapeChar_cases (c : Char) :
    (∃ e, escapeChar c = ['\\', e] ∧ ∀ rest, escape? (some e :: rest) = some (some c, rest)) ∨
    (c.toNat < 0x20 ∧ escapeChar c =
      ['\\', 'u', '0', '0', Hex.digit (c.toNat / 16), Hex.digit (c.toNat % 16)]) ∨
    (c ≠ '"' ∧ c ≠ '\\' ∧ ¬ c.toNat < 0x20 ∧ escapeChar c = [c]) := by
  rw [escapeChar]
  by_cases hquote : c = '"'
  · exact .inl ⟨'"', if_pos hquote, fun _ => by rw [hquote]; rfl⟩
  · by_cases hslash : c = '\\'
    · exact .inl ⟨'\\', by rw [if_neg hquote, if_pos hslash], fun _ => by rw [hslash]; rfl⟩
    · rw [if_neg hquote, if_neg hslash]
      split
      next h => exact .inl ⟨'b', rfl, fun _ => by rw [h]; rfl⟩
      split
      next h => exact .inl ⟨'f', rfl, fun _ => by rw [h]; rfl⟩
      split
      next h => exact .inl ⟨'n', rfl, fun _ => by rw [h]; rfl⟩
      split
      next h => exact .inl ⟨'r', rfl, fun _ => by rw [h]; rfl⟩
      split
      next h => exact .inl ⟨'t', rfl, fun _ => by rw [h]; rfl⟩
      split
      next h => exact .inr (.inl ⟨h, rfl⟩)
      next h => exact .inr (.inr ⟨hquote, hslash, h, rfl⟩)

/-- What stands for a character is read as that character. -/
theorem stringRest?_escapeChar (n : Nat) (acc : List Char) (text : Bool) (c : Char)
    (rest : List Glyph) :
    stringRest? (n + 1) acc text ((escapeChar c).map some ++ rest)
      = stringRest? n (c :: acc) text rest := by
  have hescape : ∀ e tail, escape? (some e :: tail) = some (some c, rest) →
      stringRest? (n + 1) acc text (some '\\' :: some e :: tail)
        = stringRest? n (c :: acc) text rest := by
    intro e tail he
    simp [stringRest?, he]
  rcases escapeChar_cases c with ⟨e, he, hread⟩ | ⟨hc, he⟩ | ⟨hquote, hslash, hc, he⟩
  · rw [he]
    exact hescape e rest (hread rest)
  · rw [he]
    exact hescape 'u' _ (escape?_control hc rest)
  · rw [he, List.map_cons, List.map_nil, List.singleton_append, stringRest?, if_neg hquote,
      if_neg hslash, if_neg hc]

/-- **Strings are read back.** Behind its opening quote a string is read as it was; one step more
than it has characters is enough. -/
theorem stringRest?_quoteChars {n : Nat} (s : String) (hn : s.toList.length < n)
    (rest : List Glyph) :
    stringRest? n [] true ((s.toList.flatMap escapeChar ++ ['"']).map some ++ rest)
      = some (some s, rest) := by
  suffices h : ∀ (cs acc : List Char) (n : Nat), cs.length < n →
      stringRest? n acc true ((cs.flatMap escapeChar ++ ['"']).map some ++ rest)
        = some (some (String.ofList (acc.reverse ++ cs)), rest) by
    rw [h s.toList [] n hn, List.reverse_nil, List.nil_append, String.ofList_toList]
  intro cs
  induction cs with
  | nil =>
    intro acc n hn
    obtain ⟨m, rfl⟩ : ∃ m, n = m + 1 := ⟨n - 1, by simp at hn; omega⟩
    simp [stringRest?]
  | cons c tail ih =>
    intro acc n hn
    obtain ⟨m, rfl⟩ : ∃ m, n = m + 1 := ⟨n - 1, by simp at hn; omega⟩
    have hsplit : ((c :: tail).flatMap escapeChar ++ ['"']).map some ++ rest
        = (escapeChar c).map some ++ ((tail.flatMap escapeChar ++ ['"']).map some ++ rest) := by
      simp
    rw [hsplit, stringRest?_escapeChar, ih (c :: acc) m (by simpa using hn)]
    simp

theorem skipGap_cons {g : Glyph} (h : isGap g = false) (rest : List Glyph) :
    skipGap (g :: rest) = g :: rest := by
  rw [skipGap, List.dropWhile_cons, h]
  rfl

theorem length_le_length_quoteChars (s : String) :
    s.toList.length + 2 ≤ (quoteChars s).length := by
  have hone : ∀ c, 1 ≤ (escapeChar c).length := by
    intro c
    rcases escapeChar_cases c with ⟨e, he, -⟩ | ⟨-, he⟩ | ⟨-, -, -, he⟩ <;> simp [he]
  suffices h : ∀ cs : List Char, cs.length ≤ (cs.flatMap escapeChar).length by
    have := h s.toList
    simp only [quoteChars, List.length_cons, List.length_append, List.length_nil]
    omega
  intro cs
  induction cs with
  | nil => simp
  | cons c tail ih =>
    have := hone c
    simp only [List.flatMap_cons, List.length_cons, List.length_append]
    omega

/-- A string in quotes is read as a value. -/
theorem tree?_quoteChars {n : Nat} (s : String) (hn : s.toList.length + 1 < n) (rest : List Glyph) :
    tree? n ((quoteChars s).map some ++ rest) = some (.string (some s), rest) := by
  obtain ⟨m, rfl⟩ : ∃ m, n = m + 1 := ⟨n - 1, by omega⟩
  rw [quoteChars, List.map_cons, List.cons_append, tree?, skipGap_cons rfl]
  simp only [stringRest?_quoteChars s (show s.toList.length < m by omega), Option.map_some]

/-- A last member whose key is a string in quotes is read as such. -/
theorem members?_quoteChars {n : Nat} (acc : List (Option String × Tree)) (key : String)
    (hn : key.toList.length + 1 < n) {value : Tree} {text rest : List Glyph}
    (hvalue : tree? (n - 1) text = some (value, some '\x7d' :: rest)) :
    members? n acc ((quoteChars key).map some ++ some ':' :: text)
      = some (.object ((some key, value) :: acc).reverse, rest) := by
  obtain ⟨m, rfl⟩ : ∃ m, n = m + 1 := ⟨n - 1, by omega⟩
  rw [Nat.add_sub_cancel] at hvalue
  have hcolon : skipGap (some ':' :: text) = some ':' :: text := skipGap_cons rfl _
  have hbrace : skipGap (some '\x7d' :: rest) = some '\x7d' :: rest := skipGap_cons rfl _
  rw [quoteChars, List.map_cons, List.cons_append, members?, skipGap_cons rfl]
  simp only [stringRest?_quoteChars key (show key.toList.length < m by omega), hcolon, hvalue,
    hbrace]

end Strata.Json
