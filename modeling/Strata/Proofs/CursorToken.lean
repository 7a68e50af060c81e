import Mathlib.Data.List.DropRight
import Strata.Proofs.JsonText
import Strata.Query.Cursor

/-!
# Tokens of cursors

The token of an identifier is read back as that identifier, unless it is blank or the token too long;
for identifiers of records neither is the case. A token has no blanks, and blanks around it are not
read.
-/

namespace Strata.Text

/-! ## Trimming -/

/-- Nothing is left of a text of blanks only. -/
theorem trimChars_eq_nil_iff {cs : List Char} : trimChars cs = [] ↔ ∀ c ∈ cs, isBlank c = true := by
  have hlast : trimChars cs = (cs.dropWhile isBlank).rdropWhile isBlank := rfl
  rw [hlast, List.rdropWhile_eq_nil_iff, ← List.dropWhile_eq_nil_iff, List.dropWhile_idempotent,
    List.dropWhile_eq_nil_iff]

theorem trim_eq_empty_iff (s : String) : trim s = "" ↔ isBlankText s = true := by
  rw [trim, String.ofList_eq_empty_iff, trimChars_eq_nil_iff, isBlankText, List.all_eq_true]

/-- Blanks at both ends do not matter. -/
theorem trimChars_append {before after : List Char} (hbefore : ∀ c ∈ before, isBlank c = true)
    (hafter : ∀ c ∈ after, isBlank c = true) (cs : List Char) :
    trimChars (before ++ (cs ++ after)) = trimChars cs := by
  rw [trimChars, trimChars, List.dropWhile_append_of_pos hbefore, List.dropWhile_append]
  cases hcs : cs.dropWhile isBlank with
  | nil => rw [List.isEmpty_nil, if_pos rfl, List.dropWhile_eq_nil_iff.mpr hafter]
  | cons c rest =>
    have hreverse : ∀ c ∈ after.reverse, isBlank c = true :=
      fun c hc => hafter c (List.mem_reverse.mp hc)
    rw [List.isEmpty_cons, if_neg Bool.false_ne_true, List.reverse_append,
      List.dropWhile_append_of_pos hreverse]

theorem trim_append {before after : String} (hbefore : isBlankText before = true)
    (hafter : isBlankText after = true) (s : String) : trim (before ++ s ++ after) = trim s := by
  rw [isBlankText, List.all_eq_true] at hbefore hafter
  rw [trim, trim, String.toList_append, String.toList_append, List.append_assoc,
    trimChars_append hbefore hafter]

theorem trim_of_forall_not_blank {s : String} (h : ∀ c ∈ s.toList, isBlank c = false) :
    trim s = s := by
  have hdrop : ∀ cs : List Char, (∀ c ∈ cs, isBlank c = false) → cs.dropWhile isBlank = cs := by
    intro cs hcs
    cases cs with
    | nil => rfl
    | cons c rest => rw [List.dropWhile_cons, hcs c List.mem_cons_self]; rfl
  rw [trim, trimChars, hdrop _ h, hdrop _ fun c hc => h c (List.mem_reverse.mp hc),
    List.reverse_reverse, String.ofList_toList]

end Strata.Text

namespace Strata.Cursor

open Text Json

/-! ## Payloads -/

/-- The characters of a payload. -/
theorem toList_compact_id (id : String) :
    (compact (Json.object [("id", .str id)])).toList
      = '\x7b' :: (quoteChars "id" ++ ':' :: (quoteChars id ++ ['\x7d'])) := by
  have hobject : Json.object [("id", .str id)] = .obj [("id", .str id)] := rfl
  simp [hobject, compact, compactMembers, scalarText, quote]

/-- The tree of a payload. -/
theorem read?_payload (id : String) :
    Tree.read? (Utf8.glyphs (payload id)) = some (.object [(some "id", .string (some id))]) := by
  rw [payload, Utf8.glyphs_encode, Utf8.glyphsOf, toList_compact_id, Tree.read?]
  generalize hlength : (List.map some _).length = length
  have hid := length_le_length_quoteChars id
  have hkey : "id".toList.length = 2 := rfl
  simp only [List.length_map, List.length_cons, List.length_append, List.length_nil] at hlength
  obtain ⟨m, hm⟩ : ∃ m, 2 * length + 2 = m + 1 := ⟨2 * length + 1, rfl⟩
  have hvalue := tree?_quoteChars id (show id.toList.length + 1 < m - 1 by omega) [some '\x7d']
  have hmember := members?_quoteChars [] "id" (show "id".toList.length + 1 < m by omega)
    hvalue
  have hopen : tree? (m + 1) (some '\x7b' :: ((quoteChars "id").map some ++
      some ':' :: ((quoteChars id).map some ++ [some '\x7d'])))
      = some (.object [(some "id", .string (some id))], []) := by
    rw [tree?, skipGap_cons rfl]
    exact hmember
  simp only [List.map_cons, List.map_append, List.map_nil]
  rw [hm, hopen]
  rfl

/-- The identifier in a payload is read back. -/
theorem readPayload?_payload (id : String) : readPayload? (payload id) = some id := by
  rw [readPayload?, read?_payload]
  rfl

/-! ## Tokens -/

/-- The characters of a token: letters of base 64, with one point between them. -/
theorem toList_encode (id : String) :
    (encode id).toList = Base64.urlSafe.encodeChars (payload id) ++
      '.' :: Base64.urlSafe.encodeChars (check (payload id)) := by
  simp [encode, Base64.Variant.encode]

theorem ne_point_of_mem_encodeChars {bytes : List UInt8} {c : Char}
    (h : c ∈ Base64.urlSafe.encodeChars bytes) : c ≠ '.' :=
  Base64.forall_mem_encodeChars_urlSafe (P := (· ≠ '.')) (by decide) h

/-- What holds for every letter and for the point holds for the characters of a token. -/
theorem forall_mem_encode {P : Char → Prop} (hletter : ∀ n < 64, P (Base64.urlSafe.letter n))
    (hpoint : P '.') {id : String} {c : Char} (h : c ∈ (encode id).toList) : P c := by
  rw [toList_encode, List.mem_append, List.mem_cons] at h
  rcases h with h | rfl | h
  · exact Base64.forall_mem_encodeChars_urlSafe hletter h
  · exact hpoint
  · exact Base64.forall_mem_encodeChars_urlSafe hletter h

/-- No character of a token is blank, and each is one byte. -/
theorem of_mem_encode {id : String} {c : Char} (h : c ∈ (encode id).toList) :
    isBlank c = false ∧ c.utf8Size = 1 :=
  forall_mem_encode (P := fun c => isBlank c = false ∧ c.utf8Size = 1) (by decide) ⟨rfl, rfl⟩ h

theorem isAlphanum_of_mem_encode {id : String} {c : Char} (h : c ∈ (encode id).toList) :
    c.isAlphanum = true ∨ c = '-' ∨ c = '_' ∨ c = '.' :=
  forall_mem_encode (P := fun c => c.isAlphanum = true ∨ c = '-' ∨ c = '_' ∨ c = '.') (by decide)
    (by decide) h

theorem count_point_encode (id : String) : (encode id).toList.count '.' = 1 := by
  have hzero : ∀ bytes, (Base64.urlSafe.encodeChars bytes).count '.' = 0 := fun bytes =>
    List.count_eq_zero.mpr fun h => ne_point_of_mem_encodeChars h rfl
  rw [toList_encode, List.count_append, List.count_cons_self, hzero, hzero]

theorem trim_encode (id : String) : trim (encode id) = encode id :=
  trim_of_forall_not_blank fun _ hc => (of_mem_encode hc).1

theorem isBlankText_encode (id : String) : isBlankText (encode id) = false := by
  have hpoint : '.' ∈ (encode id).toList := by simp [toList_encode]
  rw [isBlankText, List.all_eq_false]
  exact ⟨'.', hpoint, by decide⟩

theorem splitOnce?_append {c : Char} {cs : List Char} (h : ∀ d ∈ cs, d ≠ c) (rest : List Char) :
    splitOnce? c (cs ++ c :: rest) = some (cs, rest) := by
  have hne : ∀ d ∈ cs, (d != c) = true := fun d hd => by simpa using h d hd
  rw [splitOnce?, List.dropWhile_append_of_pos hne, List.takeWhile_append_of_pos hne]
  simp

theorem decodeParts_encode (id : String) :
    decodeParts (Base64.urlSafe.encodeChars (payload id))
        (Base64.urlSafe.encodeChars (check (payload id)))
      = if isBlankText id then .error .emptyId else .ok id := by
  simp only [decodeParts, Base64.decodeChars?_encodeChars Base64.isAlphabet_urlSafe,
    readPayload?_payload, ne_eq, not_true_eq_false, if_false]

/-- **What the token of an identifier is read as.** -/
theorem decode_encode (id : String) :
    decode (encode id) =
      if maxTokenBytes < (encode id).utf8ByteSize then .error .tooLong
      else if isBlankText id then .error .emptyId else .ok id := by
  simp only [decode, trim_encode]
  rw [toList_encode, splitOnce?_append fun d hd => ne_point_of_mem_encodeChars hd]
  simp only [decodeParts_encode]

theorem decode_encode_eq_ok_iff (id : String) :
    decode (encode id) = .ok id ↔ trim id ≠ "" ∧ (encode id).utf8ByteSize ≤ maxTokenBytes := by
  rw [decode_encode, ne_eq, trim_eq_empty_iff]
  by_cases hlong : maxTokenBytes < (encode id).utf8ByteSize
  · rw [if_pos hlong]
    exact iff_of_false nofun fun h => absurd h.2 (Nat.not_le.mpr hlong)
  · rw [if_neg hlong]
    by_cases hblank : isBlankText id = true
    · rw [if_pos hblank]
      exact iff_of_false nofun fun h => absurd hblank h.1
    · rw [if_neg hblank]
      exact iff_of_true rfl ⟨hblank, Nat.not_lt.mp hlong⟩

theorem exists_decode_encode_eq_error {id : String}
    (h : ¬(trim id ≠ "" ∧ (encode id).utf8ByteSize ≤ maxTokenBytes)) :
    ∃ refusal, decode (encode id) = .error refusal := by
  rw [decode_encode]
  by_cases hlong : maxTokenBytes < (encode id).utf8ByteSize
  · exact ⟨_, if_pos hlong⟩
  · rw [if_neg hlong]
    by_cases hblank : isBlankText id = true
    · exact ⟨_, if_pos hblank⟩
    · exact absurd ⟨mt (trim_eq_empty_iff id).mp hblank, Nat.not_lt.mp hlong⟩ h

/-- Blanks around a token are not read. -/
theorem decode_append {before after : String} (hbefore : isBlankText before = true)
    (hafter : isBlankText after = true) (token : String) :
    decode (before ++ token ++ after) = decode token := by
  rw [decode, decode, trim_append hbefore hafter]

/-! ## The length of a token -/

theorem utf8ByteSize_eq_length {s : String} (h : ∀ c ∈ s.toList, c.utf8Size = 1) :
    s.utf8ByteSize = s.toList.length := by
  suffices hall : ∀ cs : List Char, (∀ c ∈ cs, c.utf8Size = 1) →
      (String.ofList cs).utf8ByteSize = cs.length by
    simpa using hall s.toList h
  intro cs hcs
  induction cs with
  | nil => rfl
  | cons c rest ih =>
    rw [List.forall_mem_cons] at hcs
    rw [String.ofList_cons, String.utf8ByteSize_append, String.utf8ByteSize_singleton, hcs.1,
      ih hcs.2, List.length_cons, Nat.add_comm]

/-- The bytes of a token: four for three bytes of the payload, and nine for the point and the check. -/
theorem utf8ByteSize_encode (id : String) :
    (encode id).utf8ByteSize = (4 * (payload id).length + 2) / 3 + 9 := by
  have hcheck : (check (payload id)).length = 6 := by
    rw [check, List.length_take, Digest.Sha256.length_digest]
    rfl
  rw [utf8ByteSize_eq_length fun c hc => (of_mem_encode hc).2, toList_encode, List.length_append,
    List.length_cons, Base64.length_encodeChars_urlSafe, Base64.length_encodeChars_urlSafe, hcheck]

/-! ## Identifiers of records -/

/-- The payload of an identifier of a record: its digits and nine characters around them. -/
theorem length_payload_toHex (id : ObjectId) : (payload id.toHex).length = 33 := by
  have hdigit : ∀ c ∈ id.toHex.toList, escapeChar c = [c] ∧ (String.utf8EncodeChar c).length = 1 :=
    fun c hc => Hex.forall_mem_padded
      (P := fun c => escapeChar c = [c] ∧ (String.utf8EncodeChar c).length = 1) (by decide) hc
  have hescape : id.toHex.toList.flatMap escapeChar = id.toHex.toList := by
    rw [List.flatMap_def, List.map_congr_left fun c hc => (hdigit c hc).1, ← List.flatMap_def]
    exact List.flatMap_singleton' _
  have hbytes : (id.toHex.toList.flatMap String.utf8EncodeChar).length = 24 := by
    rw [List.length_flatMap, List.map_congr_left fun c hc => (hdigit c hc).2, List.map_const',
      List.sum_replicate_nat, id.length_toHex]
  rw [payload, Utf8.encode, toList_compact_id]
  simp only [quoteChars, hescape, List.flatMap_cons, List.flatMap_append, List.length_append, hbytes]
  rfl

theorem utf8ByteSize_encode_toHex (id : ObjectId) :
    (encode id.toHex).utf8ByteSize ≤ maxTokenBytes := by
  rw [utf8ByteSize_encode, length_payload_toHex]
  decide

theorem isBlankText_toHex (id : ObjectId) : isBlankText id.toHex = false := by
  have hdigit : ∀ c ∈ id.toHex.toList, isBlank c = false := fun c hc =>
    Hex.forall_mem_padded (P := (isBlank · = false)) (by decide) hc
  have hlength := id.length_toHex
  rw [isBlankText]
  cases hcs : id.toHex.toList with
  | nil => rw [hcs] at hlength; simp at hlength
  | cons c rest =>
    rw [hcs] at hdigit
    rw [List.all_cons, hdigit c List.mem_cons_self, Bool.false_and]

/-- The token of the identifier of a record is read back. -/
theorem decode_encode_toHex (id : ObjectId) : decode (encode id.toHex) = .ok id.toHex := by
  rw [decode_encode, if_neg (Nat.not_lt.mpr (utf8ByteSize_encode_toHex id)), isBlankText_toHex]
  rfl

/-- The token of the identifier of a record continues behind that record. -/
theorem continuation_encode_toHex (direction : Direction) (id : ObjectId) :
    continuation direction (encode id.toHex) = .ok (beyond direction id) := by
  rw [continuation, decode_encode_toHex]
  simp only [id.ofHex?_toHex]

/-! ## Identifiers and tokens -/

/-- **Cursors.** The token of an identifier is read back as exactly this identifier if it is not blank
and the token not too long, and else it is refused. A token has letters, digits, `-`, `_` and one
point only; blanks around any token are not read, and do not count. And the token of a record
continues strictly behind this record in the direction of the sort. -/
theorem token_round_trip :
    (∀ id : String,
      (decode (encode id) = .ok id ↔ trim id ≠ "" ∧ (encode id).utf8ByteSize ≤ 512) ∧
      (¬(trim id ≠ "" ∧ (encode id).utf8ByteSize ≤ 512) →
        ∃ refusal, decode (encode id) = .error refusal) ∧
      (∀ c ∈ (encode id).toList, c.isAlphanum = true ∨ c = '-' ∨ c = '_' ∨ c = '.') ∧
      (encode id).toList.count '.' = 1) ∧
    (∀ before after, isBlankText before = true → isBlankText after = true →
      ∀ token, decode (before ++ token ++ after) = decode token) ∧
    ∀ id : ObjectId,
      continuation .asc (encode id.toHex) = .ok (.compare idField .gt (.objectId id)) ∧
      continuation .desc (encode id.toHex) = .ok (.compare idField .lt (.objectId id)) := by
  refine ⟨fun id => ⟨decode_encode_eq_ok_iff id, exists_decode_encode_eq_error,
    fun c => isAlphanum_of_mem_encode, count_point_encode id⟩,
    fun before after hbefore hafter => decode_append hbefore hafter, fun id => ⟨?_, ?_⟩⟩
  · exact continuation_encode_toHex .asc id
  · exact continuation_encode_toHex .desc id

/-- An identifier with blanks at both ends, a quotation mark, a backslash, a control character and
characters of two and of four bytes. -/
def awkwardId : String := " \"a\\b\x01é😀\n"

theorem decode_awkwardId :
    isBlankText " \t" = true ∧ isBlankText "\u3000" = true ∧
    decode (" \t" ++ encode awkwardId ++ "\u3000") = .ok awkwardId ∧
    ∃ refusal, decode (encode "\u00a0") = .error refusal := by
  obtain ⟨hids, hblanks, -⟩ := token_round_trip
  have hbefore : isBlankText " \t" = true := by decide
  have hafter : isBlankText "\u3000" = true := by decide
  have hpayload : (payload awkwardId).length = 30 := by decide +kernel
  have hsize : (encode awkwardId).utf8ByteSize ≤ 512 := by
    rw [utf8ByteSize_encode, hpayload]
    decide
  have htrim : trim awkwardId ≠ "" := by decide +kernel
  have hblank : trim "\u00a0" = "" := by decide
  refine ⟨hbefore, hafter, ?_, (hids "\u00a0").2.1 fun h => h.1 hblank⟩
  rw [hblanks _ _ hbefore hafter]
  exact (hids awkwardId).1.mpr ⟨htrim, hsize⟩

end Strata.Cursor
