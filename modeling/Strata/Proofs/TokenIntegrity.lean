import Mathlib.Data.List.Basic
import Strata.Proofs.CursorToken

/-!
# Integrity of tokens

A token that is read is, up to blanks around it, the payload and its check in the one spelling that
base 64 has for them. So the part before the point determines the whole token, no token begins
another one, and a token whose payload was replaced is read only if both payloads have the same
check.
-/

namespace Strata.Text

/-- The parts around the first separator. -/
theorem splitOnce?_eq_some_iff {c : Char} {cs before after : List Char} :
    splitOnce? c cs = some (before, after) ↔ cs = before ++ c :: after ∧ c ∉ before := by
  constructor
  · intro h
    unfold splitOnce? at h
    split at h
    next => cases h
    next d rest hdrop =>
      obtain ⟨rfl, rfl⟩ := Prod.mk.inj (Option.some.inj h)
      have hd : d = c := by
        have hhead := List.head?_dropWhile_not (· != c) cs
        rw [hdrop] at hhead
        simpa using hhead
      refine ⟨?_, fun hmem => ?_⟩
      · rw [hd] at hdrop
        rw [← hdrop, List.takeWhile_append_dropWhile]
      · simpa using List.mem_takeWhile_imp hmem
  · rintro ⟨rfl, hbefore⟩
    exact Cursor.splitOnce?_append (fun d hd hc => hbefore (by rwa [← hc])) after

/-- Trimming leaves what stands around a character that is not blank. -/
theorem trimChars_append_cons {c : Char} (hc : isBlank c = false) (before after : List Char) :
    trimChars (before ++ c :: after)
      = before.dropWhile isBlank ++ c :: after.rdropWhile isBlank := by
  have hdrop : ∀ cs tail : List Char, (cs ++ c :: tail).dropWhile isBlank
      = cs.dropWhile isBlank ++ c :: tail := by
    intro cs tail
    rw [List.dropWhile_append]
    cases hcs : cs.dropWhile isBlank with
    | nil => simp [hc]
    | cons d rest => simp
  rw [trimChars, hdrop, List.reverse_append, List.reverse_cons, List.append_assoc,
    List.singleton_append, hdrop]
  simp [List.rdropWhile]

end Strata.Text

namespace Strata.Cursor

open Text

/-! ## What is read -/

/-- The token of a payload, readable or not. -/
def sealed (bytes : List UInt8) : List Char :=
  Base64.urlSafe.encodeChars bytes ++ '.' :: Base64.urlSafe.encodeChars (check bytes)

theorem toList_encode_eq_sealed (id : String) : (encode id).toList = sealed (payload id) :=
  toList_encode id

theorem point_not_mem_encodeChars (bytes : List UInt8) : '.' ∉ Base64.urlSafe.encodeChars bytes :=
  fun h => ne_point_of_mem_encodeChars h rfl

theorem encodeChars_injective {p q : List UInt8}
    (h : Base64.urlSafe.encodeChars p = Base64.urlSafe.encodeChars q) : p = q := by
  have hp := Base64.decodeChars?_encodeChars Base64.isAlphabet_urlSafe p
  rw [h, Base64.decodeChars?_encodeChars Base64.isAlphabet_urlSafe] at hp
  exact (Option.some.inj hp).symm

/-- A sealed payload has one point, which stands between the payload and its check. -/
theorem parts_of_sealed {bytes : List UInt8} {before after : List Char}
    (h : sealed bytes = before ++ '.' :: after) :
    before = Base64.urlSafe.encodeChars bytes ∧
      after = Base64.urlSafe.encodeChars (check bytes) := by
  obtain ⟨hbefore, -, hafter⟩ := (List.append_cons_inj_of_notMem (point_not_mem_encodeChars bytes)
    (point_not_mem_encodeChars (check bytes))).mp h
  exact ⟨hbefore.symm, hafter.symm⟩

theorem decodeParts_eq_ok_iff {body sum : List Char} {id : String} :
    decodeParts body sum = .ok id ↔ ∃ bytes, body = Base64.urlSafe.encodeChars bytes ∧
      sum = Base64.urlSafe.encodeChars (check bytes) ∧ readPayload? bytes = some id ∧
      isBlankText id = false := by
  simp only [← Base64.decodeChars?_eq_some_iff Base64.isAlphabet_urlSafe]
  constructor
  · intro h
    unfold decodeParts at h
    split at h
    next => cases h
    next bytes hbytes =>
      split at h
      next => cases h
      next given hgiven =>
        split at h
        next => cases h
        next hcheck =>
          split at h
          next => cases h
          next id' hread =>
            split at h
            next => cases h
            next hblank =>
              obtain rfl := Except.ok.inj h
              rw [not_not] at hcheck
              exact ⟨bytes, hbytes, hcheck ▸ hgiven, hread, Bool.eq_false_iff.mpr hblank⟩
  · rintro ⟨bytes, hbytes, hsum, hread, hblank⟩
    simp [decodeParts, hbytes, hsum, hread, hblank]

/-- **Accepted tokens.** A token is read as an identifier exactly if without the blanks around it it
is the token of a payload that holds this identifier, not too long, and the identifier not blank. -/
theorem decode_eq_ok_iff {token id : String} :
    decode token = .ok id ↔ (trim token).utf8ByteSize ≤ maxTokenBytes ∧
      ∃ bytes, (trim token).toList = sealed bytes ∧ readPayload? bytes = some id ∧
        isBlankText id = false := by
  unfold decode
  simp only []
  split
  next hlong => exact iff_of_false nofun fun h => absurd h.1 (Nat.not_le.mpr hlong)
  next hlong =>
    rw [and_iff_right (Nat.not_lt.mp hlong)]
    split
    next hnone =>
      refine iff_of_false nofun ?_
      rintro ⟨bytes, hsealed, -⟩
      rw [hsealed, sealed, splitOnce?_eq_some_iff.mpr ⟨rfl, point_not_mem_encodeChars bytes⟩]
        at hnone
      cases hnone
    next body sum hparts =>
      obtain ⟨htoken, -⟩ := splitOnce?_eq_some_iff.mp hparts
      rw [decodeParts_eq_ok_iff, htoken]
      constructor
      · rintro ⟨bytes, rfl, rfl, hread⟩
        exact ⟨bytes, rfl, hread⟩
      · rintro ⟨bytes, hsealed, hread⟩
        obtain ⟨hbody, hsum⟩ := parts_of_sealed hsealed.symm
        exact ⟨bytes, hbody, hsum, hread⟩

/-! ## Changed tokens -/

/-- No token begins another one: the part before the point determines it. -/
theorem eq_of_sealed_prefix {p q : List UInt8} (h : sealed p <+: sealed q) : p = q := by
  obtain ⟨rest, hrest⟩ := h
  rw [sealed, List.append_assoc, List.cons_append] at hrest
  exact encodeChars_injective (parts_of_sealed hrest.symm).1

/-- The part of a token before its point, without blanks around the token. -/
def front (token : String) : List Char := (trim token).toList.takeWhile (· != '.')

theorem takeWhile_sealed (bytes : List UInt8) :
    (sealed bytes).takeWhile (· != '.') = Base64.urlSafe.encodeChars bytes := by
  have hne : ∀ c ∈ Base64.urlSafe.encodeChars bytes, (c != '.') = true :=
    fun c hc => bne_iff_ne.mpr (ne_point_of_mem_encodeChars hc)
  rw [sealed, List.takeWhile_append_of_pos hne]
  simp

/-- Accepted tokens that agree before the point are the same token. -/
theorem trim_eq_of_front_eq {s t i j : String} (hs : decode s = .ok i) (ht : decode t = .ok j)
    (h : front s = front t) : trim s = trim t := by
  obtain ⟨-, p, hp, -⟩ := decode_eq_ok_iff.mp hs
  obtain ⟨-, q, hq, -⟩ := decode_eq_ok_iff.mp ht
  rw [front, front, hp, hq, takeWhile_sealed, takeWhile_sealed] at h
  rw [← String.toList_inj, hp, hq, encodeChars_injective h]

/-- A token whose end is missing is refused. -/
theorem exists_error_of_prefix {id part : String} (h : part.toList <+: (encode id).toList)
    (hne : part ≠ encode id) : ∃ refusal, decode part = .error refusal := by
  cases hdecode : decode part with
  | error refusal => exact ⟨refusal, rfl⟩
  | ok j =>
    obtain ⟨-, bytes, hbytes, -⟩ := decode_eq_ok_iff.mp hdecode
    have htrim : trim part = part :=
      trim_of_forall_not_blank fun c hc => (of_mem_encode (h.subset hc)).1
    rw [htrim] at hbytes
    rw [hbytes, toList_encode_eq_sealed] at h
    refine absurd (String.toList_inj.mp ?_) hne
    rw [hbytes, toList_encode_eq_sealed, eq_of_sealed_prefix h]

section Parts

variable {before after before' after' id : String}

theorem toList_trim_point (before after : String) :
    (trim (before ++ "." ++ after)).toList =
      before.toList.dropWhile isBlank ++ '.' :: after.toList.rdropWhile isBlank := by
  rw [trim, String.toList_ofList]
  simpa using trimChars_append_cons (c := '.') rfl before.toList after.toList

/-- The two parts of an accepted token: a payload and its check. -/
theorem parts_of_decode (h : decode (before ++ "." ++ after) = .ok id) :
    ∃ bytes, before.toList.dropWhile isBlank = Base64.urlSafe.encodeChars bytes ∧
      after.toList.rdropWhile isBlank = Base64.urlSafe.encodeChars (check bytes) := by
  obtain ⟨-, bytes, hbytes, -⟩ := decode_eq_ok_iff.mp h
  rw [toList_trim_point] at hbytes
  exact ⟨bytes, parts_of_sealed hbytes.symm⟩

theorem front_point (h : '.' ∉ before.toList.dropWhile isBlank) :
    front (before ++ "." ++ after) = before.toList.dropWhile isBlank := by
  have hne : ∀ c ∈ before.toList.dropWhile isBlank, (c != '.') = true :=
    fun c hc => bne_iff_ne.mpr fun heq => h (heq ▸ hc)
  rw [front, toList_trim_point, List.takeWhile_append_of_pos hne]
  simp

/-- Whatever else stands behind the point of an accepted token is refused. -/
theorem exists_error_of_changed_check (h : decode (before ++ "." ++ after) = .ok id)
    (hne : trim (before ++ "." ++ after') ≠ trim (before ++ "." ++ after)) :
    ∃ refusal, decode (before ++ "." ++ after') = .error refusal := by
  cases hdecode : decode (before ++ "." ++ after') with
  | error refusal => exact ⟨refusal, rfl⟩
  | ok j =>
    obtain ⟨bytes, hbefore, -⟩ := parts_of_decode h
    have hpoint : '.' ∉ before.toList.dropWhile isBlank :=
      hbefore ▸ point_not_mem_encodeChars bytes
    exact absurd (trim_eq_of_front_eq hdecode h
      ((front_point hpoint).trans (front_point hpoint).symm)) hne

/-- Another payload before the point of an accepted token has to have the same check. -/
theorem exists_check_eq_of_decode {i j : String} (h : decode (before ++ "." ++ after) = .ok i)
    (h' : decode (before' ++ "." ++ after) = .ok j)
    (hne : before'.toList.dropWhile isBlank ≠ before.toList.dropWhile isBlank) :
    ∃ p q, Base64.urlSafe.decodeChars? (before.toList.dropWhile isBlank) = some p ∧
      Base64.urlSafe.decodeChars? (before'.toList.dropWhile isBlank) = some q ∧
      p ≠ q ∧ check p = check q := by
  obtain ⟨p, hp, hcheck⟩ := parts_of_decode h
  obtain ⟨q, hq, hcheck'⟩ := parts_of_decode h'
  have hread := Base64.decodeChars?_encodeChars Base64.isAlphabet_urlSafe
  rw [hcheck] at hcheck'
  refine ⟨p, q, by rw [hp, hread], by rw [hq, hread], ?_, encodeChars_injective hcheck'⟩
  rintro rfl
  exact hne (hq.trans hp.symm)

end Parts

/-- **Tokens that were changed are refused.** Two accepted tokens that agree up to the first point
are the same but for blanks around them, so whatever else stands behind the point of an accepted
token is refused; the token of an identifier is refused if its end is missing; and if what stands
before the point of an accepted token can be replaced so that the token is still accepted, then both
are payloads, different ones, whose digests begin with the same six bytes. -/
theorem refused_of_tampered :
    (∀ s t i j : String, decode s = .ok i → decode t = .ok j →
      (trim s).toList.takeWhile (· != '.') = (trim t).toList.takeWhile (· != '.') →
      trim s = trim t) ∧
    (∀ before after after' i : String, decode (before ++ "." ++ after) = .ok i →
      trim (before ++ "." ++ after') ≠ trim (before ++ "." ++ after) →
      ∃ refusal, decode (before ++ "." ++ after') = .error refusal) ∧
    (∀ id part : String, part.toList <+: (encode id).toList → part ≠ encode id →
      ∃ refusal, decode part = .error refusal) ∧
    ∀ before before' after i j : String, decode (before ++ "." ++ after) = .ok i →
      decode (before' ++ "." ++ after) = .ok j →
      before'.toList.dropWhile isBlank ≠ before.toList.dropWhile isBlank →
      ∃ p q, Base64.urlSafe.decodeChars? (before.toList.dropWhile isBlank) = some p ∧
        Base64.urlSafe.decodeChars? (before'.toList.dropWhile isBlank) = some q ∧
        p ≠ q ∧ (Digest.Sha256.digest p).take 6 = (Digest.Sha256.digest q).take 6 := by
  refine ⟨fun s t i j hs ht h => trim_eq_of_front_eq hs ht h,
    fun before after after' i h hne => exists_error_of_changed_check h hne,
    fun id part hprefix hne => exists_error_of_prefix hprefix hne,
    fun before before' after i j h h' hne => exists_check_eq_of_decode h h' hne⟩

/-- The part of the token of an identifier before the point. -/
def encodedPayload (id : ObjectId) : String := Base64.urlSafe.encode (payload id.toHex)

/-- Two identifiers whose payloads happen to have the same check. -/
def twinId : ObjectId := .ofNat 0x3c6872

def otherTwinId : ObjectId := .ofNat 0xa3e13a

/-- Both identifiers have the check `DNY-hS87`. With another check the token is refused, and so is
the token without its last letter; and each payload can be replaced by the other one. -/
theorem refused_twins :
    decode (encodedPayload twinId ++ "." ++ "DNY-hS87") = .ok twinId.toHex ∧
    decode (encodedPayload otherTwinId ++ "." ++ "DNY-hS87") = .ok otherTwinId.toHex ∧
    trim (" " ++ (encodedPayload twinId ++ "." ++ "DNY-hS87") ++ "\n") =
      trim (encodedPayload twinId ++ "." ++ "DNY-hS87") ∧
    (∃ refusal, decode (encodedPayload twinId ++ "." ++ "DNY-hS86") = .error refusal) ∧
    (∃ refusal, decode (encodedPayload twinId ++ "." ++ "DNY-hS8") = .error refusal) ∧
    ∃ p q, p ≠ q ∧ (Digest.Sha256.digest p).take 6 = (Digest.Sha256.digest q).take 6 := by
  obtain ⟨hsame, hchanged, hpart, hreplaced⟩ := refused_of_tampered
  have hcheck : Base64.urlSafe.encode (check (payload twinId.toHex)) = "DNY-hS87" := by
    decide +kernel
  have hother : Base64.urlSafe.encode (check (payload otherTwinId.toHex)) = "DNY-hS87" := by
    decide +kernel
  have htwin : decode (encodedPayload twinId ++ "." ++ "DNY-hS87") = .ok twinId.toHex := by
    rw [← hcheck]
    exact decode_encode_toHex twinId
  have hotherTwin :
      decode (encodedPayload otherTwinId ++ "." ++ "DNY-hS87") = .ok otherTwinId.toHex := by
    rw [← hother]
    exact decode_encode_toHex otherTwinId
  have hpadded : decode (" " ++ (encodedPayload twinId ++ "." ++ "DNY-hS87") ++ "\n")
      = .ok twinId.toHex := by
    rw [decode_append (by decide) (by decide), htwin]
  have hprefix : (encodedPayload twinId ++ "." ++ "DNY-hS8").toList <+:
      (encode twinId.toHex).toList := by
    decide +kernel
  obtain ⟨p, q, -, -, hne, hdigest⟩ :=
    hreplaced _ _ _ _ _ htwin hotherTwin (by decide +kernel)
  exact ⟨htwin, hotherTwin, hsame _ _ _ _ hpadded htwin (by decide +kernel),
    hchanged _ _ _ _ htwin (by decide +kernel), hpart _ _ hprefix (by decide +kernel), p, q, hne,
    hdigest⟩

end Strata.Cursor
