/-!
# Base 64

Three bytes are written as four characters of a 64-letter alphabet. A *variant* fixes the last two
letters and whether a short last group is filled with `=`. Reading is strict: it accepts exactly the
texts that writing produces, so unused low bits of the last letter have to be zero and padding has
to be there or absent as the variant says.
-/

namespace Strata.Text.Base64

/-- What distinguishes one spelling of base 64 from another. -/
structure Variant where
  letter62 : Char
  letter63 : Char
  padded : Bool
  deriving DecidableEq, Repr

/-- The alphabet for identifiers in addresses, without padding. -/
def urlSafe : Variant := ⟨'-', '_', false⟩

/-- The common alphabet, with padding. -/
def standard : Variant := ⟨'+', '/', true⟩

/-- The letter of a value below 64. -/
def Variant.letter (v : Variant) (n : Nat) : Char :=
  if n < 26 then Char.ofNat (65 + n)
  else if n < 52 then Char.ofNat (71 + n)
  else if n < 62 then Char.ofNat (n - 4)
  else if n = 62 then v.letter62
  else v.letter63

/-- The value of a letter. -/
def Variant.value? (v : Variant) (c : Char) : Option Nat :=
  let n := c.toNat
  if 65 ≤ n ∧ n ≤ 90 then some (n - 65)
  else if 97 ≤ n ∧ n ≤ 122 then some (n - 71)
  else if 48 ≤ n ∧ n ≤ 57 then some (n + 4)
  else if c = v.letter62 then some 62
  else if c = v.letter63 then some 63
  else none

/-- Cuts bytes into groups of six bits; the last group is filled with zero bits. -/
def sextets : List UInt8 → List Nat
  | [] => []
  | [a] => [a.toNat / 4, a.toNat % 4 * 16]
  | [a, b] => [a.toNat / 4, a.toNat % 4 * 16 + b.toNat / 16, b.toNat % 16 * 4]
  | a :: b :: c :: rest =>
    a.toNat / 4 :: (a.toNat % 4 * 16 + b.toNat / 16) :: (b.toNat % 16 * 4 + c.toNat / 64) ::
      c.toNat % 64 :: sextets rest

/-- Joins groups of six bits to bytes; a lone group and bits left over that are not zero are
refused. -/
def ofSextets? : List Nat → Option (List UInt8)
  | [] => some []
  | [_] => none
  | [a, b] => if b % 16 = 0 then some [UInt8.ofNat (a * 4 + b / 16)] else none
  | [a, b, c] =>
    if c % 4 = 0 then
      some [UInt8.ofNat (a * 4 + b / 16), UInt8.ofNat (b % 16 * 16 + c / 4)]
    else none
  | a :: b :: c :: d :: rest => do
    let tail ← ofSextets? rest
    return UInt8.ofNat (a * 4 + b / 16) :: UInt8.ofNat (b % 16 * 16 + c / 4) ::
      UInt8.ofNat (c % 4 * 64 + d) :: tail

/-- How many `=` follow a text of `n` letters. -/
def Variant.padding (v : Variant) (n : Nat) : Nat :=
  if v.padded then (4 - n % 4) % 4 else 0

/-- The characters that stand for the bytes. -/
def Variant.encodeChars (v : Variant) (bytes : List UInt8) : List Char :=
  let letters := (sextets bytes).map v.letter
  letters ++ List.replicate (v.padding letters.length) '='

/-- The text that stands for the bytes. -/
def Variant.encode (v : Variant) (bytes : List UInt8) : String :=
  String.ofList (v.encodeChars bytes)

/-- Reads the characters of a text. -/
def Variant.decodeChars? (v : Variant) (cs : List Char) : Option (List UInt8) := do
  let letters := cs.takeWhile (· != '=')
  guard (cs.dropWhile (· != '=') = List.replicate (v.padding letters.length) '=')
  let groups ← letters.mapM v.value?
  ofSextets? groups

/-- Reads a text. -/
def Variant.decode? (v : Variant) (s : String) : Option (List UInt8) :=
  v.decodeChars? s.toList

end Strata.Text.Base64
