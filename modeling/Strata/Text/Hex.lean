/-!
# Hexadecimal text

Bytes are written as two lower-case digits each and read in either case.
-/

namespace Strata.Text.Hex

/-- The lower-case digit of a value below sixteen. -/
def digit (n : Nat) : Char :=
  if n < 10 then Char.ofNat (48 + n) else Char.ofNat (87 + n)

/-- The value of a hexadecimal digit of either case. -/
def digitValue? (c : Char) : Option Nat :=
  let n := c.toNat
  if 48 ≤ n ∧ n ≤ 57 then some (n - 48)
  else if 97 ≤ n ∧ n ≤ 102 then some (n - 87)
  else if 65 ≤ n ∧ n ≤ 70 then some (n - 55)
  else none

/-- Two digits per byte, the high half first. -/
def encodeChars (bytes : List UInt8) : List Char :=
  bytes.flatMap fun b => [digit (b.toNat / 16), digit (b.toNat % 16)]

/-- Two digits per byte, as text. -/
def encode (bytes : List UInt8) : String :=
  String.ofList (encodeChars bytes)

/-- Reads pairs of digits; an odd digit or a foreign character is refused. -/
def decodeChars? : List Char → Option (List UInt8)
  | [] => some []
  | [_] => none
  | a :: b :: rest => do
    let hi ← digitValue? a
    let lo ← digitValue? b
    let tail ← decodeChars? rest
    return UInt8.ofNat (16 * hi + lo) :: tail

/-- Reads a text of pairs of digits. -/
def decode? (s : String) : Option (List UInt8) :=
  decodeChars? s.toList

/-- The digits of a number in base sixteen, without leading zeros. -/
def ofNat (n : Nat) : String :=
  String.ofList (Nat.toDigits 16 n)

/-- The number in base sixteen, with zeros in front up to `width` digits. -/
def padded (width n : Nat) : String :=
  let ds := Nat.toDigits 16 n
  String.ofList (List.replicate (width - ds.length) '0' ++ ds)

end Strata.Text.Hex
