/-!
# UTF-8

A text is written as the bytes of its characters one after the other. Reading never fails as a
whole: it yields *glyphs*, a character for each well-formed sequence and `none` for each byte that
belongs to none. A byte sequence is a text when all its glyphs are characters.
-/

namespace Strata.Text

/-- A character, or a byte that belongs to no character. -/
abbrev Glyph := Option Char

namespace Utf8

/-- The bytes of a text. -/
def encode (s : String) : List UInt8 :=
  s.toList.flatMap String.utf8EncodeChar

/-- The glyphs of a text. -/
def glyphsOf (s : String) : List Glyph := s.toList.map some

/-- The six payload bits of a continuation byte. -/
def payload? (b : UInt8) : Option Nat :=
  if 0x80 ≤ b.toNat ∧ b.toNat < 0xc0 then some (b.toNat - 0x80) else none

/-- The character with a number, if it lies between two bounds and is a scalar value. -/
def scalar? (lo hi n : Nat) : Option Char :=
  if lo ≤ n ∧ n ≤ hi ∧ ¬ (0xd800 ≤ n ∧ n ≤ 0xdfff) then some (Char.ofNat n) else none

/-- The character that starts with byte `a` and continues in `rest`, with the number of bytes of
`rest` it takes. Overlong forms, surrogates and numbers past the last scalar value are no
characters. -/
def character? (a : UInt8) (rest : List UInt8) : Option (Char × Nat) :=
  let a := a.toNat
  if a < 0x80 then some (Char.ofNat a, 0)
  else if a < 0xc2 then none
  else if a < 0xe0 then do
    let x ← rest[0]?.bind payload?
    return (← scalar? 0x80 0x7ff ((a - 0xc0) * 64 + x), 1)
  else if a < 0xf0 then do
    let x ← rest[0]?.bind payload?
    let y ← rest[1]?.bind payload?
    return (← scalar? 0x800 0xffff (((a - 0xe0) * 64 + x) * 64 + y), 2)
  else if a < 0xf5 then do
    let x ← rest[0]?.bind payload?
    let y ← rest[1]?.bind payload?
    let z ← rest[2]?.bind payload?
    return (← scalar? 0x10000 0x10ffff ((((a - 0xf0) * 64 + x) * 64 + y) * 64 + z), 3)
  else none

/-- The glyphs of the bytes after the first `skip`, which belong to a character already read; `acc`
holds the glyphs before them, last first. -/
def glyphsFrom (acc : List Glyph) : Nat → List UInt8 → List Glyph
  | _, [] => acc.reverse
  | skip + 1, _ :: rest => glyphsFrom acc skip rest
  | 0, a :: rest =>
    match character? a rest with
    | some (c, n) => glyphsFrom (some c :: acc) n rest
    | none => glyphsFrom (none :: acc) 0 rest

/-- The glyphs of a byte sequence. -/
def glyphs (bytes : List UInt8) : List Glyph := glyphsFrom [] 0 bytes

/-- The text that a byte sequence is, if it is one. -/
def decode? (bytes : List UInt8) : Option String :=
  ((glyphs bytes).mapM id).map String.ofList

end Utf8

end Strata.Text
