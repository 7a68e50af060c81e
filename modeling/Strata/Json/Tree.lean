import Strata.Text.Utf8
import Strata.Text.Hex
import Strata.Decimal.Literal
import Strata.Json.Basic

/-!
# JSON texts

Reading is split in two. `Tree.read?` recognises the grammar and nothing more: numbers stay as
written, members stay in order and may repeat, and a string that is no text (it holds a lone
surrogate or stray bytes) is only marked as such. What a reader of the text does not look at is
therefore checked for its form alone. `Tree.value` then makes the JSON value of a tree and refuses
numbers out of range, strings that are no text, and nesting that is too deep.
-/

namespace Strata.Json

open Strata.Text Strata.Decimal

/-- Why a text is not the value asked for. -/
inductive ReadError where
  | malformed
  | brokenText
  | numberRange
  | nesting
  | unexpected (wanted : String)
  | repeatedKey (key : String)
  | missingKey (key : String)
  deriving DecidableEq, Repr

/-- The wording of a reason. -/
def ReadError.message : ReadError → String
  | malformed => "malformed text"
  | brokenText => "string is not valid text"
  | numberRange => "number out of range"
  | nesting => "nesting too deep"
  | unexpected wanted => s!"expected {wanted}"
  | repeatedKey key => s!"key {key} given twice"
  | missingKey key => s!"key {key} missing"

/-- A JSON text as its grammar sees it. -/
inductive Tree where
  | null
  | bool (b : Bool)
  /-- a number as written, and whether it has neither point nor exponent -/
  | number (literal : Literal) (whole : Bool)
  /-- a string, or `none` for one that is no text -/
  | string (text : Option String)
  | array (items : List Tree)
  | object (members : List (Option String × Tree))
  deriving Inhabited

/-! ## Tokens -/

/-- The characters allowed between tokens. -/
def isGap : Glyph → Bool
  | some c => c == ' ' || c == '\n' || c == '\t' || c == '\r'
  | none => false

/-- Drops the gap in front. -/
def skipGap (gs : List Glyph) : List Glyph := gs.dropWhile isGap

/-- Whether a glyph is a decimal digit. -/
def isDigitGlyph : Glyph → Bool
  | some c => Numeral.isDigit c
  | none => false

/-- The digits at the front, and the rest. -/
def digits (gs : List Glyph) : List Char × List Glyph :=
  ((gs.takeWhile isDigitGlyph).filterMap id, gs.dropWhile isDigitGlyph)

/-- The value of four hexadecimal digits at the front. -/
def hex4? : List Glyph → Option (Nat × List Glyph)
  | some a :: some b :: some c :: some d :: rest => do
    let a ← Hex.digitValue? a
    let b ← Hex.digitValue? b
    let c ← Hex.digitValue? c
    let d ← Hex.digitValue? d
    return (((a * 16 + b) * 16 + c) * 16 + d, rest)
  | _ => none

/-- The low surrogate written at the front. -/
def lowSurrogate? : List Glyph → Option (Nat × List Glyph)
  | some '\\' :: some 'u' :: rest =>
    match hex4? rest with
    | some (n, rest) => if 0xdc00 ≤ n ∧ n ≤ 0xdfff then some (n, rest) else none
    | none => none
  | _ => none

/-- What follows a backslash: the character it stands for, or `none` for a lone surrogate. -/
def escape? : List Glyph → Option (Glyph × List Glyph)
  | some '"' :: rest => some (some '"', rest)
  | some '\\' :: rest => some (some '\\', rest)
  | some '/' :: rest => some (some '/', rest)
  | some 'b' :: rest => some (some '\x08', rest)
  | some 'f' :: rest => some (some '\x0c', rest)
  | some 'n' :: rest => some (some '\n', rest)
  | some 'r' :: rest => some (some '\r', rest)
  | some 't' :: rest => some (some '\t', rest)
  | some 'u' :: rest =>
    match hex4? rest with
    | none => none
    | some (n, rest) =>
      if 0xd800 ≤ n ∧ n ≤ 0xdbff then
        match lowSurrogate? rest with
        | some (m, rest) =>
          some (some (Char.ofNat (0x10000 + (n - 0xd800) * 1024 + (m - 0xdc00))), rest)
        | none => some (none, rest)
      else if 0xdc00 ≤ n ∧ n ≤ 0xdfff then some (none, rest)
      else some (some (Char.ofNat n), rest)
  | _ => none

/-- The rest of a string after its opening quote; `acc` holds its characters so far, last first, and
`text` whether all of it was text. The first argument bounds the number of characters. -/
def stringRest? : Nat → List Char → Bool → List Glyph → Option (Option String × List Glyph)
  | 0, _, _, _ => none
  | _ + 1, _, _, [] => none
  | n + 1, acc, _, none :: rest => stringRest? n acc false rest
  | n + 1, acc, text, some c :: rest =>
    if c = '"' then some (if text then some (String.ofList acc.reverse) else none, rest)
    else if c = '\\' then
      match escape? rest with
      | none => none
      | some (some e, rest) => stringRest? n (e :: acc) text rest
      | some (none, rest) => stringRest? n acc false rest
    else if c.toNat < 0x20 then none
    else stringRest? n (c :: acc) text rest

/-- The fraction at the front, if there is one: a point needs digits behind it. -/
def fraction? : List Glyph → Option (Option (List Char) × List Glyph)
  | some '.' :: rest =>
    match digits rest with
    | ([], _) => none
    | (ds, rest) => some (some ds, rest)
  | gs => some (none, gs)

/-- The digits of a power of ten. -/
def powerDigits? (negative : Bool) (gs : List Glyph) : Option (Option Int × List Glyph) :=
  match digits gs with
  | ([], _) => none
  | (ds, rest) =>
    let n : Int := Numeral.ofDigits ds
    some (some (if negative then -n else n), rest)

/-- The power of ten at the front, if there is one. -/
def exponent? : List Glyph → Option (Option Int × List Glyph)
  | some c :: rest =>
    if c = 'e' ∨ c = 'E' then
      match rest with
      | some '+' :: rest => powerDigits? false rest
      | some '-' :: rest => powerDigits? true rest
      | rest => powerDigits? false rest
    else some (none, some c :: rest)
  | gs => some (none, gs)

/-- The integer part: a zero alone or digits that do not start with one. -/
def wholeDigits? (gs : List Glyph) : Option (List Char × List Glyph) :=
  match digits gs with
  | ([], _) => none
  | ('0' :: _ :: _, _) => none
  | (ds, rest) => some (ds, rest)

/-- A number after its sign. -/
def unsigned? (negative : Bool) (gs : List Glyph) : Option (Tree × List Glyph) := do
  let (ds, gs) ← wholeDigits? gs
  let (fraction, gs) ← fraction? gs
  let (power, gs) ← exponent? gs
  return (.number ⟨negative, ds, fraction.getD [], power.getD 0⟩
    (fraction.isNone && power.isNone), gs)

/-- A number at the front. -/
def number? : List Glyph → Option (Tree × List Glyph)
  | some '-' :: rest => unsigned? true rest
  | gs => unsigned? false gs

/-- Takes a word off the front. -/
def word? : List Char → List Glyph → Option (List Glyph)
  | [], gs => some gs
  | c :: cs, some d :: rest => if c = d then word? cs rest else none
  | _ :: _, _ => none

/-! ## Values -/

mutual

/-- A value at the front, gaps before it allowed; the first argument bounds the work. -/
def tree? : Nat → List Glyph → Option (Tree × List Glyph)
  | 0, _ => none
  | n + 1, gs =>
    match skipGap gs with
    | some '{' :: rest =>
      match skipGap rest with
      | some '}' :: rest => some (.object [], rest)
      | rest => members? n [] rest
    | some '[' :: rest =>
      match skipGap rest with
      | some ']' :: rest => some (.array [], rest)
      | rest => items? n [] rest
    | some '"' :: rest => (stringRest? n [] true rest).map fun r => (.string r.1, r.2)
    | some 't' :: rest => (word? ['r', 'u', 'e'] rest).map fun r => (.bool true, r)
    | some 'f' :: rest => (word? ['a', 'l', 's', 'e'] rest).map fun r => (.bool false, r)
    | some 'n' :: rest => (word? ['u', 'l', 'l'] rest).map fun r => (.null, r)
    | gs => number? gs

/-- The items of an array from one of them on; `acc` holds those before, last first. -/
def items? : Nat → List Tree → List Glyph → Option (Tree × List Glyph)
  | 0, _, _ => none
  | n + 1, acc, gs =>
    match tree? n gs with
    | none => none
    | some (v, rest) =>
      match skipGap rest with
      | some ',' :: rest => items? n (v :: acc) rest
      | some ']' :: rest => some (.array (v :: acc).reverse, rest)
      | _ => none

/-- The members of an object from one of them on; `acc` holds those before, last first. -/
def members? : Nat → List (Option String × Tree) → List Glyph → Option (Tree × List Glyph)
  | 0, _, _ => none
  | n + 1, acc, gs =>
    match skipGap gs with
    | some '"' :: rest =>
      match stringRest? n [] true rest with
      | none => none
      | some (key, rest) =>
        match skipGap rest with
        | some ':' :: rest =>
          match tree? n rest with
          | none => none
          | some (v, rest) =>
            match skipGap rest with
            | some ',' :: rest => members? n ((key, v) :: acc) rest
            | some '}' :: rest => some (.object ((key, v) :: acc).reverse, rest)
            | _ => none
        | _ => none
    | _ => none

end

/-- A whole text: one value and gaps around it. Each step of the reader takes at least one glyph or
goes one level down, so twice the length bounds the work. -/
def Tree.read? (gs : List Glyph) : Option Tree :=
  match tree? (2 * gs.length + 2) gs with
  | some (t, rest) => if (skipGap rest).isEmpty then some t else none
  | none => none

/-! ## From trees to values -/

/-- The value of a number. Whole numbers that do not fit 64 bits, and a negative zero, become
binary64; a number whose nearest binary64 is infinite is out of range. The nearest binary64 is exact to
the last place. A reader that scales the digits in binary64 may miss it by one place and finds a few
numbers next to the greatest one out of range. -/
def numberValue (l : Literal) (whole : Bool) : Except ReadError Json :=
  let magnitude := Numeral.ofDigits l.whole
  let n : Int := if l.negative then -magnitude else magnitude
  if whole && isWord n && !(l.negative && magnitude == 0) then .ok (.int n)
  else
    let d := l.toDouble
    if d.isFinite then .ok (.real d) else .error .numberRange

mutual

/-- The value of a tree whose arrays and objects nest less than `depth` deep. -/
def Tree.value (depth : Nat) : Tree → Except ReadError Json
  | .null => .ok .null
  | .bool b => .ok (.bool b)
  | .number l whole => numberValue l whole
  | .string (some s) => .ok (.str s)
  | .string none => .error .brokenText
  | .array items =>
    if depth ≤ 1 then .error .nesting
    else (Tree.itemValues (depth - 1) items).map .arr
  | .object members =>
    if depth ≤ 1 then .error .nesting
    else (Tree.memberValues (depth - 1) members).map Json.object

/-- The values of the items of an array. -/
def Tree.itemValues (depth : Nat) : List Tree → Except ReadError (List Json)
  | [] => .ok []
  | t :: rest => do
    let v ← Tree.value depth t
    let vs ← Tree.itemValues depth rest
    return v :: vs

/-- The members of an object, in the order of the text. -/
def Tree.memberValues (depth : Nat) :
    List (Option String × Tree) → Except ReadError (List (String × Json))
  | [] => .ok []
  | (key, t) :: rest => do
    match key with
    | none => throw .brokenText
    | some k =>
      let v ← Tree.value depth t
      let vs ← Tree.memberValues depth rest
      return (k, v) :: vs

end

/-- How deep arrays and objects may nest in a value. -/
def maxDepth : Nat := 128

/-- Reads a whole text. -/
def read (text : String) : Except ReadError Json :=
  match Tree.read? (Utf8.glyphsOf text) with
  | some t => t.value maxDepth
  | none => .error .malformed

end Strata.Json
