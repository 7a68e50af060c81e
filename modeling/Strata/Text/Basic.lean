/-!
# Texts

What is done with texts before they mean anything: the blanks at their ends go, the case of their
letters does not count, they are cut at separators, and fields are put together to lines.

A character is *blank* when it has the Unicode property `White_Space`. Every text that the library
trims (identifiers, tokens, numbers in the environment, scalar literals) is trimmed of exactly these
characters. Names of levels, formats and log levels are recognised whatever the case of their ASCII
letters; other letters keep their case.
-/

namespace Strata.Text

/-! ## Blanks -/

/-- The Unicode property `White_Space`. -/
def isBlank (c : Char) : Bool :=
  let n := c.toNat
  (0x09 ≤ n && n ≤ 0x0d) || n == 0x20 || n == 0x85 || n == 0xa0 || n == 0x1680 ||
    (0x2000 ≤ n && n ≤ 0x200a) || n == 0x2028 || n == 0x2029 || n == 0x202f || n == 0x205f ||
    n == 0x3000

/-- The characters without the blanks at both ends. -/
def trimChars (cs : List Char) : List Char :=
  ((cs.dropWhile isBlank).reverse.dropWhile isBlank).reverse

/-- The text without the blanks at both ends. -/
def trim (s : String) : String :=
  String.ofList (trimChars s.toList)

/-- A text of blanks only, the empty text included. -/
def isBlankText (s : String) : Bool :=
  s.toList.all isBlank

/-! ## Letters -/

/-- The text with `A` to `Z` replaced by `a` to `z`. -/
def asciiLower (s : String) : String :=
  String.ofList (s.toList.map Char.toLower)

/-- Equality up to the case of ASCII letters. -/
def sameLetters (s t : String) : Bool :=
  asciiLower s == asciiLower t

/-! ## Separators -/

/-- The pieces of a row of characters between its separators; there is one more piece than there are
separators. -/
def split (separator : Char) : List Char → List (List Char)
  | [] => [[]]
  | c :: cs =>
    if c = separator then [] :: split separator cs
    else match split separator cs with
      | [] => [[c]]
      | piece :: pieces => (c :: piece) :: pieces

/-- The parts of a row of characters before and after the first separator. -/
def splitOnce? (separator : Char) (cs : List Char) : Option (List Char × List Char) :=
  match cs.dropWhile (· != separator) with
  | [] => none
  | _ :: rest => some (cs.takeWhile (· != separator), rest)

/-! ## Comma-separated values -/

namespace Csv

/-- Whether a field has to be quoted because of a character. -/
def isSpecial (c : Char) : Bool := c == ',' || c == '"' || c == '\n' || c == '\r'

/-- A field. It is quoted if it holds a comma, a quote or a line end; quotes inside are doubled. -/
def field (s : String) : String :=
  if s.toList.any isSpecial then
    "\"" ++ String.ofList (s.toList.flatMap fun c => if c = '"' then ['"', '"'] else [c]) ++ "\""
  else s

/-- A record with its line end. One whose line would be empty is a pair of quotes. -/
def record (fields : List String) : String :=
  let line := String.intercalate "," (fields.map field)
  (if line.isEmpty then "\"\"" else line) ++ "\n"

end Csv

end Strata.Text
