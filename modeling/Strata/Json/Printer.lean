import Strata.Text.Hex
import Strata.Decimal.Layout
import Strata.Json.Basic

/-!
# Writing JSON

Two layouts: `compact` without any gap, and `pretty` with one item or member per line, indented by
two spaces for each level. In strings only quotes, backslashes and control characters are escaped.
-/

namespace Strata.Json

open Strata.Text Strata.Decimal

/-- The characters that stand for `c` in a string. -/
def escapeChar (c : Char) : List Char :=
  if c = '"' then ['\\', '"']
  else if c = '\\' then ['\\', '\\']
  else if c = '\x08' then ['\\', 'b']
  else if c = '\x0c' then ['\\', 'f']
  else if c = '\n' then ['\\', 'n']
  else if c = '\r' then ['\\', 'r']
  else if c = '\t' then ['\\', 't']
  else if c.toNat < 0x20 then
    ['\\', 'u', '0', '0', Hex.digit (c.toNat / 16), Hex.digit (c.toNat % 16)]
  else [c]

/-- A string in quotes. -/
def quoteChars (s : String) : List Char :=
  '"' :: (s.toList.flatMap escapeChar ++ ['"'])

/-- A string in quotes. -/
def quote (s : String) : String := String.ofList (quoteChars s)

/-- A value that has no parts. Numbers without a decimal form are written as `null`. -/
def scalarText : Json → String
  | .null => "null"
  | .bool true => "true"
  | .bool false => "false"
  | .int n => toString n
  | .real d => if d.isFinite then interchange.render d else "null"
  | .str s => quote s
  | .arr _ => "[]"
  | .obj _ => "\x7b\x7d"

mutual

/-- The text of a value without gaps. -/
def compact : Json → String
  | .arr items => "[" ++ compactItems items ++ "]"
  | .obj members => "\x7b" ++ compactMembers members ++ "\x7d"
  | v => scalarText v

/-- Items separated by commas. -/
def compactItems : List Json → String
  | [] => ""
  | [v] => compact v
  | v :: rest => compact v ++ "," ++ compactItems rest

/-- Members separated by commas. -/
def compactMembers : List (String × Json) → String
  | [] => ""
  | [(k, v)] => quote k ++ ":" ++ compact v
  | (k, v) :: rest => quote k ++ ":" ++ compact v ++ "," ++ compactMembers rest

end

/-- A new line at a level. -/
def newLine (level : Nat) : String :=
  String.ofList ('\n' :: List.replicate (2 * level) ' ')

mutual

/-- The text of a value that starts at a level, parts on lines of their own. -/
def prettyAt (level : Nat) : Json → String
  | .arr [] => "[]"
  | .arr items => "[" ++ prettyItems (level + 1) items ++ newLine level ++ "]"
  | .obj [] => "\x7b\x7d"
  | .obj members => "\x7b" ++ prettyMembers (level + 1) members ++ newLine level ++ "\x7d"
  | v => scalarText v

/-- Items, each on its line. -/
def prettyItems (level : Nat) : List Json → String
  | [] => ""
  | [v] => newLine level ++ prettyAt level v
  | v :: rest => newLine level ++ prettyAt level v ++ "," ++ prettyItems level rest

/-- Members, each on its line. -/
def prettyMembers (level : Nat) : List (String × Json) → String
  | [] => ""
  | [(k, v)] => newLine level ++ quote k ++ ": " ++ prettyAt level v
  | (k, v) :: rest =>
    newLine level ++ quote k ++ ": " ++ prettyAt level v ++ "," ++ prettyMembers level rest

end

/-- The text of a value over several lines. -/
def pretty (v : Json) : String := prettyAt 0 v

end Strata.Json
