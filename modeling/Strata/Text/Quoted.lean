import Strata.Text.Hex
import Strata.Unicode.CharSet
import Strata.Unicode.Category
import Strata.Unicode.Property
import Strata.Unicode.Additions

/-!
# Quoted text in messages

A message shows a text that was not understood in double quotes. Quotes, backslashes and the common
control characters have short escapes; every other character that does not show on its own
(controls, formats, separators other than the space, private and unassigned values, fillers, and
marks that attach to the character before them) is shown by its number.
-/

namespace Strata.Text.Quoted

open Strata.Unicode

/-- The categories whose characters do not show. -/
def hiddenCategories : List String := ["cc", "cf", "cn", "co", "zl", "zp", "zs"]

/-- The properties whose characters do not show on their own. -/
def hiddenProperties : List String := ["graphemeextend", "defaultignorablecodepoint"]

/-- The characters that show all the same: the sound marks of half width, which take a place of
their own, and what the newest version adds. -/
def visible : CharSet :=
  (CharSet.between 0xff9e 0xff9f).union ((CharSet.ofTable? additions "visible").getD .empty)

/-- The characters that need their number to be seen. -/
def hidden : CharSet :=
  (CharSet.ofRanges <|
    (hiddenCategories.flatMap fun k => ((CharSet.ofTable? categories k).getD .empty).ranges) ++
      hiddenProperties.flatMap fun k =>
        ((CharSet.ofTable? properties k).getD .empty).ranges).diff visible

/-- Whether a character needs its number to be seen. -/
def isHidden (c : Char) : Bool :=
  !(0x20 ≤ c.toNat && c.toNat < 0x7f) && hidden.contains c

/-- The characters that show `c` between quotes. -/
def escape (c : Char) : List Char :=
  if c = '"' then ['\\', '"']
  else if c = '\\' then ['\\', '\\']
  else if c = '\n' then ['\\', 'n']
  else if c = '\r' then ['\\', 'r']
  else if c = '\t' then ['\\', 't']
  else if c.toNat = 0 then ['\\', '0']
  else if isHidden c then ['\\', 'u', '\x7b'] ++ (Hex.ofNat c.toNat).toList ++ ['\x7d']
  else [c]

/-- The text in quotes. -/
def quote (s : String) : String :=
  String.ofList ('"' :: (s.toList.flatMap escape ++ ['"']))

end Strata.Text.Quoted
