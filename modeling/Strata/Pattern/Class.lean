import Strata.Unicode.CharSet
import Strata.Unicode.Category
import Strata.Unicode.Script
import Strata.Unicode.ScriptExtension
import Strata.Unicode.Property
import Strata.Unicode.Age
import Strata.Unicode.Segmentation
import Strata.Unicode.CaseFold
import Strata.Pattern.Tree

/-!
# Character classes

The sets that classes of a pattern denote. Names of properties and values are compared loosely:
letter case, spaces, hyphens, underscores and a leading `is` do not matter.
-/

namespace Strata.Pattern

open Strata.Unicode

/-! ## Case folding -/

/-- The classes of characters that differ in case only. -/
def foldClasses : List (List Nat) :=
  (CharSet.words foldClassText).map fun group =>
    (group.splitOn ",").map fun word => CharSet.hexNumber word.toList

/-- The set with every character that differs from one of its members in case only. -/
def foldCase (s : CharSet) : CharSet :=
  let added := foldClasses.flatMap fun group => if group.any s.holds then group else []
  CharSet.ofRanges (s.ranges ++ added.map fun n => ⟨n, n⟩)

/-- Whether a character has others that differ from it in case only. -/
def hasCases (c : Char) : Bool := foldClasses.any fun group => group.contains c.toNat

/-- The letters of ASCII in both cases. -/
def foldAscii (s : CharSet) : CharSet :=
  CharSet.ofRanges (s.ranges ++
    ((CharSet.inter s (CharSet.between 0x41 0x5a)).ranges.map fun r => ⟨r.lo + 32, r.hi + 32⟩) ++
    ((CharSet.inter s (CharSet.between 0x61 0x7a)).ranges.map fun r => ⟨r.lo - 32, r.hi - 32⟩))

/-! ## Named classes -/

/-- A name without what does not matter in it. -/
def looseName (name : String) : String :=
  let cs := name.toList
  let (starts, cs) := match cs with
    | a :: b :: rest =>
      if (a = 'i' ∨ a = 'I') ∧ (b = 's' ∨ b = 'S') then (true, rest) else (false, a :: b :: rest)
    | cs => (false, cs)
  let kept := (cs.filter fun c => c != ' ' && c != '_' && c != '-' && c.toNat < 0x80).map
    Char.toLower
  if starts && kept == ['c'] then "isc" else String.ofList kept

/-- The groups of categories: names, and the categories in the group. -/
def categoryGroups : List (List String × List String) :=
  [(["c", "other"], ["cc", "cf", "cn", "co"]),
   (["l", "letter"], ["ll", "lm", "lo", "lt", "lu"]),
   (["lc", "casedletter"], ["ll", "lt", "lu"]),
   (["m", "mark", "combiningmark"], ["mc", "me", "mn"]),
   (["n", "number"], ["nd", "nl", "no"]),
   (["p", "punctuation", "punct"], ["pc", "pd", "pe", "pf", "pi", "po", "ps"]),
   (["s", "symbol"], ["sc", "sk", "sm", "so"]),
   (["z", "separator"], ["zl", "zp", "zs"])]

/-- A general category or a group of them. -/
def category? (name : String) : Option CharSet :=
  if name = "any" then some CharSet.all
  else if name = "ascii" then some CharSet.ascii
  else if name = "assigned" then (CharSet.ofTable? categories "cn").map CharSet.complement
  else match categoryGroups.find? fun row => row.1.contains name with
    | some row => some <| CharSet.ofRanges <|
        row.2.flatMap fun k => ((CharSet.ofTable? categories k).getD .empty).ranges
    | none => CharSet.ofTable? categories name

/-- The characters assigned up to a version of the standard. -/
def age? (name : String) : Option CharSet :=
  let later := ages.dropWhile fun row => !row.1.contains name
  if later.isEmpty then none
  else
    let rows := ages.take (ages.length - later.length + 1)
    some (CharSet.ofRanges (rows.flatMap fun row => (CharSet.ofSteps row.2).ranges))

/-- The characters for which a property has a value. -/
def valued? (property value : String) : Option CharSet :=
  if property = "gc" ∨ property = "generalcategory" then category? value
  else if property = "sc" ∨ property = "script" then CharSet.ofTable? scripts value
  else if property = "scx" ∨ property = "scriptextensions" then
    (CharSet.ofTable? scriptExtensions value).orElse fun _ => CharSet.ofTable? scripts value
  else if property = "age" then age? value
  else if property = "gcb" ∨ property = "graphemeclusterbreak" then
    CharSet.ofTable? graphemeBreaks value
  else if property = "wb" ∨ property = "wordbreak" then CharSet.ofTable? wordBreaks value
  else if property = "sb" ∨ property = "sentencebreak" then CharSet.ofTable? sentenceBreaks value
  else none

/-- The names that would also name a property but mean a category. -/
def categoryFirst : List String := ["cf", "sc", "lc"]

/-- The characters that a name denotes: those with a property, or of a category, or of a script. -/
def bare? (name : String) : Option CharSet :=
  let property := if categoryFirst.contains name then none else CharSet.ofTable? properties name
  (property.orElse fun _ => category? name).orElse fun _ => CharSet.ofTable? scripts name

/-- The characters that a name of a pattern denotes. -/
def PropertyName.set? : PropertyName → Option CharSet
  | bare name => bare? (looseName name)
  | valued property value => valued? (looseName property) (looseName value)

/-! ## Classes with letters of their own -/

/-- The decimal digits of Unicode. -/
def digitSet : CharSet := (CharSet.ofTable? categories "nd").getD .empty

/-- The blanks of Unicode. -/
def spaceSet : CharSet := (CharSet.ofTable? properties "whitespace").getD .empty

/-- The characters of words: letters, marks, decimal digits, connectors and joiners. -/
def wordSet : CharSet :=
  CharSet.ofRanges <|
    ((CharSet.ofTable? properties "alphabetic").getD .empty).ranges ++
      ((CharSet.ofTable? properties "joincontrol").getD .empty).ranges ++
        (["mc", "me", "mn", "nd", "pc"].flatMap fun k =>
          ((CharSet.ofTable? categories k).getD .empty).ranges)

/-- The set of ASCII characters in given ranges. -/
def asciiSet (pairs : List (Char × Char)) : CharSet :=
  CharSet.ofRanges (pairs.map fun p => ⟨p.1.toNat, p.2.toNat⟩)

/-- The characters of words in ASCII. -/
def asciiWordSet : CharSet := asciiSet [('0', '9'), ('A', 'Z'), ('_', '_'), ('a', 'z')]

/-- The set of a class with a letter of its own, of Unicode or of ASCII alone. -/
def LetterClass.set (unicode : Bool) : LetterClass → CharSet
  | digit => if unicode then digitSet else asciiSet [('0', '9')]
  | space => if unicode then spaceSet else asciiSet [('\t', '\r'), (' ', ' ')]
  | word => if unicode then wordSet else asciiWordSet

/-- The set of a class between colons. -/
def posixSet (name : String) : CharSet :=
  if name = "alnum" then asciiSet [('0', '9'), ('A', 'Z'), ('a', 'z')]
  else if name = "alpha" then asciiSet [('A', 'Z'), ('a', 'z')]
  else if name = "ascii" then asciiSet [('\x00', '\x7f')]
  else if name = "blank" then asciiSet [('\t', '\t'), (' ', ' ')]
  else if name = "cntrl" then asciiSet [('\x00', '\x1f'), ('\x7f', '\x7f')]
  else if name = "digit" then asciiSet [('0', '9')]
  else if name = "graph" then asciiSet [('!', '~')]
  else if name = "lower" then asciiSet [('a', 'z')]
  else if name = "print" then asciiSet [(' ', '~')]
  else if name = "punct" then asciiSet [('!', '/'), (':', '@'), ('[', '\x60'), ('\x7b', '~')]
  else if name = "space" then asciiSet [('\t', '\r'), (' ', ' ')]
  else if name = "upper" then asciiSet [('A', 'Z')]
  else if name = "word" then asciiWordSet
  else if name = "xdigit" then asciiSet [('0', '9'), ('A', 'F'), ('a', 'f')]
  else CharSet.empty

end Strata.Pattern
