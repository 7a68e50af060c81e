/-!
# Patterns as written

The tree of a pattern follows its text: groups, repetitions, classes and flag directives are where
the text has them, and nothing is interpreted yet. `Tree.depth` measures nesting, which is limited.
-/

namespace Strata.Pattern

/-- Why a text is no pattern. -/
inductive PatternError where
  | unclosedGroup
  | unopenedGroup
  | lookAround
  | groupName
  | flags
  | nothingToRepeat
  | repetition
  | escape
  | backreference
  | classUnclosed
  | classMember
  | classRange
  | nesting
  | unknownProperty
  | needsUnicode
  | notText
  | tooLarge
  deriving DecidableEq, Repr

/-- The wording of a reason. -/
def PatternError.message : PatternError → String
  | unclosedGroup => "unclosed group"
  | unopenedGroup => "unopened group"
  | lookAround => "look-around is not supported"
  | groupName => "invalid or repeated group name"
  | flags => "invalid flags"
  | nothingToRepeat => "repetition operator missing expression"
  | repetition => "invalid repetition count"
  | escape => "unrecognized escape sequence"
  | backreference => "backreferences are not supported"
  | classUnclosed => "unclosed character class"
  | classMember => "invalid member of a character class"
  | classRange => "invalid character class range"
  | nesting => "nesting too deep"
  | unknownProperty => "unknown character property"
  | needsUnicode => "not allowed without the unicode flag"
  | notText => "could match text that is not valid"
  | tooLarge => "compiled size exceeds the limit"

/-- The flags of a pattern. -/
inductive Flag where
  /-- `i`: letters match in either case -/
  | ignoreCase
  /-- `m`: line anchors match at line ends -/
  | multiLine
  /-- `s`: the dot matches line feeds -/
  | dotAll
  /-- `U`: greed is swapped -/
  | swapGreed
  /-- `u`: classes are those of Unicode -/
  | unicode
  /-- `R`: carriage return and line feed end a line together -/
  | crlf
  /-- `x`: blanks and comments are skipped -/
  | spaced
  deriving DecidableEq, Repr

/-- Flags to turn on and off. -/
structure FlagChange where
  on : List Flag
  off : List Flag
  deriving DecidableEq, Repr, Inhabited

/-- What a change makes of a flag. -/
def FlagChange.apply (change : FlagChange) (flag : Flag) (current : Bool) : Bool :=
  if change.on.contains flag then true
  else if change.off.contains flag then false
  else current

/-- The classes with letters of their own. -/
inductive LetterClass where
  | digit
  | space
  | word
  deriving DecidableEq, Repr

/-- A class of Unicode by the name of a property, or of a property and one of its values. -/
inductive PropertyName where
  | bare (name : String)
  | valued (property value : String)
  deriving DecidableEq, Repr

/-- The edges of words that can be asserted. -/
inductive WordEdge where
  | boundary
  | notBoundary
  | start
  | stop
  | startHalf
  | stopHalf
  deriving DecidableEq, Repr

/-- What can be asserted of a place in a text. -/
inductive Assertion where
  | lineStart
  | lineEnd
  | textStart
  | textEnd
  | word (edge : WordEdge)
  deriving DecidableEq, Repr

/-- A character, and whether it is written as a byte of two hexadecimal digits. -/
structure Literal where
  char : Char
  byte : Bool
  deriving DecidableEq, Repr, Inhabited

/-- How two classes are combined. -/
inductive ClassOperator where
  | intersection
  | difference
  | symmetricDifference
  deriving DecidableEq, Repr

/-- What stands between brackets. -/
inductive ClassTree where
  | empty
  | literal (l : Literal)
  | range (lo hi : Literal)
  | posix (name : String) (negated : Bool)
  | letter (c : LetterClass) (negated : Bool)
  | property (name : PropertyName) (negated : Bool)
  | bracket (negated : Bool) (inner : ClassTree)
  | union (members : List ClassTree)
  | combine (op : ClassOperator) (left right : ClassTree)
  deriving Inhabited

/-- What a group is for. -/
inductive GroupKind where
  /-- remembers its match, under a number -/
  | capture (index : Nat)
  /-- changes flags inside -/
  | scoped (change : FlagChange)
  deriving DecidableEq, Repr

/-- A pattern as written. -/
inductive Tree where
  | empty
  | directive (change : FlagChange)
  | literal (l : Literal)
  | dot
  | assertion (a : Assertion)
  | letter (c : LetterClass) (negated : Bool)
  | property (name : PropertyName) (negated : Bool)
  | bracket (negated : Bool) (inner : ClassTree)
  | repetition (sub : Tree) (least : Nat) (most : Option Nat) (greedy : Bool)
  | group (kind : GroupKind) (sub : Tree)
  | concat (items : List Tree)
  | alternation (branches : List Tree)
  deriving Inhabited

/-- Members as one member. -/
def ClassTree.ofMembers : List ClassTree → ClassTree
  | [] => empty
  | [m] => m
  | ms => union ms

/-- Items as one pattern. -/
def Tree.ofItems : List Tree → Tree
  | [] => empty
  | [t] => t
  | ts => concat ts

/-- Branches as one pattern. -/
def Tree.ofBranches : List Tree → Tree
  | [] => empty
  | [t] => t
  | ts => alternation ts

mutual

/-- How deep brackets, unions and combinations nest. -/
def ClassTree.depth : ClassTree → Nat
  | .bracket _ inner => inner.depth + 1
  | .union members => ClassTree.depthOfAll members + 1
  | .combine _ left right => max left.depth right.depth + 1
  | _ => 0

/-- The greatest depth of members. -/
def ClassTree.depthOfAll : List ClassTree → Nat
  | [] => 0
  | m :: rest => max m.depth (ClassTree.depthOfAll rest)

end

mutual

/-- How deep groups, repetitions, sequences, alternatives and brackets nest. -/
def Tree.depth : Tree → Nat
  | .bracket _ inner => inner.depth + 1
  | .repetition sub _ _ _ => sub.depth + 1
  | .group _ sub => sub.depth + 1
  | .concat items => Tree.depthOfAll items + 1
  | .alternation branches => Tree.depthOfAll branches + 1
  | _ => 0

/-- The greatest depth of items. -/
def Tree.depthOfAll : List Tree → Nat
  | [] => 0
  | t :: rest => max t.depth (Tree.depthOfAll rest)

end

/-- How deep a pattern may nest. -/
def maxDepth : Nat := 250

end Strata.Pattern
