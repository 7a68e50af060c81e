import Strata.Pattern.Reader
import Strata.Pattern.Class
import Strata.Pattern.Expr

/-!
# The meaning of a pattern

`Tree.meaning` applies flags and looks up classes. Flags hold from their directive to the end of the
group, over the bars between its branches; a group gives back the flags it was opened with. Letters
that match in either case become the class of their cases. Without Unicode the classes of a pattern
hold ASCII alone, since anything else could match a part of a character, and other characters have
one case.
-/

namespace Strata.Pattern

open Strata.Unicode

/-- The flags in force. -/
structure Flags where
  ignoreCase : Bool
  multiLine : Bool := false
  dotAll : Bool := false
  swapGreed : Bool := false
  unicode : Bool := true
  crlf : Bool := false
  deriving DecidableEq, Repr

/-- The flags after a change. -/
def Flags.update (f : Flags) (change : FlagChange) : Flags where
  ignoreCase := change.apply .ignoreCase f.ignoreCase
  multiLine := change.apply .multiLine f.multiLine
  dotAll := change.apply .dotAll f.dotAll
  swapGreed := change.apply .swapGreed f.swapGreed
  unicode := change.apply .unicode f.unicode
  crlf := change.apply .crlf f.crlf

/-! ## Classes -/

/-- The members of a class and, if case does not matter, their other cases. -/
def Flags.fold (f : Flags) (s : CharSet) : CharSet :=
  if f.ignoreCase then (if f.unicode then foldCase s else foldAscii s) else s

/-- The class, or its complement; without Unicode there is no complement in ASCII. -/
def Flags.negate (f : Flags) (negated : Bool) (s : CharSet) : Except PatternError CharSet :=
  if !negated then .ok s
  else if f.unicode then .ok s.complement
  else .error .notText

/-- A character as a member of a class. -/
def Flags.member (f : Flags) (l : Literal) : Except PatternError Nat :=
  if f.unicode ∨ l.char.toNat < 0x80 then .ok l.char.toNat
  else if l.byte then .error .notText
  else .error .needsUnicode

/-- A class with a letter of its own; it has all cases of its members. -/
def Flags.letter (f : Flags) (c : LetterClass) (negated : Bool) : Except PatternError CharSet :=
  f.negate negated (c.set f.unicode)

/-- The class of a property. -/
def Flags.property (f : Flags) (name : PropertyName) (negated : Bool) :
    Except PatternError CharSet :=
  if !f.unicode then .error .needsUnicode
  else match name.set? with
    | none => .error .unknownProperty
    | some s => f.negate negated (f.fold s)

/-- Two classes combined. -/
def ClassOperator.apply : ClassOperator → CharSet → CharSet → CharSet
  | intersection, s, t => s.inter t
  | difference, s, t => s.diff t
  | symmetricDifference, s, t => s.symmDiff t

mutual

/-- The set that a class denotes. -/
def ClassTree.set (f : Flags) : ClassTree → Except PatternError CharSet
  | .empty => .ok CharSet.empty
  | .literal l => (f.member l).map CharSet.singleton
  | .range lo hi => (f.member lo).bind fun a => (f.member hi).map fun b => CharSet.between a b
  | .posix name negated => f.negate negated (f.fold (posixSet name))
  | .letter c negated => f.letter c negated
  | .property name negated => f.property name negated
  | .bracket negated inner => (ClassTree.set f inner).bind fun s => f.negate negated (f.fold s)
  | .union members => (ClassTree.setOfAll f members).map CharSet.ofRanges
  | .combine op left right =>
    (ClassTree.set f left).bind fun s =>
      (ClassTree.set f right).map fun t => op.apply (f.fold s) (f.fold t)

/-- The ranges of all members. -/
def ClassTree.setOfAll (f : Flags) : List ClassTree → Except PatternError (List Range)
  | [] => .ok []
  | m :: rest =>
    (ClassTree.set f m).bind fun s =>
      (ClassTree.setOfAll f rest).map fun ranges => s.ranges ++ ranges

end

/-! ## Patterns -/

/-- What a character means. -/
def Flags.literal (f : Flags) (l : Literal) : Except PatternError Expr :=
  if !f.unicode ∧ l.byte ∧ 0x7f < l.char.toNat then .error .notText
  else if !f.ignoreCase then .ok (.literal [l.char])
  else if f.unicode then
    .ok (if hasCases l.char then .ofSet true (foldCase (CharSet.singleton l.char.toNat))
      else .literal [l.char])
  else if l.char.toNat < 0x80 then .ok (.ofSet false (foldAscii (CharSet.singleton l.char.toNat)))
  else .ok (.literal [l.char])

/-- What the dot means. -/
def Flags.dot (f : Flags) : Except PatternError Expr :=
  if !f.unicode then .error .notText
  else if f.dotAll then .ok (.set true CharSet.all)
  else if f.crlf then
    .ok (.set true (CharSet.ofRanges [⟨0x0a, 0x0a⟩, ⟨0x0d, 0x0d⟩]).complement)
  else .ok (.set true (CharSet.singleton 0x0a).complement)

/-- What an assertion means. -/
def Flags.assertion (f : Flags) : Assertion → Look
  | .lineStart => if !f.multiLine then .textStart else if f.crlf then .lineStartCrlf else .lineStart
  | .lineEnd => if !f.multiLine then .textEnd else if f.crlf then .lineEndCrlf else .lineEnd
  | .textStart => .textStart
  | .textEnd => .textEnd
  | .word edge => .word edge f.unicode

mutual

/-- What a pattern means under the flags before it, and the flags after it. -/
def Tree.meaning (f : Flags) : Tree → Except PatternError (Expr × Flags)
  | .empty => .ok (.empty, f)
  | .directive change => .ok (.empty, f.update change)
  | .literal l => (f.literal l).map fun e => (e, f)
  | .dot => f.dot.map fun e => (e, f)
  | .assertion a => .ok (.look (f.assertion a), f)
  | .letter c negated => (f.letter c negated).map fun s => (.ofSet f.unicode s, f)
  | .property name negated => (f.property name negated).map fun s => (.ofSet f.unicode s, f)
  | .bracket negated inner =>
    ((ClassTree.set f inner).bind fun s => f.negate negated (f.fold s)).map
      fun s => (.ofSet f.unicode s, f)
  | .repetition sub least most greedy =>
    (Tree.meaning f sub).map fun (e, f) => (.repeated e least most (greedy != f.swapGreed), f)
  | .group (.capture i) sub => (Tree.meaning f sub).map fun (e, _) => (.capture i e, f)
  | .group (.scoped change) sub => (Tree.meaning (f.update change) sub).map fun (e, _) => (e, f)
  | .concat items => (Tree.meaningOfAll f items).map fun (es, f) => (.sequence es, f)
  | .alternation branches => (Tree.meaningOfAll f branches).map fun (es, f) => (.choice es, f)

/-- What items mean one after the other, and the flags after them. -/
def Tree.meaningOfAll (f : Flags) : List Tree → Except PatternError (List Expr × Flags)
  | [] => .ok ([], f)
  | t :: rest =>
    (Tree.meaning f t).bind fun (e, f) =>
      (Tree.meaningOfAll f rest).map fun (es, f) => (e :: es, f)

end

/-- Reads a pattern and what it means. -/
def Expr.read (text : String) (ignoreCase : Bool) : Except PatternError Expr :=
  (Tree.read text).bind fun t => (Tree.meaning { ignoreCase := ignoreCase } t).map
    fun (e, _) => e

end Strata.Pattern
