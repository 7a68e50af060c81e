import Strata.Pattern.Tree
import Strata.Text.Numeral
import Strata.Text.Basic
import Strata.Text.Hex
import Strata.Unicode.Additions
import Strata.Unicode.Category
import Strata.Unicode.CharSet
import Strata.Unicode.Property

/-!
# Reading patterns

A recursive reader for the pattern language. Every step takes at least one character, so a bound of
the text's length on the depth of the recursion is never reached; the bound is the first argument of
the two loops. While the flag `x` is on, blanks and comments between the parts of a pattern are
skipped; the flag is part of the reader's state because a directive changes it for the text that
follows up to the end of the group.
-/

namespace Strata.Pattern

open Strata.Text Strata.Unicode

/-- Where the reader is. -/
structure Place where
  rest : List Char
  /-- whether blanks and comments are skipped -/
  spaced : Bool
  /-- the number of the next capturing group -/
  nextGroup : Nat
  /-- the names of groups given so far -/
  names : List String

/-! ## Blanks and comments -/

/-- Drops blanks and comments; a comment runs from a hash sign to the end of its line. -/
def dropSpace (inComment : Bool) : List Char → List Char
  | [] => []
  | c :: cs =>
    if inComment then dropSpace (c != '\n') cs
    else if isBlank c then dropSpace false cs
    else if c = '#' then dropSpace true cs
    else c :: cs

/-- Skips blanks and comments where that is asked for. -/
def Place.skip (p : Place) : Place :=
  if p.spaced then { p with rest := dropSpace false p.rest } else p

/-- The place with another rest. -/
def Place.at (p : Place) (rest : List Char) : Place := { p with rest := rest }

/-- The place with another rest, blanks and comments skipped. -/
def Place.next (p : Place) (rest : List Char) : Place := (p.at rest).skip

/-! ## Escapes -/

/-- The characters that mean something in patterns. -/
def isMeta (c : Char) : Bool :=
  ['\\', '.', '+', '*', '?', '(', ')', '|', '[', ']', '\x7b', '\x7d', '^', '$', '#', '&', '-',
   '~'].contains c

/-- The characters that stand for themselves behind a backslash. -/
def isEscapable (c : Char) : Bool :=
  isMeta c || (c.toNat < 0x80 && !c.isAlphanum && c != '<' && c != '>')

/-- What an escape or a single character denotes. -/
inductive Primitive where
  | literal (l : Literal)
  | letter (c : LetterClass) (negated : Bool)
  | property (name : PropertyName) (negated : Bool)
  | assertion (a : Assertion)

/-- The character with a number. -/
def scalar? (n : Nat) : Option Char :=
  if n < 0xd800 ∨ (0xdfff < n ∧ n ≤ 0x10ffff) then some (Char.ofNat n) else none

/-- Exactly `n` hexadecimal digits, each put behind `acc`. -/
def hexDigits (p : Place) : Nat → Nat → Except PatternError (Nat × Place)
  | 0, acc => .ok (acc, p)
  | n + 1, acc =>
    match p.rest with
    | [] => .error .escape
    | c :: rest =>
      match Hex.digitValue? c with
      | none => .error .escape
      | some d => hexDigits (p.next rest) n (16 * acc + d)

/-- Hexadecimal digits up to a closing brace; the first argument bounds them. -/
def hexBraced : Nat → Place → List Nat → Except PatternError (List Nat × Place)
  | 0, _, _ => .error .escape
  | n + 1, p, acc =>
    match p.rest with
    | [] => .error .escape
    | c :: rest =>
      if c = '\x7d' then .ok (acc.reverse, p.next rest)
      else match Hex.digitValue? c with
        | none => .error .escape
        | some d => hexBraced n (p.next rest) (d :: acc)

/-- The character that a hexadecimal escape denotes; `kind` is its letter. -/
def hexEscape (kind : Char) (p : Place) : Except PatternError (Primitive × Place) :=
  match p.rest with
  | [] => .error .escape
  | c :: rest =>
    if c = '\x7b' then
      match hexBraced (rest.length + 1) (p.next rest) [] with
      | .error e => .error e
      | .ok (ds, p) =>
        if ds.isEmpty then .error .escape
        else match scalar? (ds.foldl (fun n d => 16 * n + d) 0) with
          | none => .error .escape
          | some c => .ok (.literal ⟨c, false⟩, p)
    else
      let count := if kind = 'x' then 2 else if kind = 'u' then 4 else 8
      match hexDigits p count 0 with
      | .error e => .error e
      | .ok (n, p) =>
        match scalar? n with
        | none => .error .escape
        | some c => .ok (.literal ⟨c, kind == 'x'⟩, p)

/-- Cuts a row of characters at the first occurrence of another. -/
def cutAt (sep : List Char) : List Char → Option (List Char × List Char)
  | [] => none
  | c :: cs =>
    if sep.isPrefixOf (c :: cs) then some ([], (c :: cs).drop sep.length)
    else (cutAt sep cs).map fun r => (c :: r.1, r.2)

/-- The property that a text between braces names. The mark `!=` between property and value means
the same as `=`. -/
def propertyName (name : List Char) : PropertyName :=
  let parts := ((cutAt ['!', '='] name).or (cutAt [':'] name)).or (cutAt ['='] name)
  match parts with
  | some (p, v) => .valued (String.ofList p) (String.ofList v)
  | none => .bare (String.ofList name)

/-- The characters up to a closing brace; the first argument bounds them. -/
def braced : Nat → Place → List Char → Except PatternError (List Char × Place)
  | 0, _, _ => .error .escape
  | n + 1, p, acc =>
    match p.rest with
    | [] => .error .escape
    | c :: rest =>
      if c = '\x7d' then .ok (acc.reverse, p.at rest) else braced n (p.next rest) (c :: acc)

/-- A class named by a property: one letter, or a name between braces. -/
def propertyEscape (negated : Bool) (p : Place) : Except PatternError (Primitive × Place) :=
  match p.rest with
  | [] => .error .escape
  | c :: rest =>
    if c = '\x7b' then
      match braced (rest.length + 1) (p.next rest) [] with
      | .error e => .error e
      | .ok (name, p) => .ok (.property (propertyName name) negated, p)
    else if c = '\\' then .error .escape
    else .ok (.property (.bare (String.ofList [c])) negated, p.next rest)

/-- A letter of the name of a word edge. -/
def isEdgeLetter (c : Char) : Bool := c.isAlpha || c == '-'

/-- The letters of the name of a word edge; the first argument bounds them. -/
def edgeLetters : Nat → Place → List Char → List Char × Place
  | 0, p, acc => (acc.reverse, p)
  | n + 1, p, acc =>
    match p.rest with
    | [] => (acc.reverse, p)
    | c :: rest =>
      if isEdgeLetter c then edgeLetters n (p.next rest) (c :: acc) else (acc.reverse, p)

/-- The word edge named between braces, or none if the braces hold a count. -/
def edgeName? (p : Place) (rest : List Char) : Except PatternError (Option (WordEdge × Place)) :=
  let inside := p.next rest
  match inside.rest with
  | [] => .error .escape
  | c :: _ =>
    if !isEdgeLetter c then .ok none
    else
      let (name, p) := edgeLetters inside.rest.length inside []
      match p.rest with
      | '\x7d' :: rest =>
        let name := String.ofList name
        if name = "start" then .ok (some (.start, p.at rest))
        else if name = "end" then .ok (some (.stop, p.at rest))
        else if name = "start-half" then .ok (some (.startHalf, p.at rest))
        else if name = "end-half" then .ok (some (.stopHalf, p.at rest))
        else .error .escape
      | _ => .error .escape

/-- A word boundary, or the edge that is named behind it. -/
def wordEdge (p : Place) : Except PatternError (Primitive × Place) :=
  match p.rest with
  | '\x7b' :: rest =>
    match edgeName? p rest with
    | .error e => .error e
    | .ok none => .ok (.assertion (.word .boundary), p)
    | .ok (some (edge, p)) => .ok (.assertion (.word edge), p)
  | _ => .ok (.assertion (.word .boundary), p)

/-- The characters with escapes of one letter. -/
def controlEscape? (c : Char) : Option Char :=
  if c = 'a' then some '\x07'
  else if c = 'f' then some '\x0c'
  else if c = 't' then some '\t'
  else if c = 'n' then some '\n'
  else if c = 'r' then some '\r'
  else if c = 'v' then some '\x0b'
  else none

/-- The classes with escapes of one letter. -/
def letterEscape? (c : Char) : Option (LetterClass × Bool) :=
  if c = 'd' then some (.digit, false)
  else if c = 'D' then some (.digit, true)
  else if c = 's' then some (.space, false)
  else if c = 'S' then some (.space, true)
  else if c = 'w' then some (.word, false)
  else if c = 'W' then some (.word, true)
  else none

/-- What follows a backslash. -/
def escape (p : Place) : Except PatternError (Primitive × Place) :=
  match p.rest with
  | [] => .error .escape
  | c :: rest =>
    if c.isDigit then .error .backreference
    else if c = 'x' ∨ c = 'u' ∨ c = 'U' then hexEscape c (p.next rest)
    else if c = 'p' ∨ c = 'P' then propertyEscape (c == 'P') (p.next rest)
    else match letterEscape? c with
      | some (k, negated) => .ok (.letter k negated, p.at rest)
      | none =>
        if isEscapable c then .ok (.literal ⟨c, false⟩, p.at rest)
        else match controlEscape? c with
          | some d => .ok (.literal ⟨d, false⟩, p.at rest)
          | none =>
            if c = 'A' then .ok (.assertion .textStart, p.at rest)
            else if c = 'z' then .ok (.assertion .textEnd, p.at rest)
            else if c = 'b' then wordEdge (p.at rest)
            else if c = 'B' then .ok (.assertion (.word .notBoundary), p.at rest)
            else if c = '<' then .ok (.assertion (.word .start), p.at rest)
            else if c = '>' then .ok (.assertion (.word .stop), p.at rest)
            else .error .escape

/-! ## Classes -/

/-- The names of classes between colons. -/
def posixNames : List String :=
  ["alnum", "alpha", "ascii", "blank", "cntrl", "digit", "graph", "lower", "print", "punct",
   "space", "upper", "word", "xdigit"]

/-- A class between colons at a bracket: its name, whether it is negated, and what follows. -/
def posixClass? : List Char → Option (String × Bool × List Char)
  | '[' :: ':' :: rest =>
    let (negated, rest) := match rest with
      | '^' :: rest => (true, rest)
      | rest => (false, rest)
    match cutAt [':'] rest with
    | some (name, ']' :: rest) =>
      let name := String.ofList name
      if posixNames.contains name then some (name, negated, rest) else none
    | _ => none
  | _ => none

/-- One character or escape between brackets. -/
def classPrimitive (p : Place) : Except PatternError (Primitive × Place) :=
  match p.rest with
  | [] => .error .classUnclosed
  | '\\' :: rest => escape (p.at rest)
  | c :: rest => .ok (.literal ⟨c, false⟩, p.at rest)

/-- A primitive as a member of a class. -/
def Primitive.member : Primitive → Except PatternError ClassTree
  | .literal l => .ok (.literal l)
  | .letter c negated => .ok (.letter c negated)
  | .property name negated => .ok (.property name negated)
  | .assertion _ => .error .classMember

/-- A primitive as an end of a range. -/
def Primitive.rangeEnd : Primitive → Except PatternError Literal
  | .literal l => .ok l
  | _ => .error .classRange

/-- The character that decides what a hyphen means: the next one, or while blanks are skipped the
next one that is not blank. A hash sign is skipped like a blank, once, but the comment that it opens
is not. Where only blanks are left, the first of them decides. -/
def afterHyphen (p : Place) (rest : List Char) : Option Char :=
  if p.spaced then
    let seen := match rest.dropWhile isBlank with
      | '#' :: rest => rest.dropWhile isBlank
      | rest => rest
    seen.head?.or rest.head?
  else rest.head?

/-- Whether the hyphen at a place is one by itself: before a closing bracket or another hyphen. -/
def hyphenAlone (p : Place) (rest : List Char) : Bool :=
  match afterHyphen p rest with
  | some c => c == ']' || c == '-'
  | none => false

/-- A member of a class: one primitive, or a range between two. -/
def classRange (p : Place) : Except PatternError (ClassTree × Place) :=
  match classPrimitive p with
  | .error e => .error e
  | .ok (first, p) =>
    let p := p.skip
    match p.rest with
    | [] => .error .classUnclosed
    | c :: rest =>
      if c != '-' || hyphenAlone p rest then
        match first.member with
        | .error e => .error e
        | .ok m => .ok (m, p)
      else
        match classPrimitive (p.next rest) with
        | .error e => .error e
        | .ok (second, p) =>
          match first.rangeEnd, second.rangeEnd with
          | .ok lo, .ok hi =>
            if lo.char.toNat ≤ hi.char.toNat then .ok (.range lo hi, p) else .error .classRange
          | .error e, _ => .error e
          | _, .error e => .error e

/-- The operator of two equal characters at the front. -/
def classOperator? : List Char → Option (ClassOperator × List Char)
  | '&' :: '&' :: rest => some (.intersection, rest)
  | '-' :: '-' :: rest => some (.difference, rest)
  | '~' :: '~' :: rest => some (.symmetricDifference, rest)
  | _ => none

/-- The hyphens at the front of a class, which stand for themselves; the first argument bounds
them. -/
def leadingHyphens : Nat → Place → List ClassTree → List ClassTree × Place
  | 0, p, acc => (acc, p)
  | n + 1, p, acc =>
    match p.rest with
    | '-' :: rest => leadingHyphens n (p.next rest) (.literal ⟨'-', false⟩ :: acc)
    | _ => (acc, p)

/-- What follows an opening bracket: whether the class is negated, and the members that can only
stand in front (hyphens, or else a closing bracket), last first. -/
def classOpen (p : Place) : Except PatternError (Bool × List ClassTree × Place) :=
  let p := p.skip
  let (negated, p) := match p.rest with
    | '^' :: rest => (true, p.next rest)
    | _ => (false, p)
  let (hyphens, p) := leadingHyphens p.rest.length p []
  match hyphens, p.rest with
  | _, [] => .error .classUnclosed
  | [], ']' :: rest =>
    let p := p.next rest
    if p.rest.isEmpty then .error .classUnclosed
    else .ok (negated, [.literal ⟨']', false⟩], p)
  | members, _ => .ok (negated, members, p)

/-- An operand that waits for its right side. -/
abbrev PendingClass := Option (ClassOperator × ClassTree)

/-- Joins members with what waits for them. -/
def closeOperand (pending : PendingClass) (members : List ClassTree) : ClassTree :=
  let right := ClassTree.ofMembers members.reverse
  match pending with
  | none => right
  | some (op, left) => .combine op left right

/-- The members of a class up to its closing bracket; `members` holds those read since the last
operator, last first. -/
def classMembers :
    Nat → Place → PendingClass → List ClassTree → Except PatternError (ClassTree × Place)
  | 0, _, _, _ => .error .classUnclosed
  | n + 1, p, pending, members =>
    let p := p.skip
    match p.rest with
    | [] => .error .classUnclosed
    | ']' :: rest => .ok (closeOperand pending members, p.at rest)
    | '[' :: rest =>
      match posixClass? p.rest with
      | some (name, negated, rest) =>
        classMembers n (p.at rest) pending (.posix name negated :: members)
      | none =>
        match classOpen (p.at rest) with
        | .error e => .error e
        | .ok (negated, first, p) =>
          match classMembers n p none first with
          | .error e => .error e
          | .ok (inner, p) => classMembers n p pending (.bracket negated inner :: members)
    | _ =>
      match classOperator? p.rest with
      | some (op, rest) => classMembers n (p.at rest) (some (op, closeOperand pending members)) []
      | none =>
        match classRange p with
        | .error e => .error e
        | .ok (m, p) => classMembers n p pending (m :: members)

/-- A class after its opening bracket. -/
def bracketClass (p : Place) : Except PatternError (Tree × Place) :=
  match classOpen p with
  | .error e => .error e
  | .ok (negated, first, q) =>
    match classMembers (q.rest.length + 1) q none first with
    | .error e => .error e
    | .ok (inner, q) => .ok (.bracket negated inner, q)

/-! ## Groups -/

/-- The flag of a letter. -/
def flag? (c : Char) : Option Flag :=
  if c = 'i' then some .ignoreCase
  else if c = 'm' then some .multiLine
  else if c = 's' then some .dotAll
  else if c = 'U' then some .swapGreed
  else if c = 'u' then some .unicode
  else if c = 'R' then some .crlf
  else if c = 'x' then some .spaced
  else none

/-- The flags up to a colon or a closing parenthesis. Each may be named once, and a minus sign, of
which there may be one, is followed by a flag. The last two arguments hold the flags so far and
whether the minus has been seen; the result's last part is what follows. -/
def flagsUpTo : List Char → FlagChange → Bool → Bool →
    Except PatternError (FlagChange × List Char)
  | [], _, _, _ => .error .flags
  | c :: rest, change, minus, dangling =>
    if c = ':' ∨ c = ')' then
      if dangling then .error .flags else .ok (change, c :: rest)
    else if c = '-' then
      if minus then .error .flags else flagsUpTo rest change true true
    else match flag? c with
      | none => .error .flags
      | some f =>
        if change.on.contains f || change.off.contains f then .error .flags
        else if minus then flagsUpTo rest { change with off := f :: change.off } minus false
        else flagsUpTo rest { change with on := f :: change.on } minus false

/-- The letters of Unicode, those of the newest version included. -/
def letters : CharSet :=
  ((CharSet.ofTable? properties "alphabetic").getD .empty).union
    ((CharSet.ofTable? additions "alphabetic").getD .empty)

/-- The numbers of Unicode, those of the newest version included. -/
def numbers : CharSet :=
  ["nd", "nl", "no"].foldl (fun s k => s.union ((CharSet.ofTable? categories k).getD .empty))
    ((CharSet.ofTable? additions "number").getD .empty)

/-- Whether a character may stand in the name of a group. -/
def isNameChar (first : Bool) (c : Char) : Bool :=
  c == '_' || letters.contains c ||
    (!first && (c == '.' || c == '[' || c == ']' || numbers.contains c))

/-- The name of a group up to its closing angle bracket. -/
def groupName (p : Place) (rest : List Char) : Except PatternError (String × Place) :=
  match cutAt ['>'] rest with
  | none => .error .groupName
  | some ([], _) => .error .groupName
  | some (c :: cs, rest) =>
    let name := String.ofList (c :: cs)
    if isNameChar true c && cs.all (isNameChar false) && !p.names.contains name then
      .ok (name, { p with rest := rest, names := name :: p.names })
    else .error .groupName

/-- What an opening parenthesis begins. -/
inductive Opening where
  | directive (change : FlagChange)
  | group (kind : GroupKind)

/-- A capturing group at a place. -/
def Place.capture (p : Place) : Opening × Place :=
  (.group (.capture p.nextGroup), { p with nextGroup := p.nextGroup + 1 })

/-- What an opening parenthesis begins; the place is behind it. -/
def groupOpen (p : Place) : Except PatternError (Opening × Place) :=
  let p := p.skip
  match p.rest with
  | '?' :: '=' :: _ => .error .lookAround
  | '?' :: '!' :: _ => .error .lookAround
  | '?' :: '<' :: '=' :: _ => .error .lookAround
  | '?' :: '<' :: '!' :: _ => .error .lookAround
  | '?' :: 'P' :: '<' :: rest => (groupName p rest).map fun named => named.2.capture
  | '?' :: '<' :: rest => (groupName p rest).map fun named => named.2.capture
  | '?' :: rest =>
    match rest with
    | [] => .error .unclosedGroup
    | _ => do
      let (change, rest) ← flagsUpTo rest ⟨[], []⟩ false false
      match rest with
      | ')' :: rest =>
        if change.on.isEmpty && change.off.isEmpty then throw .nothingToRepeat
        return (.directive change, p.at rest)
      | _ => return (.group (.scoped change), p.at (rest.drop 1))
  | _ => .ok p.capture

/-! ## Repetitions -/

/-- The last item, which a repetition applies to, and the items before it. -/
def lastItem : List Tree → Except PatternError (Tree × List Tree)
  | [] => .error .nothingToRepeat
  | .directive _ :: _ => .error .nothingToRepeat
  | .empty :: _ => .error .nothingToRepeat
  | t :: items => .ok (t, items)

/-- The question mark that turns greed off. -/
def lazyMark (p : Place) : Bool × Place :=
  match p.rest with
  | '?' :: rest => (false, p.at rest)
  | _ => (true, p)

/-- Drops blanks. -/
def dropBlanks (cs : List Char) : List Char := cs.dropWhile isBlank

/-- Digits at a place, blanks and comments between them skipped where that is asked for; the first
argument bounds them. -/
def countDigits : Nat → Place → List Char → List Char × Place
  | 0, p, acc => (acc.reverse, p)
  | n + 1, p, acc =>
    match p.rest with
    | [] => (acc.reverse, p)
    | c :: rest =>
      if Numeral.isDigit c then countDigits n (p.next rest) (c :: acc) else (acc.reverse, p)

/-- Blanks at a place, comments skipped where that is asked for; the first argument bounds them. -/
def countBlanks : Nat → Place → Place
  | 0, p => p
  | n + 1, p =>
    match p.rest with
    | [] => p
    | c :: rest => if isBlank c then countBlanks n (p.next rest) else p

/-- A count of thirty-two bits, blanks around it allowed; none if there is no digit. -/
def count? (p : Place) : Except PatternError (Option Nat × Place) :=
  let p := p.at (dropBlanks p.rest)
  let (ds, p) := countDigits p.rest.length p []
  let p := countBlanks p.rest.length p
  if ds.isEmpty then .ok (none, p)
  else
    let n := Numeral.ofDigits ds
    if n < 2 ^ 32 then .ok (some n, p) else .error .repetition

/-- The bounds of a counted repetition after its opening brace, and the place of the closing one. -/
def countBounds (p : Place) : Except PatternError (Nat × Option Nat × Place) := do
  let p := p.skip
  if p.rest.isEmpty then throw .repetition
  let (least, p) ← count? p
  match least, p.rest with
  | some least, ',' :: rest =>
    let p := p.next rest
    match p.rest with
    | [] => throw .repetition
    | '\x7d' :: _ => return (least, none, p)
    | _ =>
      let (most, p) ← count? p
      match most with
      | some most => return (least, some most, p)
      | none => throw .repetition
  | some least, _ => return (least, some least, p)
  | none, _ => throw .repetition

/-- A counted repetition after its opening brace. -/
def counted (items : List Tree) (p : Place) : Except PatternError (List Tree × Place) := do
  let (t, items) ← lastItem items
  let (least, most, p) ← countBounds p
  match p.rest with
  | '\x7d' :: rest =>
    let (greedy, p) := lazyMark (p.next rest)
    match most with
    | some most => if most < least then throw .repetition
    | none => pure ()
    return (.repetition t least most greedy :: items, p)
  | _ => throw .repetition

/-- A repetition of one character, already passed. -/
def uncounted (items : List Tree) (least : Nat) (most : Option Nat) (p : Place) :
    Except PatternError (List Tree × Place) := do
  let (t, items) ← lastItem items
  let (greedy, p) := lazyMark p
  return (.repetition t least most greedy :: items, p)

/-! ## Patterns -/

/-- A primitive as an item. -/
def Primitive.item : Primitive → Tree
  | .literal l => .literal l
  | .letter c negated => .letter c negated
  | .property name negated => .property name negated
  | .assertion a => .assertion a

/-- One item that is neither a group nor a class nor a repetition. -/
def primitiveItem (c : Char) (rest : List Char) (p : Place) : Except PatternError (Tree × Place) :=
  if c = '\\' then (escape (p.at rest)).map fun r => (r.1.item, r.2)
  else if c = '.' then .ok (.dot, p.at rest)
  else if c = '^' then .ok (.assertion .lineStart, p.at rest)
  else if c = '$' then .ok (.assertion .lineEnd, p.at rest)
  else .ok (.literal ⟨c, false⟩, p.at rest)

/-- Branches and the items of the last one as a pattern; both lists are last first. -/
def closeBranches (branches : List Tree) (items : List Tree) : Tree :=
  Tree.ofBranches (Tree.ofItems items.reverse :: branches).reverse

/-- A pattern up to the closing parenthesis of its group or the end. `branches` holds the finished
branches and `items` the items of the present one, last first. -/
def branches : Nat → Place → List Tree → List Tree → Except PatternError (Tree × Place)
  | 0, _, _, _ => .error .nesting
  | n + 1, p, done, items =>
    let p := p.skip
    match p.rest with
    | [] => .ok (closeBranches done items, p)
    | c :: rest =>
      if c = ')' then .ok (closeBranches done items, p)
      else if c = '|' then branches n (p.at rest) (Tree.ofItems items.reverse :: done) []
      else if c = '(' then
        match groupOpen (p.at rest) with
        | .error e => .error e
        | .ok (.directive change, q) =>
          branches n { q with spaced := change.apply .spaced q.spaced } done
            (.directive change :: items)
        | .ok (.group kind, q) =>
          let inner := match kind with
            | .scoped change => { q with spaced := change.apply .spaced q.spaced }
            | .capture _ => q
          match branches n inner [] [] with
          | .error e => .error e
          | .ok (sub, r) =>
            match r.rest with
            | ')' :: rest =>
              branches n { r with rest := rest, spaced := q.spaced } done (.group kind sub :: items)
            | _ => .error .unclosedGroup
      else if c = '[' then
        match bracketClass (p.at rest) with
        | .error e => .error e
        | .ok (t, p) => branches n p done (t :: items)
      else
        let step : Except PatternError (List Tree × Place) :=
          if c = '?' then uncounted items 0 (some 1) (p.at rest)
          else if c = '*' then uncounted items 0 none (p.at rest)
          else if c = '+' then uncounted items 1 none (p.at rest)
          else if c = '\x7b' then counted items (p.at rest)
          else (primitiveItem c rest p).map fun r => (r.1 :: items, r.2)
        match step with
        | .error e => .error e
        | .ok (items, p) => branches n p done items

/-- Reads a pattern. -/
def Tree.read (text : String) : Except PatternError Tree :=
  let cs := text.toList
  match branches (cs.length + 1) ⟨cs, false, 1, []⟩ [] [] with
  | .error e => .error e
  | .ok (t, p) =>
    if !p.rest.isEmpty then .error .unopenedGroup
    else if maxDepth < t.depth then .error .nesting
    else .ok t

end Strata.Pattern
