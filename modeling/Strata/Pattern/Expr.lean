import Strata.Unicode.CharSet
import Strata.Pattern.Tree

/-!
# Expressions

What a pattern means, with flags and names gone: sets of characters, assertions, repetition,
sequence and choice. Expressions are built by the functions `ofSet`, `repeated`, `sequence` and
`choice`, which join what can be joined: neighbouring literals, nested sequences and choices,
choices among characters or among sets, and a common beginning of all branches.
-/

namespace Strata.Pattern

open Strata.Unicode

/-- What is asserted of a place, all flags applied. -/
inductive Look where
  | textStart
  | textEnd
  | lineStart
  | lineEnd
  /-- carriage return and line feed together end a line -/
  | lineStartCrlf
  | lineEndCrlf
  /-- an edge of a word, of Unicode or of ASCII characters -/
  | word (edge : WordEdge) (unicode : Bool)
  deriving DecidableEq, Repr

/-- The meaning of a pattern. -/
inductive Expr where
  | empty
  | literal (chars : List Char)
  /-- one character of a set, given as a set of Unicode or of ASCII characters -/
  | set (unicode : Bool) (s : CharSet)
  | look (l : Look)
  | repetition (sub : Expr) (least : Nat) (most : Option Nat) (greedy : Bool)
  | capture (index : Nat) (sub : Expr)
  | concat (items : List Expr)
  | alternation (branches : List Expr)
  deriving Inhabited

namespace Expr

mutual

/-- Equality of expressions. -/
def same : Expr → Expr → Bool
  | empty, empty => true
  | literal a, literal b => a == b
  | set u a, set v b => u == v && decide (a = b)
  | look a, look b => decide (a = b)
  | repetition a l m g, repetition b l' m' g' => l == l' && m == m' && g == g' && same a b
  | capture i a, capture j b => i == j && same a b
  | concat as, concat bs => sameAll as bs
  | alternation as, alternation bs => sameAll as bs
  | _, _ => false

/-- Equality of lists of expressions. -/
def sameAll : List Expr → List Expr → Bool
  | [], [] => true
  | a :: as, b :: bs => same a b && sameAll as bs
  | _, _ => false

end

/-! ## Lengths and assertions at the ends -/

mutual

/-- Whether every match is empty (and there may be one). -/
def onlyEmpty : Expr → Bool
  | empty => true
  | literal cs => cs.isEmpty
  | set _ _ => false
  | look _ => true
  | repetition sub _ most _ => onlyEmpty sub || most == some 0
  | capture _ sub => onlyEmpty sub
  | concat items => allOnlyEmpty items
  | alternation branches => allOnlyEmpty branches

/-- Whether all expressions of a list match the empty text only. -/
def allOnlyEmpty : List Expr → Bool
  | [] => true
  | e :: rest => onlyEmpty e && allOnlyEmpty rest

end

mutual

/-- The least number of characters of a match; `none` if a part of the expression matches
nothing. -/
def leastLength? : Expr → Option Nat
  | empty => some 0
  | literal cs => some cs.length
  | set _ s => if s.isEmpty then none else some 1
  | look _ => some 0
  | repetition sub least _ _ => (leastLength? sub).map (least * ·)
  | capture _ sub => leastLength? sub
  | concat items => leastOfSequence? items
  | alternation branches => leastOfChoice? branches

/-- The least length of a sequence. -/
def leastOfSequence? : List Expr → Option Nat
  | [] => some 0
  | e :: rest => (leastLength? e).bind fun a => (leastOfSequence? rest).map (a + ·)

/-- The least length of the branches of a choice. -/
def leastOfChoice? : List Expr → Option Nat
  | [] => none
  | [e] => leastLength? e
  | e :: rest => (leastLength? e).bind fun a => (leastOfChoice? rest).map (min a)

end

/-- Whether it is plain that a match has at least one character. -/
def neverEmpty (e : Expr) : Bool :=
  match e.leastLength? with
  | some n => n != 0
  | none => false

mutual

/-- Whether every match begins at the place where `l` is asserted. -/
def beginsWith (l : Look) : Expr → Bool
  | look k => k == l
  | repetition sub least _ _ => least != 0 && beginsWith l sub
  | capture _ sub => beginsWith l sub
  | concat items => sequenceBeginsWith l items
  | alternation branches => !branches.isEmpty && allBeginWith l branches
  | _ => false

/-- The same for a sequence: the items up to the first that can take characters count. -/
def sequenceBeginsWith (l : Look) : List Expr → Bool
  | [] => false
  | e :: rest => beginsWith l e || (onlyEmpty e && sequenceBeginsWith l rest)

/-- The same for all branches of a choice. -/
def allBeginWith (l : Look) : List Expr → Bool
  | [] => true
  | e :: rest => beginsWith l e && allBeginWith l rest

end

mutual

/-- The expression read from its end, which exchanges what a sequence begins and ends with. -/
def reversed : Expr → Expr
  | repetition sub least most greedy => repetition (reversed sub) least most greedy
  | capture i sub => capture i (reversed sub)
  | concat items => concat (reversedAll items [])
  | alternation branches => alternation (reversedEach branches)
  | e => e

/-- The expressions of a list reversed and in the opposite order, in front of `acc`. -/
def reversedAll : List Expr → List Expr → List Expr
  | [], acc => acc
  | e :: rest, acc => reversedAll rest (reversed e :: acc)

/-- The expressions of a list reversed. -/
def reversedEach : List Expr → List Expr
  | [] => []
  | e :: rest => reversed e :: reversedEach rest

end

/-- Whether every match ends at the place where `l` is asserted. -/
def endsWith (l : Look) (e : Expr) : Bool := beginsWith l (reversed e)

/-! ## Building expressions -/

/-- The expression that nothing matches. -/
def nothing : Expr := set false CharSet.empty

/-- A set of characters; a set of one is a literal. -/
def ofSet (unicode : Bool) (s : CharSet) : Expr :=
  match s.ranges with
  | [] => nothing
  | [r] => if r.lo = r.hi then literal [Char.ofNat r.lo] else set unicode s
  | _ => set unicode s

/-- A repetition. More than one repetition of the empty text is no more than one. -/
def repeated (sub : Expr) (least : Nat) (most : Option Nat) (greedy : Bool) : Expr :=
  let (least, most) :=
    if sub.onlyEmpty then (min least 1, some (match most with | some n => min n 1 | none => 1))
    else (least, most)
  if least = 0 ∧ most = some 0 then empty
  else if least = 1 ∧ most = some 1 then sub
  else repetition sub least most greedy

/-- The items of a sequence, nested sequences opened. -/
def openSequence (es : List Expr) : List Expr :=
  es.flatMap fun e => match e with
    | concat items => items
    | empty => []
    | e => [e]

/-- Neighbouring literals joined. -/
def joinLiterals : List Expr → List Expr
  | [] => []
  | literal cs :: rest =>
    match joinLiterals rest with
    | literal ds :: rest => literal (cs ++ ds) :: rest
    | rest => literal cs :: rest
  | e :: rest => e :: joinLiterals rest

/-- One expression after the other. -/
def sequence (es : List Expr) : Expr :=
  match joinLiterals (openSequence es) with
  | [] => empty
  | [e] => e
  | items => concat items

/-- The branches of a choice, nested choices opened. -/
def openChoice (es : List Expr) : List Expr :=
  es.flatMap fun e => match e with
    | alternation branches => branches
    | e => [e]

/-- The characters that the branches are, if each is one character. -/
def joinChars? : List Expr → Option (List Range)
  | [] => some []
  | literal [c] :: rest => (joinChars? rest).map (⟨c.toNat, c.toNat⟩ :: ·)
  | _ :: _ => none

/-- The ranges of all branches, if each is a set. -/
def joinSets? : List Expr → Option (List Range)
  | [] => some []
  | set _ s :: rest => (joinSets? rest).map (s.ranges ++ ·)
  | _ :: _ => none

/-- The set that several branches are together: all are characters, or all are sets. -/
def joined? (branches : List Expr) : Option CharSet :=
  ((joinChars? branches).orElse fun _ => joinSets? branches).map CharSet.ofRanges

/-- The number of equal items at the front of two sequences. -/
def commonLength : List Expr → List Expr → Nat
  | a :: as, b :: bs => if same a b then commonLength as bs + 1 else 0
  | _, _ => 0

/-- The items of each branch, if all are sequences. -/
def sequences? : List Expr → Option (List (List Expr))
  | [] => some []
  | concat items :: rest => (sequences? rest).map (items :: ·)
  | _ :: _ => none

/-- The number of items that all sequences begin with. -/
def sharedLength : List (List Expr) → Nat
  | [] => 0
  | first :: rest => rest.foldl (fun n items => min n (commonLength first items)) first.length

/-- A choice of branches that have no common beginning; the branches left after one is taken off
have none, so this is also the choice among those. -/
def plainChoice (es : List Expr) : Expr :=
  match openChoice es with
  | [] => nothing
  | [e] => e
  | branches =>
    match joined? branches with
    | some s => ofSet true s
    | none => alternation branches

/-- One of several expressions, the common beginning of all branches taken out; the first argument
bounds how often. -/
def choiceUpTo : Nat → List Expr → Expr
  | 0, es => plainChoice es
  | n + 1, es =>
    let branches := openChoice es
    if branches.length ≤ 1 ∨ (joined? branches).isSome then plainChoice branches
    else
      match sequences? branches with
      | none => plainChoice branches
      | some seqs =>
        let k := sharedLength seqs
        if k = 0 then plainChoice branches
        else
          let tails := choiceUpTo n (seqs.map fun items => sequence (items.drop k))
          sequence ((seqs.headD []).take k ++ [tails])

/-- One of several expressions. -/
def choice (es : List Expr) : Expr := choiceUpTo (es.length + 1) es

end Expr

end Strata.Pattern
