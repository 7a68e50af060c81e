import Std.Data.HashMap
import Strata.Pattern.Expr
import Strata.Text.Numeral
import Strata.Text.Utf8

/-!
# The footprint of an expression

A pattern costs what its automaton costs. The automaton reads bytes: a literal has a state for each
byte, a class one for each step of its encoding, a bounded repetition a copy for each round. A
state has 32 bytes, a way out of a branching state 4 more, a transition of a state with a list of
transitions 8 more. The footprint is the larger one of the automata that read forward and backward.

States of a class that are alike are shared as far as a table remembers them. The table has a fixed
number of places, and a state takes the place that its checksum names.
-/

namespace Strata.Pattern

open Strata.Unicode

/-- No pattern may have an automaton larger than this. -/
def ceiling : Nat := 10 * 2 ^ 20

/-- The number of states so far, and the bytes that they have beside their fixed size. -/
structure Size where
  states : Nat
  extra : Nat
  deriving DecidableEq, Repr

namespace Size

/-- The bytes that states and their transitions take. -/
def bytes (z : Size) : Nat := 32 * z.states + z.extra

/-- One more state with `extra` bytes; `none` if that passes the ceiling. -/
def state (z : Size) (extra : Nat) : Option Size :=
  let z : Size := ⟨z.states + 1, z.extra + extra⟩
  if ceiling < z.bytes then none else some z

/-- States without anything beside their fixed size. -/
def plain (z : Size) (n : Nat) : Option Size :=
  let z : Size := ⟨z.states + n, z.extra⟩
  if ceiling < z.bytes then none else some z

/-- One way out of a state more, which costs if the state is a branching one. -/
def leave (z : Size) (branching : Bool) : Size :=
  if branching then { z with extra := z.extra + 4 } else z

/-- A state with a list of transitions. -/
def transitions (z : Size) (n : Nat) : Option Size := z.state (8 * n)

end Size

/-! ## The encoding of ranges -/

/-- A closed range of bytes. -/
structure ByteRange where
  lo : Nat
  hi : Nat
  deriving DecidableEq, Repr, Hashable

/-- Where the range between two numbers is cut first, so that every byte of the encodings in a part
ranges independently of the others: the greatest number of the first part. -/
def cut? (lo hi : Nat) : Option Nat :=
  match [0x7f, 0x7ff, 0xffff].find? fun bound => lo ≤ bound ∧ bound < hi with
  | some bound => some bound
  | none =>
    if hi ≤ 0x7f then none
    else [64, 64 ^ 2, 64 ^ 3].findSome? fun block =>
      if lo / block = hi / block then none
      else if lo % block ≠ 0 then some (lo / block * block + block - 1)
      else if hi % block ≠ block - 1 then some (hi / block * block - 1)
      else none

/-- The bytes of a number's encoding. -/
def encoding (n : Nat) : List Nat :=
  (Text.Utf8.encode (String.singleton (Char.ofNat n))).map UInt8.toNat

/-- The encodings of the numbers of a range as sequences of ranges of bytes, in ascending order. -/
def encodings (lo hi : Nat) : List (List ByteRange) :=
  let whole := [List.zipWith ByteRange.mk (encoding lo) (encoding hi)]
  match cut? lo hi with
  | none => whole
  | some p => if lo ≤ p ∧ p < hi then encodings lo p ++ encodings (p + 1) hi else whole
termination_by hi - lo

/-- The encodings of the members of a set. -/
def setEncodings (s : CharSet) : List (List ByteRange) :=
  s.ranges.flatMap fun r => encodings r.lo r.hi

/-- A checksum of numbers: each is mixed in by exclusive or and a multiplication by a prime. -/
def checksum (words : List Nat) : UInt64 :=
  words.foldl (fun h w => (h ^^^ UInt64.ofNat w) * 1099511628211) 14695981039346656037

/-! ## Classes read forward -/

/-- A step of an automaton: a range of bytes and the state it leads to. -/
abbrev Step := ByteRange × Nat

/-- The automaton of a class under construction: its size and the states that are remembered. -/
structure Shared (κ : Type) where
  size : Size
  known : Std.HashMap Nat (κ × Nat)

/-- The state with a key, made if it is not remembered. -/
def Shared.intern {κ : Type} [DecidableEq κ] (z : Shared κ) (places : Nat) (words : List Nat)
    (key : κ) (make : Size → Option Size) : Option (Nat × Shared κ) :=
  let place := (checksum words).toNat % places
  let fresh := (make z.size).map fun size =>
    (z.size.states, (⟨size, z.known.insert place (key, z.size.states)⟩ : Shared κ))
  match z.known[place]? with
  | some (k, id) => if k = key then some (id, z) else fresh
  | none => fresh

/-- The state that has the given steps. -/
def Shared.stepState (z : Shared (List Step)) (steps : List Step) :
    Option (Nat × Shared (List Step)) :=
  z.intern 10000 (steps.flatMap fun s => [s.1.lo, s.1.hi, s.2]) steps
    fun size => size.transitions steps.length

/-- The state that reads one of several encodings, all to the state `target`. Encodings with the
same first range stand together; those of one byte end here. The first argument bounds their
length. -/
def Shared.forward (target : Nat) :
    Nat → List (List ByteRange) → Shared (List Step) → Option (Nat × Shared (List Step))
  | 0, _, z => z.stepState []
  | n + 1, seqs, z =>
    let groups := seqs.splitBy fun a b => a.head? == b.head?
    let steps := groups.foldlM (fun (done, z) group =>
      match group.headD [] with
      | [] => some (done, z)
      | r :: rest =>
        if rest.isEmpty then some ((r, target) :: done, z)
        else (forward target n (group.map List.tail) z).map fun (id, z) => ((r, id) :: done, z))
      (([] : List Step), z)
    steps.bind fun (done, z) => z.stepState done.reverse

/-! ## Classes read backward -/

/-- The state that reads the encoding from its last byte back to its first and goes on to `next`. -/
def Shared.backward : List ByteRange → Nat → Shared (Nat × ByteRange) →
    Option (Shared (Nat × ByteRange))
  | [], _, z => some z
  | r :: rest, next, z =>
    (z.intern 1000 [next, r.lo, r.hi] (next, r) fun size => size.plain 1).bind fun (id, z) =>
      backward rest id z

/-- The automaton of a class that is more than ASCII. -/
def wideClass (back : Bool) (s : CharSet) (z : Size) : Option Size :=
  if back then
    (z.plain 2).bind fun z =>
      let target := z.states - 1
      ((setEncodings s).foldlM (fun (shared : Shared (Nat × ByteRange)) seq =>
        (shared.backward seq target).map fun shared =>
          { shared with size := shared.size.leave true }) ⟨z, ∅⟩).map Shared.size
  else
    (z.plain 1).bind fun z =>
      (Shared.forward (z.states - 1) 4 (setEncodings s) ⟨z, ∅⟩).map fun r => r.2.size

/-- The automaton of a class. -/
def classSize (back : Bool) (s : CharSet) (z : Size) : Option Size :=
  if s.ranges.all fun r => r.hi < 0x80 then
    (z.plain 1).bind fun z => z.transitions s.ranges.length
  else wideClass back s z

/-! ## Choices of literals -/

/-- Literals read one byte at a time, alike beginnings together. A literal that ends opens a new
block, so that the order of the literals is kept: what is added later is not joined with earlier
blocks. -/
inductive Trie where
  | node (blocks : List (List (Nat × Trie)))

namespace Trie

/-- The blocks of a node. -/
def blocks : Trie → List (List (Nat × Trie))
  | node bs => bs

/-- A node where a sequence ends. -/
def leaf : Trie := node [[]]

/-- Whether nothing follows a node. -/
def isLeaf (t : Trie) : Bool := t.blocks.all List.isEmpty

/-- Marks the end of a literal; the last block is the one that grows. -/
def finish (t : Trie) : Trie :=
  if t.isLeaf ∧ 1 < t.blocks.length then t else node (t.blocks ++ [[]])

/-- The trie of one literal alone. -/
def single : List Nat → Trie
  | [] => leaf.finish
  | b :: rest => node [[(b, single rest)]]

mutual

/-- Adds a literal to a trie. -/
def insert : Trie → List Nat → Trie
  | t, [] => t.finish
  | node blocks, b :: rest => node (insertLast blocks b rest)

/-- Adds a literal to the last block. -/
def insertLast : List (List (Nat × Trie)) → Nat → List Nat → List (List (Nat × Trie))
  | [], b, rest => [[(b, single rest)]]
  | [block], b, rest => [insertBlock block b rest]
  | block :: blocks, b, rest => block :: insertLast blocks b rest

/-- Adds a literal to a block. -/
def insertBlock : List (Nat × Trie) → Nat → List Nat → List (Nat × Trie)
  | [], b, rest => [(b, single rest)]
  | (c, t) :: others, b, rest =>
    if b = c then (c, insert t rest) :: others
    else (c, t) :: insertBlock others b rest

end

mutual

/-- The states of a trie beside the one that all literals end in. -/
def size : Trie → Size → Option Size
  | node blocks, z => (sizeBlocks blocks z).bind fun (ways, z) => z.state (4 * ways)

/-- The states of blocks, and the ways into them and out between them. -/
def sizeBlocks : List (List (Nat × Trie)) → Size → Option (Nat × Size)
  | [], z => some (0, z)
  | block :: blocks, z =>
    let own := (sizeBlock block z).bind fun z =>
      if block.isEmpty then some (0, z)
      else (if block.length = 1 then z.plain 1 else z.transitions block.length).map
        fun z => (1, z)
    own.bind fun (here, z) =>
      (sizeBlocks blocks z).map fun (later, z) =>
        (here + later + (if blocks.isEmpty then 0 else 1), z)

/-- The states below a block. -/
def sizeBlock : List (Nat × Trie) → Size → Option Size
  | [], z => some z
  | (_, t) :: others, z =>
    (if t.isLeaf then some z else size t z).bind (sizeBlock others)

end

end Trie

/-- The bytes of a literal. -/
def literalBytes (cs : List Char) : List Nat :=
  (Text.Utf8.encode (String.ofList cs)).map UInt8.toNat

/-- The bytes of each branch, if there are several and all are literals. -/
def literals? : List Expr → Option (List (List Nat))
  | [] => some []
  | .literal cs :: rest => (literals? rest).map (literalBytes cs :: ·)
  | _ :: _ => none

/-! ## Expressions -/

/-- The size after a part, and whether the part ends in a branching state. -/
abbrev Part := Size × Bool

/-- `n` further copies of a part, each entered from the end of the one before. -/
def copies (make : Size → Option Part) : Nat → Part → Option Part
  | 0, p => some p
  | n + 1, (z, branching) =>
    match make z with
    | none => none
    | some (z, next) => copies make n (z.leave branching, next)

/-- `n` copies of a part. -/
def exactly (make : Size → Option Part) : Nat → Size → Option Part
  | 0, z => (z.plain 1).map fun z => (z, false)
  | n + 1, z => (make z).bind (copies make n)

/-- `n` copies of a part, each of which may be left out with all that follow. -/
def optionally (make : Size → Option Part) : Nat → Part → Option Part
  | 0, p => some p
  | n + 1, (z, branching) =>
    match (z.state 8).bind make with
    | none => none
    | some (z, next) => optionally make n (z.leave branching, next)

/-- A repetition of a part. -/
def repetitionSize (make : Size → Option Part) (neverEmpty : Bool) (least : Nat)
    (most : Option Nat) (z : Size) : Option Part :=
  match least, most with
  | 0, some 1 => do
    let (z, branching) ← (← z.state 8) |> make
    let z ← z.plain 1
    return (z.leave branching, false)
  | 0, none =>
    if neverEmpty then do
      let (z, branching) ← (← z.state 4) |> make
      return (z.leave branching, true)
    else do
      let (z, branching) ← make z
      let z ← (z.leave branching).state 8
      let z ← z.state 8
      let z ← z.plain 1
      return (z, false)
  | n + 1, none => do
    let (z, branching) ← exactly make (n + 1) z
    let z ← (z.leave branching).state 4
    return (z, true)
  | n, some m =>
    if n = m then exactly make n z
    else do
      let (z, branching) ← exactly make n z
      let z ← z.plain 1
      let (z, branching) ← optionally make (m - n) (z, branching)
      return (z.leave branching, false)

mutual

/-- The automaton of an expression after what has size `z`. -/
def Expr.part (back : Bool) : Expr → Size → Option Part
  | .empty, z => (z.plain 1).map fun z => (z, false)
  | .literal cs, z => (z.plain (literalBytes cs).length).map fun z => (z, false)
  | .set _ s, z => (classSize back s z).map fun z => (z, false)
  | .look _, z => (z.plain 1).map fun z => (z, false)
  | .repetition sub least most _, z =>
    repetitionSize (Expr.part back sub) sub.neverEmpty least most z
  | .capture _ sub, z =>
    if back then Expr.part back sub z
    else do
      let (z, branching) ← Expr.part back sub (← z.plain 1)
      let z ← z.plain 1
      return (z.leave branching, false)
  | .concat items, z => (Expr.sequencePart back items z none).map fun (z, b) => (z, b.getD false)
  | .alternation branches, z =>
    match literals? branches with
    | some texts => do
      let trie := (texts.map fun t => if back then t.reverse else t).foldl Trie.insert Trie.leaf
      let z ← trie.size (← z.plain 1)
      return (z, false)
    | none => (Expr.choicePart back branches z).bind fun z => (z.plain 2).map fun z => (z, false)

/-- The automata of a sequence, each entered from the end of the one before; when reading backward
the last one is the first. -/
def Expr.sequencePart (back : Bool) : List Expr → Size → Option Bool → Option (Size × Option Bool)
  | [], z, before => some (z, before)
  | e :: rest, z, before =>
    if back then do
      let (z, before) ← Expr.sequencePart back rest z before
      let (z, branching) ← Expr.part back e z
      return (z.leave (before.getD false), some branching)
    else do
      let (z, branching) ← Expr.part back e z
      Expr.sequencePart back rest (z.leave (before.getD false)) (some branching)

/-- The automata of branches, each with a way in and a way out. -/
def Expr.choicePart (back : Bool) : List Expr → Size → Option Size
  | [], z => some z
  | e :: rest, z => do
    let (z, branching) ← Expr.part back e z
    Expr.choicePart back rest ((z.leave true).leave branching)

end

/-- The bytes of the automaton that reads in one direction. In front of an expression that need not
match at the end of the text where reading begins, it skips any bytes; reading forward it also
remembers where the match begins and ends. -/
def Expr.directedFootprint? (back : Bool) (e : Expr) : Option Nat := do
  let fixed := if back then e.endsWith .textEnd else e.beginsWith .textStart
  let start : Size := ⟨0, 0⟩
  let z ← if fixed then start.plain 1
    else (start.state 8).bind fun z => (z.plain 1).bind fun z => z.transitions 1
  let (z, branching) ← Expr.part back (.capture 0 e) z
  let z ← (z.leave branching).plain 1
  return z.bytes

/-- The bytes of the larger automaton; `none` above the ceiling. -/
def Expr.footprint? (e : Expr) : Option Nat := do
  return max (← e.directedFootprint? false) (← e.directedFootprint? true)

end Strata.Pattern
