import Strata.Pattern.Class
import Strata.Pattern.Expr

/-!
# Matching

An expression relates the spots of a text where a match can begin to those where it can end.
`Expr.ends` is the image of a set of spots under that relation; a repetition is the image taken as
often as it says, or until no new spot is found. Which of several matches would be preferred does
not matter for whether there is one.
-/

namespace Strata.Pattern

/-- Whether a word edge lies between two places, given whether each holds a character of a word. -/
def WordEdge.between (before after : Bool) : WordEdge → Bool
  | boundary => before != after
  | notBoundary => before == after
  | start => !before && after
  | stop => before && !after
  | startHalf => !before
  | stopHalf => !after

/-- A spot in a text: how many characters are before it, the last one of those, and the rest. -/
structure Spot where
  index : Nat
  before : Option Char
  rest : List Char
  deriving DecidableEq, Repr

namespace Spot

/-- The spot after one of the given characters. -/
def step? (p : Char → Bool) (spot : Spot) : Option Spot :=
  match spot.rest with
  | [] => none
  | c :: rest => if p c then some ⟨spot.index + 1, some c, rest⟩ else none

/-- The spot after the given characters. -/
def skip? : List Char → Spot → Option Spot
  | [], spot => some spot
  | c :: cs, spot => (spot.step? (· == c)).bind (skip? cs)

/-- All spots from one on. -/
def onward (index : Nat) (before : Option Char) : List Char → List Spot
  | [] => [⟨index, before, []⟩]
  | c :: rest => ⟨index, before, c :: rest⟩ :: onward (index + 1) (some c) rest

/-- All spots of a text. -/
def all (s : String) : List Spot := onward 0 none s.toList

/-- Whether something is asserted of a spot rightly. -/
def satisfies (spot : Spot) (l : Look) : Bool :=
  let after := spot.rest.head?
  match l with
  | .textStart => spot.before.isNone
  | .textEnd => after.isNone
  | .lineStart => spot.before.isNone || spot.before == some '\n'
  | .lineEnd => after.isNone || after == some '\n'
  | .lineStartCrlf =>
    spot.before.isNone || spot.before == some '\n' ||
      (spot.before == some '\r' && after != some '\n')
  | .lineEndCrlf =>
    after.isNone || after == some '\r' || (after == some '\n' && spot.before != some '\r')
  | .word edge unicode =>
    let isWord := (LetterClass.word.set unicode).contains
    edge.between (spot.before.any isWord) (after.any isWord)

/-- The spots of two ascending lists, ascending and without repetition. -/
def union : List Spot → List Spot → List Spot
  | [], ys => ys
  | xs, [] => xs
  | x :: xs, y :: ys =>
    if x.index < y.index then x :: union xs (y :: ys)
    else if y.index < x.index then y :: union (x :: xs) ys
    else x :: union xs ys

/-- The spots of an ascending list that are not in another one. -/
def without : List Spot → List Spot → List Spot
  | [], _ => []
  | xs, [] => xs
  | x :: xs, y :: ys =>
    if x.index < y.index then x :: without xs (y :: ys)
    else if y.index < x.index then without (x :: xs) ys
    else without xs ys

end Spot

/-- The image taken `n` times. -/
def rounds (image : List Spot → List Spot) : Nat → List Spot → List Spot
  | 0, spots => spots
  | n + 1, spots => rounds image n (image spots)

/-- The spots in `found` and those reached from `latest` in at most `n` rounds. -/
def reach (image : List Spot → List Spot) : Nat → List Spot → List Spot → List Spot
  | 0, _, found => found
  | n + 1, latest, found =>
    let fresh := Spot.without (image latest) found
    if fresh.isEmpty then found else reach image n fresh (Spot.union found fresh)

/-- A bound for the number of spots that can be reached from some. -/
def spotBound : List Spot → Nat
  | [] => 0
  | spot :: _ => spot.rest.length + 1

mutual

/-- The spots where matches end that begin at one of the given spots. -/
def Expr.ends : Expr → List Spot → List Spot
  | .empty, spots => spots
  | .literal cs, spots => spots.filterMap (Spot.skip? cs)
  | .set _ s, spots => spots.filterMap (Spot.step? s.contains)
  | .look l, spots => spots.filter fun spot => spot.satisfies l
  | .repetition sub least most _, spots =>
    let image := Expr.ends sub
    let spots := rounds image least spots
    let bound := spotBound spots
    reach image (match most with | some m => min (m - least) bound | none => bound) spots spots
  | .capture _ sub, spots => Expr.ends sub spots
  | .concat items, spots => Expr.sequenceEnds items spots
  | .alternation branches, spots => Expr.choiceEnds branches spots

/-- The spots where matches of a sequence end. -/
def Expr.sequenceEnds : List Expr → List Spot → List Spot
  | [], spots => spots
  | e :: rest, spots => Expr.sequenceEnds rest (Expr.ends e spots)

/-- The spots where matches of one of several expressions end. -/
def Expr.choiceEnds : List Expr → List Spot → List Spot
  | [], _ => []
  | e :: rest, spots => Spot.union (Expr.ends e spots) (Expr.choiceEnds rest spots)

end

/-- Whether some part of a text matches. -/
def Expr.isMatch (e : Expr) (s : String) : Bool := !(e.ends (Spot.all s)).isEmpty

end Strata.Pattern
