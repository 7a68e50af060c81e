import Strata.Text.Basic
import Strata.Value.Basic

/-!
# Paths into documents

A path names fields separated by dots. Three readers follow it: `get?` goes through documents only
and serves sorting and joining; `candidates` also goes into the documents of arrays and serves
conditions; `resolve?` maps over arrays and serves projections. All three find nothing for a path
that is empty, too long or too deep.
-/

namespace Strata

/-- The most segments of a path. -/
def maxPathDepth : Nat := 32

/-- The most bytes of a path. -/
def maxPathBytes : Nat := 1024

/-- The segments of a path. -/
def pathSegments? (path : String) : Option (List String) :=
  if path.isEmpty || maxPathBytes < path.utf8ByteSize then none
  else
    let segments := (Text.split '.' path.toList).map String.ofList
    if segments.length ≤ maxPathDepth then some segments else none

namespace Document

/-- The value behind field `head` and then `rest`, through documents only. -/
def getAt? (d : Document) (head : String) : List String → Option Value
  | [] => d.get? head
  | next :: rest =>
    match d.get? head with
    | some (.document e) => getAt? e next rest
    | _ => none

/-- The value at a path, through documents only. -/
def getPath? (d : Document) (path : String) : Option Value :=
  match pathSegments? path with
  | some (head :: rest) => d.getAt? head rest
  | _ => none

end Document

namespace Value

mutual

/-- The values that conditions on the rest of a path are tested against. An array at the end counts
as itself and as each of its items; an array on the way leads into its documents. -/
def candidatesIn (rest : List String) : Value → List Value
  | .document d =>
    match rest with
    | [] => [.document d]
    | head :: tail => candidatesOfField head tail d
  | .array items =>
    match rest with
    | [] => .array items :: items
    | head :: tail => candidatesOfItems (head :: tail) items
  | v => if rest.isEmpty then [v] else []

/-- The candidates behind a field. -/
def candidatesOfField (head : String) (tail : List String) : List (String × Value) → List Value
  | [] => []
  | (k, v) :: fields => if k = head then candidatesIn tail v else candidatesOfField head tail fields

/-- The candidates behind the documents among items. -/
def candidatesOfItems (rest : List String) : List Value → List Value
  | [] => []
  | .document d :: items => candidatesIn rest (.document d) ++ candidatesOfItems rest items
  | _ :: items => candidatesOfItems rest items

end

mutual

/-- The value that the rest of a path computes from a value: an array on the way is mapped over,
items that are neither documents nor arrays and items without a value being left out. -/
def resolveIn (rest : List String) : Value → Option Value
  | .document d =>
    match rest with
    | [] => some (.document d)
    | head :: tail => resolveField head tail d
  | .array items =>
    match rest with
    | [] => some (.array items)
    | head :: tail => some (.array (resolveItems (head :: tail) items))
  | v => if rest.isEmpty then some v else none

/-- The value behind a field. -/
def resolveField (head : String) (tail : List String) : List (String × Value) → Option Value
  | [] => none
  | (k, v) :: fields => if k = head then resolveIn tail v else resolveField head tail fields

/-- The values behind the documents and arrays among items. -/
def resolveItems (rest : List String) : List Value → List Value
  | [] => []
  | .document d :: items =>
    (resolveIn rest (.document d)).toList ++ resolveItems rest items
  | .array inner :: items =>
    (resolveIn rest (.array inner)).toList ++ resolveItems rest items
  | _ :: items => resolveItems rest items

end

end Value

namespace Document

/-- The values that a condition on a path is tested against. -/
def candidates (d : Document) (path : String) : List Value :=
  match pathSegments? path with
  | some (head :: rest) => Value.candidatesOfField head rest d
  | _ => []

/-- The value that a path computes from a document. -/
def resolve? (d : Document) (path : String) : Option Value :=
  match pathSegments? path with
  | some (head :: rest) => Value.resolveField head rest d
  | _ => none

end Document

end Strata
