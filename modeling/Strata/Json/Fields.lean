import Strata.Json.Tree
import Strata.Text.Numeral

/-!
# Records in JSON texts

How typed values are read from the tree of a text. A record is an object, whose unknown members are
skipped and whose known members may not repeat, or an array that gives the fields in their order.
A choice is the name of an alternative, or an object that maps the name to `null`.
-/

namespace Strata.Json.Tree

open Text

/-- A text. -/
def text : Tree → Except ReadError String
  | string (some s) => .ok s
  | string none => .error .brokenText
  | _ => .error (.unexpected "a string")

/-- A whole number of 64 bits with a sign, written without point or exponent. -/
def int64 : Tree → Except ReadError Int
  | number l true =>
    let magnitude := Numeral.ofDigits l.whole
    let n : Int := if l.negative then -magnitude else magnitude
    if (l.negative && magnitude == 0) || n < -2 ^ 63 || 2 ^ 63 ≤ n then
      .error (.unexpected "an integer")
    else .ok n
  | _ => .error (.unexpected "an integer")

/-- The values of a list of trees. -/
def each {α : Type} (read : Tree → Except ReadError α) : List Tree → Except ReadError (List α)
  | [] => .ok []
  | t :: rest =>
    match read t with
    | .error e => .error e
    | .ok a =>
      match each read rest with
      | .error e => .error e
      | .ok as => .ok (a :: as)

/-- A list. -/
def list {α : Type} (read : Tree → Except ReadError α) : Tree → Except ReadError (List α)
  | array items => each read items
  | _ => .error (.unexpected "a list")

/-- A value that may be absent. -/
def optional {α : Type} (read : Tree → Except ReadError α) : Tree → Except ReadError (Option α)
  | null => .ok none
  | t => (read t).map some

/-- One of several named alternatives. -/
def choice {α : Type} (ofName? : String → Option α) : Tree → Except ReadError α
  | string (some s) | object [(some s, null)] =>
    match ofName? s with
    | some a => .ok a
    | none => .error (.unexpected "a known name")
  | _ => .error (.unexpected "a name")

/-- The known members of an object, each at most once. -/
def knownMembers (keys : List String) :
    List (Option String × Tree) → List (String × Tree) → Except ReadError (List (String × Tree))
  | [], found => .ok found
  | (none, _) :: _, _ => .error .brokenText
  | (some key, t) :: rest, found =>
    if !keys.contains key then knownMembers keys rest found
    else if (found.lookup key).isSome then .error (.repeatedKey key)
    else knownMembers keys rest ((key, t) :: found)

/-- The fields that a record gives, by key. -/
def fields (keys : List String) : Tree → Except ReadError (List (String × Tree))
  | object members => knownMembers keys members []
  | array items =>
    if items.length ≤ keys.length then .ok (keys.zip items)
    else .error (.unexpected "fewer items")
  | _ => .error (.unexpected "an object")

/-- A field that has to be given. -/
def required {α : Type} (key : String) (read : Tree → Except ReadError α)
    (given : List (String × Tree)) : Except ReadError α :=
  match given.lookup key with
  | some t => read t
  | none => .error (.missingKey key)

/-- A field that has a default. -/
def withDefault {α : Type} (key : String) (default : α) (read : Tree → Except ReadError α)
    (given : List (String × Tree)) : Except ReadError α :=
  match given.lookup key with
  | some t => read t
  | none => .ok default

end Strata.Json.Tree
