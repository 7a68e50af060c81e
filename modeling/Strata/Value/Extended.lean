import Strata.Calendar
import Strata.Decimal.Literal
import Strata.Json.Basic
import Strata.Text.Numeral
import Strata.Text.Base64
import Strata.Value.Basic

/-!
# Extended JSON

JSON has fewer kinds of values than documents. The kinds it lacks are written as objects with a key
that starts with a dollar sign. An object that holds such a key is read as the first kind in
`extendedKeys` whose key it holds, and refused if anything else is wrong with it; other objects are
documents. The parts of a kind may also be given as an array in their order.
-/

namespace Strata

open Decimal Text

/-- An object holds the key of a kind but is not of its form. -/
structure MalformedExtended where
  key : String
  deriving DecidableEq, Repr

/-- The wording of the reason. -/
def MalformedExtended.message (e : MalformedExtended) : String := s!"malformed value for {e.key}"

namespace Value

/-- The keys of the kinds, in the order in which they are looked for. -/
def extendedKeys : List String :=
  ["$oid", "$symbol", "$regularExpression", "$numberInt", "$numberLong", "$numberDouble",
   "$numberDecimal", "$binary", "$uuid", "$code", "$timestamp", "$date", "$minKey", "$maxKey",
   "$dbPointer", "$undefined"]

/-- The first key of a kind that an object holds. -/
def extendedKey? (members : List (String × Json)) : Option String :=
  extendedKeys.find? fun key => members.any fun m => m.1 == key

/-! ## Reading the kinds without values inside -/

/-- The values of exactly the given keys, or the items of an array of that many. -/
def parts? (keys : List String) : Json → Option (List Json)
  | .obj members =>
    if members.length = keys.length then keys.mapM fun k => members.lookup k else none
  | .arr items => if items.length = keys.length then some items else none
  | _ => none

/-- The text of a JSON string. -/
def text? : Json → Option String
  | .str s => some s
  | _ => none

/-- A whole number in a range. -/
def within? (lo hi : Int) : Json → Option Int
  | .int n => if lo ≤ n ∧ n ≤ hi then some n else none
  | _ => none

/-- A text with one part, an identifier. -/
def identifier? (v : Json) : Option ObjectId := do
  match ← parts? ["$oid"] v with
  | [s] => ObjectId.ofHex? (← text? s)
  | _ => none

/-- A text that can end in a zero byte holds none. -/
def zeroFree (s : String) : Bool := s.toList.all (·.toNat != 0)

/-- The letters in ascending order. -/
def sortLetters (s : String) : String :=
  String.ofList (s.toList.mergeSort fun a b => a.toNat ≤ b.toNat)

/-- The sixteen bytes of a universally unique identifier: thirty-two digits, or groups of eight,
four, four, four and twelve joined by hyphens, the latter also in braces or as an address. -/
def uuidBytes? (s : String) : Option (List UInt8) :=
  let grouped? (cs : List Char) : Option (List UInt8) :=
    if cs.length = 36 ∧ [8, 13, 18, 23].all (fun i => cs[i]? == some '-') ∧
        (cs.filter (· == '-')).length = 4 then
      Hex.decodeChars? (cs.filter (· != '-'))
    else none
  let cs := s.toList
  if cs.length = 32 then Hex.decodeChars? cs
  else if cs.length = 36 then grouped? cs
  else if cs.length = 38 ∧ cs.head? = some '\x7b' ∧ cs.getLast? = some '\x7d' then
    grouped? ((cs.drop 1).take 36)
  else if cs.length = 45 ∧ cs.take 9 = "urn:uuid:".toList then grouped? (cs.drop 9)
  else none

/-- A date: milliseconds in quotes, a timestamp, or milliseconds. -/
def dateMillis? : Json → Option Int
  | .str s => Calendar.millisOfTimestamp? s
  | .int n => within? (-2 ^ 63) (2 ^ 63 - 1) (.int n)
  | v => do
    match ← parts? ["$numberLong"] v with
    | [s] => Numeral.int64? (← text? s)
    | _ => none

/-- The value that a key and what it is given denote. -/
def ofKey? (key : String) (v : Json) : Option Value :=
  if key = "$oid" then do return objectId (← ObjectId.ofHex? (← text? v))
  else if key = "$symbol" then do return symbol (← text? v)
  else if key = "$regularExpression" then do
    match ← parts? ["pattern", "options"] v with
    | [p, o] =>
      let p ← text? p
      let o ← text? o
      guard (zeroFree p && zeroFree o)
      return regex p (sortLetters o)
    | _ => none
  else if key = "$numberInt" then do return int32 (Int32.ofInt (← Numeral.int32? (← text? v)))
  else if key = "$numberLong" then do return int64 (Int64.ofInt (← Numeral.int64? (← text? v)))
  else if key = "$numberDouble" then do return double (← Double.ofText? (← text? v))
  else if key = "$numberDecimal" then do return decimal (← Decimal128.ofText? (← text? v))
  else if key = "$binary" then do
    match ← parts? ["base64", "subType"] v with
    | [b, k] =>
      match ← Hex.decode? (← text? k) with
      | [kind] => return binary kind (← Base64.standard.decode? (← text? b))
      | _ => none
    | _ => none
  else if key = "$uuid" then do return binary 4 (← uuidBytes? (← text? v))
  else if key = "$code" then do return code (← text? v)
  else if key = "$timestamp" then do
    match ← parts? ["t", "i"] v with
    | [t, i] =>
      let t ← within? 0 (2 ^ 32 - 1) t
      let i ← within? 0 (2 ^ 32 - 1) i
      return timestamp (UInt32.ofNat t.toNat) (UInt32.ofNat i.toNat)
    | _ => none
  else if key = "$date" then do return dateTime (Int64.ofInt (← dateMillis? v))
  else if key = "$minKey" then do
    let _ ← within? 1 1 v
    return minKey
  else if key = "$maxKey" then do
    let _ ← within? 1 1 v
    return maxKey
  else if key = "$dbPointer" then do
    match ← parts? ["$ref", "$id"] v with
    | [r, i] => return pointer (← text? r) (← identifier? i)
    | _ => none
  else if key = "$undefined" then
    match v with
    | .bool true => some undefined
    | _ => none
  else none

/-- The value of an object that holds the key of a kind and nothing else. -/
def ofLone? (key : String) : List (String × Json) → Option Value
  | [(_, v)] => ofKey? key v
  | _ => none

/-- The text of an object of code with a scope, which holds two members. -/
def scopedText? (members : List (String × Json)) : Option String :=
  if members.length = 2 then (members.lookup "$code").bind text? else none

/-- A number in the narrowest kind that holds it: whole numbers of 32 and 64 bits, else binary64. -/
def ofNumber (n : Int) : Value :=
  if -2 ^ 63 ≤ n ∧ n < 2 ^ 63 then ofInt n else double (Double.ofInt n)

/-! ## Reading values -/

mutual

/-- The value that a JSON value stands for. -/
def ofJson : Json → Except MalformedExtended Value
  | .null => .ok .null
  | .bool b => .ok (.bool b)
  | .int n => .ok (ofNumber n)
  | .real d => .ok (.double d)
  | .str s => .ok (.string s)
  | .arr items => (ofItems items).map .array
  | .obj members =>
    match extendedKey? members with
    | none => (ofMembers members).map .document
    | some key =>
      if key = "$code" ∧ members.any (fun m => m.1 == "$scope") then
        match scopedText? members with
        | none => .error ⟨key⟩
        | some text =>
          match ofScope members with
          | none => .error ⟨key⟩
          | some (.error e) => .error e
          | some (.ok none) => .ok (.code text)
          | some (.ok (some scope)) => .ok (.scopedCode text scope)
      else
        match ofLone? key members with
        | some v => .ok v
        | none => .error ⟨key⟩

/-- The items of an array. -/
def ofItems : List Json → Except MalformedExtended (List Value)
  | [] => .ok []
  | v :: rest =>
    match ofJson v with
    | .error e => .error e
    | .ok w => (ofItems rest).map (w :: ·)

/-- The fields of a document; at this level no key has a meaning of its own. -/
def ofMembers : List (String × Json) → Except MalformedExtended (List (String × Value))
  | [] => .ok []
  | (k, v) :: rest =>
    match ofJson v with
    | .error e => .error e
    | .ok w => (ofMembers rest).map ((k, w) :: ·)

/-- The scope among the members of an object: a document or nothing. -/
def ofScope : List (String × Json) →
    Option (Except MalformedExtended (Option (List (String × Value))))
  | [] => none
  | (k, .obj inner) :: rest =>
    if k = "$scope" then some ((ofMembers inner).map some) else ofScope rest
  | (k, v) :: rest =>
    if k = "$scope" then (match v with | .null => some (.ok none) | _ => none) else ofScope rest

end

/-! ## Writing -/

/-- A number: one that JSON cannot hold is written by name. -/
def doubleToExtended (d : Double) : Json :=
  if d.isNaN then .obj [("$numberDouble", .str "NaN")]
  else if d.isInfinite then
    .obj [("$numberDouble", .str (if d.isNegative then "-Infinity" else "Infinity"))]
  else .real d

/-- A date: a timestamp from 1970 to the end of year 9999, else its milliseconds in quotes. -/
def dateToExtended (ms : Int) : Json :=
  let m := Calendar.Moment.ofMillis ms
  if 0 ≤ ms ∧ m.date.year ≤ 9999 then .obj [("$date", .str m.shortTimestamp)]
  else .obj [("$date", .obj [("$numberLong", .str (toString ms))])]

mutual

/-- Extended JSON in its relaxed form, where numbers are JSON numbers. -/
def toExtended : Value → Json
  | null => .null
  | undefined => .obj [("$undefined", .bool true)]
  | bool b => .bool b
  | int32 n => .int n.toInt
  | int64 n => .int n.toInt
  | double d => doubleToExtended d
  | decimal d => .obj [("$numberDecimal", .str d.render)]
  | string s => .str s
  | symbol s => .obj [("$symbol", .str s)]
  | document fields => Json.object (fieldsToExtended fields)
  | array items => .arr (itemsToExtended items)
  | binary kind bytes =>
    .obj [("$binary", .obj [("base64", .str (Base64.standard.encode bytes)),
      ("subType", .str (Hex.encode [kind]))])]
  | objectId id => .obj [("$oid", .str id.toHex)]
  | dateTime ms => dateToExtended ms.toInt
  | timestamp t i =>
    .obj [("$timestamp", .obj [("i", .int (i.toNat : Int)), ("t", .int (t.toNat : Int))])]
  | regex p o => .obj [("$regularExpression", .obj [("options", .str o), ("pattern", .str p)])]
  | pointer r id =>
    .obj [("$dbPointer", .obj [("$id", .obj [("$oid", .str id.toHex)]), ("$ref", .str r)])]
  | code t => .obj [("$code", .str t)]
  | scopedCode t scope =>
    .obj [("$code", .str t), ("$scope", Json.object (fieldsToExtended scope))]
  | minKey => .obj [("$minKey", .int 1)]
  | maxKey => .obj [("$maxKey", .int 1)]

/-- The items of an array. -/
def itemsToExtended : List Value → List Json
  | [] => []
  | v :: rest => toExtended v :: itemsToExtended rest

/-- The fields of a document. -/
def fieldsToExtended : List (String × Value) → List (String × Json)
  | [] => []
  | (k, v) :: rest => (k, toExtended v) :: fieldsToExtended rest

end

end Value

namespace Document

/-- The document that a JSON object stands for; other JSON values stand for none. -/
def ofJson? : Json → Option (Except MalformedExtended Document)
  | .obj members => some (Value.ofMembers members)
  | _ => none

end Document

end Strata
