import Strata.Json.Fields
import Strata.Request.Basic

/-!
# Requests on the wire

The JSON form of requests. Reading fills in defaults for what is left out, also inside its parts;
writing names everything.
-/

namespace Strata

open Json (ReadError)
open Json.Tree (required withDefault)

/-! ## Reading -/

/-- The level of a name, spelled exactly. -/
def Level.ofName? (s : String) : Option Level := Level.all.find? fun l => l.name == s

/-- The join of a name, spelled exactly. -/
def Join.ofName? (s : String) : Option Join := Join.all.find? fun j => j.name == s

namespace Request

/-- A level by its name. -/
def readLevel : Json.Tree → Except ReadError Level := Json.Tree.choice Level.ofName?

/-- A direction by its name. -/
def readDirection : Json.Tree → Except ReadError Direction := Json.Tree.choice Direction.ofName?

/-- A condition; its field and its operator have to be given. -/
def readCondition (t : Json.Tree) : Except ReadError Condition := do
  let given ← t.fields ["field", "op", "value"]
  let field ← required "field" Json.Tree.text given
  let op ← required "op" (Json.Tree.choice Operator.ofName?) given
  let value ← withDefault "value" "" Json.Tree.text given
  return ⟨field, op, value⟩

/-- A sort whose field has to be given. -/
def readSort (t : Json.Tree) : Except ReadError SortKey := do
  let given ← t.fields ["field", "direction"]
  let field ← required "field" Json.Tree.text given
  let direction ← withDefault "direction" .asc readDirection given
  return ⟨field, direction⟩

/-- A sort of the root level. -/
def readRootSort (t : Json.Tree) : Except ReadError SortKey := do
  let given ← t.fields ["field", "direction"]
  let field ← withDefault "field" rootKey Json.Tree.text given
  let direction ← withDefault "direction" .asc readDirection given
  return ⟨field, direction⟩

/-- A page size under its key. -/
def readPageSize (t : Json.Tree) : Except ReadError Int64 := do
  let given ← t.fields ["pageSize"]
  withDefault "pageSize" defaultPageSize (fun t => t.int64.map Int64.ofInt) given

/-- The page sizes of the root and of the joins. -/
def readPaging (t : Json.Tree) : Except ReadError Paging := do
  let given ← t.fields ["poly", "geom", "triang", "invol", "swiss"]
  let poly ← withDefault "poly" defaultPageSize readPageSize given
  let geom ← withDefault "geom" defaultPageSize readPageSize given
  let triang ← withDefault "triang" defaultPageSize readPageSize given
  let invol ← withDefault "invol" defaultPageSize readPageSize given
  let swiss ← withDefault "swiss" defaultPageSize readPageSize given
  return ⟨poly, geom, triang, invol, swiss⟩

/-- One value for each join, under the names of the joins. -/
def readPerJoin {α : Type} (default : α) (read : Json.Tree → Except ReadError α)
    (t : Json.Tree) : Except ReadError (PerJoin α) := do
  let given ← t.fields (Join.all.map Join.name)
  let geom ← withDefault Join.geom.name default read given
  let triang ← withDefault Join.triang.name default read given
  let invol ← withDefault Join.invol.name default read given
  let swisscheese ← withDefault Join.swisscheese.name default read given
  return ⟨geom, triang, invol, swisscheese⟩

/-- A list of texts. -/
def readTexts : Json.Tree → Except ReadError (List String) := Json.Tree.list Json.Tree.text

/-- A list of conditions. -/
def readConditions : Json.Tree → Except ReadError (List Condition) :=
  Json.Tree.list readCondition

/-- What is asked of the root level. -/
def readBase (t : Json.Tree) : Except ReadError BaseQuery := do
  let given ← t.fields ["collection", "columns", "conditions"]
  let collection ← withDefault "collection" .poly readLevel given
  let columns ← withDefault "columns" [] readTexts given
  let conditions ← withDefault "conditions" [] readConditions given
  return ⟨collection, columns, conditions⟩

/-- The keys of a request, in order. -/
def keys : List String :=
  ["baseCollection", "base", "resultLevel", "joins", "joinColumns", "joinConditions", "joinSort",
   "paging", "sort", "cursor"]

/-- The request that a tree states. -/
def ofTree (t : Json.Tree) : Except ReadError Request := do
  let blank : Request := {}
  let given ← t.fields keys
  let baseCollection ← withDefault "baseCollection" blank.baseCollection readLevel given
  let base ← withDefault "base" blank.base readBase given
  let resultLevel ← withDefault "resultLevel" blank.resultLevel readLevel given
  let joins ← withDefault "joins" blank.joins
    (Json.Tree.list (Json.Tree.choice Join.ofName?)) given
  let joinColumns ← withDefault "joinColumns" blank.joinColumns (readPerJoin [] readTexts) given
  let joinConditions ← withDefault "joinConditions" blank.joinConditions
    (readPerJoin [] readConditions) given
  let joinSort ← withDefault "joinSort" blank.joinSort
    (readPerJoin none (Json.Tree.optional readSort)) given
  let paging ← withDefault "paging" blank.paging readPaging given
  let sort ← withDefault "sort" blank.sort readRootSort given
  let cursor ← withDefault "cursor" blank.cursor (Json.Tree.optional Json.Tree.text) given
  return ⟨baseCollection, base, resultLevel, joins, joinColumns, joinConditions, joinSort, paging,
    sort, cursor⟩

/-- Reads the body of a request. -/
def read (body : String) : Except ReadError Request :=
  match Json.Tree.read? (Text.Utf8.glyphsOf body) with
  | none => .error .malformed
  | some t => ofTree t

/-! ## Writing -/

/-- A condition, all keys named. -/
def writeCondition (c : Condition) : Json :=
  Json.object [("field", .str c.field), ("op", .str c.op.name), ("value", .str c.value)]

/-- A list of conditions. -/
def writeConditions (cs : List Condition) : Json := .arr (cs.map writeCondition)

/-- A sort, all keys named. -/
def writeSort (s : SortKey) : Json :=
  Json.object [("field", .str s.field), ("direction", .str s.direction.name)]

/-- A list of texts. -/
def writeTexts (texts : List String) : Json := .arr (texts.map .str)

/-- One value for each join, under the names of the joins. -/
def writePerJoin {α : Type} (write : α → Json) (p : PerJoin α) : Json :=
  Json.object (Join.all.map fun j => (j.name, write (p.get j)))

/-- The page sizes, each under its key. -/
def writePaging (p : Paging) : Json :=
  Json.object (p.entries.map fun (key, n) => (key, Json.object [("pageSize", .int n.toInt)]))

/-- A value that may be absent. -/
def writeOptional {α : Type} (write : α → Json) : Option α → Json
  | some a => write a
  | none => .null

/-- The JSON value of a request. -/
def toJson (r : Request) : Json :=
  Json.object
    [("baseCollection", .str r.baseCollection.name),
     ("base", Json.object
       [("collection", .str r.base.collection.name),
        ("columns", writeTexts r.base.columns),
        ("conditions", writeConditions r.base.conditions)]),
     ("resultLevel", .str r.resultLevel.name),
     ("joins", .arr (r.joins.map fun j => .str j.name)),
     ("joinColumns", writePerJoin writeTexts r.joinColumns),
     ("joinConditions", writePerJoin writeConditions r.joinConditions),
     ("joinSort", writePerJoin (writeOptional writeSort) r.joinSort),
     ("paging", writePaging r.paging),
     ("sort", writeSort r.sort),
     ("cursor", writeOptional .str r.cursor)]

end Request

end Strata
