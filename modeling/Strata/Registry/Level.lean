import Strata.Text.Basic
import Strata.Text.Quoted

/-!
# Levels of the collection

Records come in five levels. `POLY` is the root; the four *joins* hang below it, each under a
parent: geometries under the root, triangulations and Swiss cheese entries under a geometry,
involutions under a triangulation. A join says under which field its rows are listed, which index
tells siblings apart, and by which keys a row belongs to the rows above it.
-/

namespace Strata

/-- The field that identifies every document. -/
def idField : String := "_id"

/-- The key of a root record, held by every record below it. -/
def rootKey : String := "POLYID"

/-- A level of the collection. -/
inductive Level where
  | poly
  | geom
  | triang
  | invol
  | swisscheese
  deriving DecidableEq, Repr, Inhabited

/-- A level below the root. -/
inductive Join where
  | geom
  | triang
  | invol
  | swisscheese
  deriving DecidableEq, Repr, Inhabited

namespace Level

/-- The levels, parents before children. -/
def all : List Level := [poly, geom, triang, invol, swisscheese]

/-- The name of a level. -/
def name : Level → String
  | poly => "POLY"
  | geom => "GEOM"
  | triang => "TRIANG"
  | invol => "INVOL"
  | swisscheese => "SWISSCHEESE"

/-- The join of a level below the root. -/
def join? : Level → Option Join
  | poly => none
  | geom => some .geom
  | triang => some .triang
  | invol => some .invol
  | swisscheese => some .swisscheese

/-- Reads the name of a level, in any case and with blanks around it. -/
def ofText? (text : String) : Option Level :=
  all.find? fun l => Text.sameLetters l.name (Text.trim text)

/-- Reads the name of a level given on the command line, or says what was expected. -/
def ofArgument (text : String) : Except String Level :=
  match ofText? text with
  | some l => .ok l
  | none =>
    .error (s!"unknown level " ++ Text.Quoted.quote text ++ "; expected one of " ++
      String.intercalate ", " (all.map name))

end Level

/-- A key by which a row belongs to the rows above it. -/
structure Correlation where
  /-- the field of the row -/
  field : String
  /-- the variable that holds the value of the row above -/
  var : String
  /-- where the row above keeps the value -/
  parentPath : String
  deriving DecidableEq, Repr

namespace Join

/-- The joins, parents before children. -/
def all : List Join := [geom, triang, invol, swisscheese]

/-- The level of a join. -/
def level : Join → Level
  | geom => .geom
  | triang => .triang
  | invol => .invol
  | swisscheese => .swisscheese

/-- The name of a join is that of its level. -/
def name (j : Join) : String := j.level.name

/-- The joins above, the highest first. -/
def ancestors : Join → List Join
  | geom => []
  | triang => [geom]
  | invol => [geom, triang]
  | swisscheese => [geom]

/-- The joins from the root down to this one. -/
def path (j : Join) : List Join := j.ancestors ++ [j]

/-- Whether a join lies strictly above another. -/
def isAncestorOf (a b : Join) : Bool := b.ancestors.contains a

/-- The field of the row above that lists the rows of this join. -/
def listField : Join → String
  | geom => "geom"
  | triang => "triang"
  | invol => "invol"
  | swisscheese => "swiss"

/-- The field that numbers the rows below one parent. -/
def localIndex? : Join → Option String
  | geom => some "GEOMN"
  | triang => some "TRIANGN"
  | invol => some "INVOLN"
  | swisscheese => none

/-- The field that orders the rows when a request names none. -/
def defaultSort : Join → String
  | geom => "GEOMN"
  | triang => "TRIANGN"
  | invol => "INVOLN"
  | swisscheese => "GEOMN"

/-- The key of the root record. -/
def rootCorrelation : Correlation := ⟨rootKey, Text.asciiLower rootKey, "$" ++ rootKey⟩

/-- The key that the rows of a join share with everything below them. -/
def indexCorrelation? (j : Join) : Option Correlation :=
  j.localIndex?.map fun index => ⟨index, Text.asciiLower index, "$" ++ j.listField ++ "." ++ index⟩

/-- The keys by which a row belongs to the rows above it: the root key and the index of each join
above. -/
def correlation (j : Join) : List Correlation :=
  rootCorrelation :: j.ancestors.filterMap indexCorrelation?

/-- The fields that a joined row always keeps: its keys and its own index. -/
def ownKeys (j : Join) : List String :=
  let keys := j.correlation.map (·.field)
  match j.localIndex? with
  | some index => if keys.contains index then keys else keys ++ [index]
  | none => keys

end Join

/-- The joins that rows of a level need: the level itself and everything above it. -/
def Level.requiredJoins (l : Level) : List Join :=
  match l.join? with
  | some j => j.path
  | none => []

end Strata
