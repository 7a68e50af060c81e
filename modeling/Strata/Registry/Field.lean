import Strata.Registry.Level

/-!
# The allowlist of fields

What requests may name: per level its columns, which of them hold numbers and therefore take
ordering conditions, by which fields the level may be sorted, and by which fields its rows may be
sorted below one parent.
-/

namespace Strata

/-- How a condition compares a field with its value. -/
inductive Operator where
  | eq
  | ne
  | gt
  | gte
  | lt
  | lte
  | contains
  | within
  deriving DecidableEq, Repr, Inhabited

namespace Operator

/-- The operators, which all fields that hold numbers take. -/
def all : List Operator := [eq, ne, gt, gte, lt, lte, contains, within]

/-- The operators of fields that hold no numbers. -/
def basic : List Operator := [eq, ne, within, contains]

/-- The name of an operator. -/
def name : Operator → String
  | eq => "eq"
  | ne => "ne"
  | gt => "gt"
  | gte => "gte"
  | lt => "lt"
  | lte => "lte"
  | contains => "contains"
  | within => "in"

/-- The operator of a name. -/
def ofName? (s : String) : Option Operator := all.find? fun op => op.name == s

end Operator

/-- The allowlist of one level. -/
structure LevelFields where
  columns : List String
  /-- the columns that take ordering conditions -/
  numeric : List String
  sortable : List String
  /-- the fields that order the rows below one parent; none at the root -/
  joinSort : List String

/-- Root records. -/
def polyFields : LevelFields where
  columns :=
    ["BASIS", "H21", "NVERTS", "DTOJ", "EULER", "DRESVERTS", "NNPOINTS", "POLYID", "FAV",
     "NDVERTS", "DVERTS", "FUNDGP", "H11", "CWS", "NNVERTS", "RESCWS", "NGEOMS", "NALLTRIANGS",
     "INVBASIS", "JTOD", "NDPOINTS", "POLYN"]
  numeric :=
    ["H11", "H21", "NGEOMS", "NALLTRIANGS", "NVERTS", "NNVERTS", "NDVERTS", "NNPOINTS",
     "NDPOINTS"]
  sortable :=
    ["POLYID", "POLYN", "H11", "H21"]
  joinSort := []

/-- Geometries. -/
def geomFields : LevelFields where
  columns :=
    ["MORIMAT", "CHERN2XJ", "KAHLERMAT", "IPOLYXJ", "NTRIANGS", "POLYID", "CHERN2XNUMS", "H11",
     "GEOMN", "ITENSXJ"]
  numeric :=
    ["H11", "NTRIANGS", "GEOMN"]
  sortable :=
    ["POLYID", "GEOMN", "H11", "NTRIANGS"]
  joinSort :=
    ["GEOMN", "H11", "NTRIANGS"]

/-- Triangulations. -/
def triangFields : LevelFields where
  columns :=
    ["CHERNAD", "TRIANG", "TRIANGN", "POLYID", "ALLTRIANGN", "CHERNAJ", "ITENSXD", "SRIDEAL",
     "CHERN3XD", "CHERN3XJ", "CHERN2XD", "H11", "GEOMN", "KAHLERMATP", "IPOLYAD", "MORIMATP",
     "IPOLYXD", "IPOLYAJ", "ITENSAD", "ITENSAJ", "DIVCOHOM", "NINVOL"]
  numeric :=
    ["H11", "NINVOL", "TRIANGN", "GEOMN"]
  sortable :=
    ["POLYID", "GEOMN", "TRIANGN", "ALLTRIANGN", "H11", "NINVOL"]
  joinSort :=
    ["TRIANGN", "H11", "NINVOL"]

/-- Involutions. -/
def involFields : LevelFields where
  columns :=
    ["TRIANGN", "POLYID", "H11", "INVOL", "INVOLN", "GEOMN", "H21+", "H21-", "OPLANES",
     "NSYMCYTERMS", "H11+", "H11-", "NCYTERMS", "INVOLDIVCOHOM", "CYPOLY", "SYMCYPOLY",
     "SRINVOL", "ITENSXDINVOL", "CYSINGDIM", "SMOOTH", "VOLFORMPARITY"]
  numeric :=
    ["H11", "INVOLN", "TRIANGN", "GEOMN"]
  sortable :=
    ["POLYID", "GEOMN", "TRIANGN", "INVOLN", "H11", "H11+", "H11-", "H21+", "H21-",
     "VOLFORMPARITY", "NCYTERMS", "NSYMCYTERMS", "SMOOTH", "CYSINGDIM"]
  joinSort :=
    ["INVOLN", "H11", "H21+", "H21-", "VOLFORMPARITY"]

/-- Swiss cheese entries. -/
def swisscheeseFields : LevelFields where
  columns :=
    ["GEOMN", "POLYID", "H11", "EXPLICIT"]
  numeric :=
    ["H11", "GEOMN"]
  sortable :=
    ["POLYID", "GEOMN", "H11"]
  joinSort :=
    ["GEOMN", "H11"]

namespace Level

/-- The allowlist of a level. -/
def fields : Level → LevelFields
  | poly => polyFields
  | geom => geomFields
  | triang => triangFields
  | invol => involFields
  | swisscheese => swisscheeseFields

/-- The columns of a level. -/
def columns (l : Level) : List String := l.fields.columns

/-- Whether a level has a column. -/
def isColumn (l : Level) (field : String) : Bool := l.columns.contains field

/-- The fields by which a level may be sorted. -/
def sortable (l : Level) : List String := l.fields.sortable

/-- The operators of a column. -/
def columnOperators (l : Level) (field : String) : List Operator :=
  if l.fields.numeric.contains field then Operator.all else Operator.basic

/-- The operators that conditions on a field may use, if the field may be used at all. -/
def operators? (l : Level) (field : String) : Option (List Operator) :=
  if l.isColumn field then some (l.columnOperators field) else none

/-- The fields that conditions may use, by name. -/
def filterable (l : Level) : List (String × List Operator) :=
  (l.columns.map fun c => (c, l.columnOperators c)).mergeSort fun a b => decide (a.1 ≤ b.1)

end Level

/-- The fields that order the rows of a join below one parent. -/
def Join.sortFields (j : Join) : List String := j.level.fields.joinSort

end Strata
