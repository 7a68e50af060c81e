import Strata.Settings
import Strata.Store.Loading
import Strata.Text.Basic

/-!
# Commands

What the program does from the command line, as texts: it shows the pipeline of a request, serves a
request from a directory of records, lists the fields of the levels, and turns identifiers into
cursors and back.
-/

namespace Strata

open Text

/-- The form of output. -/
inductive OutputMode where
  | json
  | plain
  | csv
  deriving DecidableEq, Repr

namespace OutputMode

/-- The name of a form of output. -/
def name : OutputMode → String
  | json => "Json"
  | plain => "Plain"
  | csv => "Csv"

/-- Reads a form in any case; what is no form, and nothing, is JSON. -/
def ofText : Option String → OutputMode
  | none => json
  | some s => if sameLetters s "plain" then plain else if sameLetters s "csv" then csv else json

end OutputMode

/-- A command. -/
inductive Command where
  | compile (body : String)
  | run (body : String) (dataDir : Option String) (client : String)
  | fields (level : Option Level)
  | cursorEncode (id : String)
  | cursorDecode (token : String)

/-- Why a command failed. -/
inductive CommandFault where
  | query (e : Fault)
  | noDirectory
  | status (n : Nat)

/-- The wording of a failure. -/
def CommandFault.message : CommandFault → String
  | query e => e.message
  | noDirectory => "no data directory; pass --data or set data_dir"
  | status n => s!"request failed with status {n}"

/-- What a command printed, and whether it failed. -/
structure Outcome where
  text : String
  fault : Option CommandFault

namespace Outcome

/-- A command that printed a text and did not fail. -/
def done (text : String) : Outcome := ⟨text, none⟩

/-- A command that printed nothing because of a fault. -/
def refused (e : Fault) : Outcome := ⟨"", some (.query e)⟩

end Outcome

/-- Lines, each with its end. -/
def unlines (ls : List String) : String := String.join (ls.map (· ++ "\n"))

/-- A value in a cell of a table; null and missing values are empty. -/
def cell : Option Json → String
  | none | some .null => ""
  | some (.str s) => s
  | some v => v.compact

/-! ## Requests -/

/-- Shows a pipeline and its columns. -/
def showQuery (mode : OutputMode) (q : Query) : String :=
  let docs := renderPipeline q.pipeline
  match mode with
  | .json =>
    unlines [(Json.object [("pipeline", .arr (docs.map Document.toPlain)),
      ("columns", .arr (q.columns.map .str))]).pretty]
  | .plain | .csv =>
    unlines (docs.map Document.display ++ ["columns: " ++ String.intercalate "," q.columns])

/-- Shows a page. -/
def showPage (mode : OutputMode) (p : Page) : String :=
  let rows := p.rows.map Document.toPlain
  match mode with
  | .json => unlines [p.toJson.pretty]
  | .csv =>
    String.join ((p.columns :: rows.map fun r => p.columns.map fun c => cell (r.get? c)).map
      Csv.record)
  | .plain =>
    unlines ((rows.map fun r => String.intercalate " "
        (p.columns.map fun c => c ++ "=" ++ cell (r.get? c))) ++
      ["hasNext=" ++ toString p.info.hasNext ++ " nextCursor=" ++ p.info.nextCursor.getD ""])

/-- The service that a command starts. -/
def Settings.service (s : Settings) : Service where
  limiter := some s.limiter
  budgets := s.budgets

/-- Serves a request from the records of a directory. -/
def runRequest (s : Settings) (openFolder : String → Option Folder) (firstId : Nat)
    (mode : OutputMode) (body : String) (dataDir : Option String) (client : String) : Outcome :=
  match dataDir <|> s.dataDir with
  | none => ⟨"", some .noDirectory⟩
  | some path =>
    match (Store.empty firstId).loadAt path (openFolder path) with
    | (.error e, _) => .refused e
    | (.ok _, store) =>
      match (s.service.handle store.aggregate 0 (clientKey (some client)) body).1 with
      | .ok page => .done (showPage mode page)
      | .error e => ⟨unlines [e.reply.body.pretty], some (.status e.reply.status)⟩

/-! ## Fields -/

/-- The fields by which the rows of a level are sorted below one parent. -/
def Level.joinSort (l : Level) : List String := l.fields.joinSort

/-- The names of operators. -/
def operatorNames (ops : List Operator) : List String := ops.map Operator.name

/-- The allowlist of a level as JSON. -/
def Level.toJson (l : Level) : Json :=
  let texts := fun (names : List String) => Json.arr (names.map .str)
  Json.object
    [("level", .str l.name), ("columns", texts l.columns),
     ("filterable", Json.object (l.filterable.map fun (f, ops) => (f, texts (operatorNames ops)))),
     ("sortable", texts l.sortable), ("joinSort", texts l.joinSort)]

/-- The allowlist of a level in lines. -/
def Level.lines (l : Level) : List String :=
  let row := String.intercalate ","
  [l.name ++ ": " ++ row l.columns, "  sortable: " ++ row l.sortable] ++
    if l.join?.isSome then ["  join sort: " ++ row l.joinSort] else []

/-- The allowlist of a level in records, one for each column. -/
def Level.csvRecords (l : Level) : List (List String) :=
  let mark := fun (b : Bool) => if b then "yes" else "no"
  l.columns.map fun c =>
    [l.name, c, String.intercalate " " (operatorNames (l.columnOperators c)),
     mark (l.sortable.contains c), mark (l.joinSort.contains c)]

/-- Shows the allowlists of levels. -/
def showFields (mode : OutputMode) (levels : List Level) : String :=
  match mode with
  | .json => unlines [(Json.arr (levels.map Level.toJson)).pretty]
  | .plain => unlines (levels.flatMap Level.lines)
  | .csv =>
    String.join ((["level", "field", "operators", "sortable", "join_sort"] ::
      levels.flatMap Level.csvRecords).map Csv.record)

/-! ## Commands -/

/-- Shows a text under a key, or alone. -/
def showText (mode : OutputMode) (key text : String) : String :=
  match mode with
  | .json => unlines [(Json.object [(key, .str text)]).compact]
  | .plain | .csv => unlines [text]

/-- Runs a command, given how directories are opened and the number of the first fresh
identifier. -/
def Command.execute (s : Settings) (openFolder : String → Option Folder) (firstId : Nat)
    (mode : OutputMode) : Command → Outcome
  | compile body =>
    match (Request.parse body).bind Request.compile with
    | .ok q => .done (showQuery mode q)
    | .error e => .refused e
  | run body dataDir client => runRequest s openFolder firstId mode body dataDir client
  | fields level =>
    .done (showFields mode (match level with | some l => [l] | none => Level.all))
  | cursorEncode id => .done (showText mode "cursor" (Cursor.encode id))
  | cursorDecode token =>
    match Cursor.decode token with
    | .ok id => .done (showText mode "id" id)
    | .error e => .refused (.cursor e.message)

end Strata
