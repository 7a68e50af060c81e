import Strata.Limiter
import Strata.Query.Page
import Strata.Request.Compile
import Strata.Store.Execution
import Strata.Value.Plain
import Strata.Json.Printer

/-!
# The service

The service answers requests with pages. A client over its limit is refused before its request is
looked at; then the request is read, validated and compiled, and the pipeline and its probe are run.
Every request is counted once in total and once by its outcome. What went wrong in a run is not told
to the client.
-/

namespace Strata

open Text

/-- How long the pipeline and the probe may run, in milliseconds. -/
structure Budgets where
  main : Nat := 20000
  probe : Nat := 10000
  deriving DecidableEq, Repr

/-- What the service reads from: the rows of a pipeline on a level within a budget. -/
abbrev Reader := Level → List Stage → Nat → Except Fault (List Document)

/-- A page of rows. -/
structure Page where
  rows : List Document
  columns : List String
  info : PageInfo
  /-- the digest of the pipeline -/
  digest : String

/-- The digest of a pipeline: that of the JSON text of its documents. -/
def pipelineDigest (stages : List Stage) : String :=
  let text := Json.compact (.arr ((renderPipeline stages).map Document.toPlain))
  Hex.encode (Digest.Sha256.digest (Utf8.encode text))

/-- The fault of a page whose last record cannot be resumed from. -/
def boundaryFault : Fault := .execution "probe row without an ObjectId identifier"

/-- The page of a validated request. -/
def Request.page (read : Reader) (budgets : Budgets) (r : Request) : Except Fault Page := do
  let q ← r.compile
  let rows ← read .poly q.pipeline budgets.main
  let probe ← read .poly (probeStages q.pipeline) budgets.probe
  match pageInfo? probe r.pageSize with
  | none => throw boundaryFault
  | some info => return ⟨takePage rows r.pageSize, q.columns, info, pipelineDigest q.pipeline⟩

/-- The JSON value of a page. -/
def Page.toJson (p : Page) : Json :=
  Json.object
    [("rows", .arr (p.rows.map Document.toPlain)),
     ("columns", .arr (p.columns.map .str)),
     ("hasNext", .bool p.info.hasNext),
     ("nextCursor", match p.info.nextCursor with | some t => .str t | none => .null)]

/-! ## Replies -/

/-- An answer: a status, a body, and after how many seconds to try again. -/
structure Reply where
  status : Nat
  body : Json
  retryAfter : Option Nat

/-- The JSON value of an issue. -/
def Issue.toJson (i : Issue) : Json :=
  Json.object [("path", .str i.path), ("message", .str i.message)]

/-- The answer to a fault. -/
def Fault.reply : Fault → Reply
  | .rateLimited seconds =>
    ⟨429, Json.object [("error", .str "Rate limit exceeded")], some seconds⟩
  | e =>
    if e.isValidation then
      ⟨400, Json.object [("error", .str "Request validation failed"),
        ("issues", .arr (e.issues.map Issue.toJson))], none⟩
    else ⟨500, Json.object [("error", .str "Query execution failed")], none⟩

/-- The answer to an outcome. -/
def replyTo : Except Fault Page → Reply
  | .ok p => ⟨200, p.toJson, none⟩
  | .error e => e.reply

/-! ## Metrics -/

/-- What the service has done so far. -/
structure Metrics where
  requests : Nat := 0
  served : Nat := 0
  rejected : Nat := 0
  rateLimited : Nat := 0
  failed : Nat := 0
  rows : Nat := 0
  deriving DecidableEq, Repr

namespace Metrics

/-- One line for each counter. -/
def text (m : Metrics) : String :=
  String.join (([("requests", m.requests), ("served", m.served), ("rejected", m.rejected),
    ("rate_limited", m.rateLimited), ("failed", m.failed), ("rows", m.rows)] :
      List (String × Nat)).map fun (name, n) => s!"toriccy_{name}_total {n}\n")

/-- Counts a request by its outcome. -/
def count (m : Metrics) (outcome : Except Fault Page) : Metrics :=
  let m := { m with requests := m.requests + 1 }
  match outcome with
  | .ok p => { m with served := m.served + 1, rows := m.rows + p.rows.length }
  | .error (.rateLimited _) => { m with rateLimited := m.rateLimited + 1 }
  | .error e =>
    if e.isValidation then { m with rejected := m.rejected + 1 }
    else { m with failed := m.failed + 1 }

end Metrics

/-! ## The service -/

/-- The state of the service. Without a limiter there is no limit. -/
structure Service where
  limiter : Option Limiter
  budgets : Budgets := {}
  metrics : Metrics := {}

namespace Service

/-- Counts a request of a client at a time, or refuses it. -/
def allow (s : Service) (client : String) (now : Nat) : Except Fault Unit × Service :=
  match s.limiter with
  | none => (.ok (), s)
  | some l =>
    let (outcome, l) := l.check client now
    (outcome, { s with limiter := some l })

/-- The page for the body of a request. -/
def handle (s : Service) (read : Reader) (now : Nat) (client body : String) :
    Except Fault Page × Service :=
  let (allowed, s) := s.allow client now
  (do
    allowed
    let r ← Request.parse body
    r.page read s.budgets, s)

/-- The answer to the body of a request. -/
def respond (s : Service) (read : Reader) (now : Nat) (client body : String) :
    Reply × Service :=
  let (outcome, s) := s.handle read now client body
  (replyTo outcome, { s with metrics := s.metrics.count outcome })

end Service

end Strata
