import Strata.Text.Numeral
import Strata.Text.Basic
import Strata.Text.Hex
import Strata.Text.Base64
import Strata.Text.Quoted
import Strata.Text.Utf8
import Strata.Digest.Sha256
import Strata.Decimal.Double
import Strata.Decimal.Shortest
import Strata.Decimal.Layout
import Strata.Decimal.Literal
import Strata.Decimal.Decimal128
import Strata.Unicode.CharSet
import Strata.Unicode.Category
import Strata.Unicode.Script
import Strata.Unicode.ScriptExtension
import Strata.Unicode.Property
import Strata.Unicode.Age
import Strata.Unicode.Segmentation
import Strata.Unicode.CaseFold
import Strata.Unicode.Additions
import Strata.Json.Basic
import Strata.Json.Tree
import Strata.Json.Printer
import Strata.Json.Fields
import Strata.Toml.Scalar
import Strata.Toml.Reader
import Strata.Calendar
import Strata.Value.Basic
import Strata.Value.Order
import Strata.Value.Path
import Strata.Value.Extended
import Strata.Value.Display
import Strata.Value.Plain
import Strata.Pattern.Tree
import Strata.Pattern.Reader
import Strata.Pattern.Class
import Strata.Pattern.Expr
import Strata.Pattern.Meaning
import Strata.Pattern.Footprint
import Strata.Pattern.Lead
import Strata.Pattern.Matching
import Strata.Pattern
import Strata.Registry.Level
import Strata.Registry.Field
import Strata.Fault
import Strata.Query.Stage
import Strata.Query.Rendering
import Strata.Query.Condition
import Strata.Query.Cursor
import Strata.Query.Page
import Strata.Request.Basic
import Strata.Request.Wire
import Strata.Request.Validation
import Strata.Request.Compile
import Strata.Store.Sorting
import Strata.Store.Filter
import Strata.Store.Execution
import Strata.Store.Steps
import Strata.Store.Basic
import Strata.Store.Loading
import Strata.Limiter
import Strata.Service
import Strata.Settings
import Strata.Command
import Strata.Arguments
import Strata.Main
import Strata.Proofs.Documents
import Strata.Proofs.Registry
import Strata.Proofs.Compilation
import Strata.Proofs.Validation
import Strata.Proofs.Sorting
import Strata.Proofs.NestedLoop
import Strata.Proofs.FreeNames
import Strata.Proofs.OutputColumns
import Strata.Proofs.Execution
import Strata.Proofs.SortedRuns
import Strata.Proofs.Codecs
import Strata.Proofs.JsonText
import Strata.Proofs.CursorToken
import Strata.Proofs.Paging
import Strata.Proofs.RootOrder
import Strata.Proofs.Walk
import Strata.Proofs.Allowlist
import Strata.Proofs.Magnitudes
import Strata.Proofs.Rounding
import Strata.Proofs.Transitivity
import Strata.Proofs.Lossless
import Strata.Proofs.Progress
import Strata.Proofs.ColumnNames
import Strata.Proofs.ResponseRows
import Strata.Proofs.Visibility
import Strata.Proofs.Loading
import Strata.Proofs.Replies
import Strata.Proofs.LimiterRuns
import Strata.Proofs.LimiterWindows
import Strata.Proofs.InsertionOrder
import Strata.Proofs.Ledger
import Strata.Proofs.WordUnits
import Strata.Proofs.NumberOrder
import Strata.Proofs.FanOut
import Strata.Proofs.Composition
import Strata.Proofs.Normalization
import Strata.Proofs.Violations
import Strata.Proofs.LimiterWaits
import Strata.Proofs.ConditionLaws
import Strata.Proofs.Coherence
import Strata.Proofs.TokenIntegrity
import Strata.Proofs.JsonRoundTrip
import Strata.Proofs.WireRoundTrip
import Strata.Proofs.Legibility
import Strata.Proofs.Conjunctions
import Strata.Proofs.LineReading
import Strata.Proofs.StoreGrowth
import Strata.Proofs.NearestWords
import Strata.Proofs.ScalarTexts
import Strata.Proofs.PlainRoundTrip
import Strata.Proofs.PathReaders
import Strata.Proofs.LimiterMemory
import Strata.Proofs.Precedence
