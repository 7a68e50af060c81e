import Strata.Text.Numeral
import Strata.Service
import Strata.Toml.Reader

/-!
# Settings

Settings come in layers: what the command line overrides, the environment, and files. The first
layer that sets a key wins, for each key on its own. A file that the command line or the environment
names has to be readable and well formed; other files count only if they are.
-/

namespace Strata

open Text

/-- One layer of settings. -/
structure Settings where
  dataDir : Option String := none
  logDir : Option String := none
  logLevel : Option String := none
  logRetention : Option Nat := none
  rateWindowSeconds : Option Nat := none
  rateMax : Option Nat := none
  mainBudget : Option Nat := none
  probeBudget : Option Nat := none
  deriving DecidableEq, Repr

namespace Settings

/-- The settings of a layer, where it sets none those of the layer below. -/
def layeredOn (top below : Settings) : Settings where
  dataDir := top.dataDir <|> below.dataDir
  logDir := top.logDir <|> below.logDir
  logLevel := top.logLevel <|> below.logLevel
  logRetention := top.logRetention <|> below.logRetention
  rateWindowSeconds := top.rateWindowSeconds <|> below.rateWindowSeconds
  rateMax := top.rateMax <|> below.rateMax
  mainBudget := top.mainBudget <|> below.mainBudget
  probeBudget := top.probeBudget <|> below.probeBudget

/-! ## Files -/

/-- One more than the greatest number of a wide setting. -/
def wide : Nat := 2 ^ 64

/-- One more than the greatest number of a narrow setting. -/
def narrow : Nat := 2 ^ 32

/-- A text of a file. -/
def textEntry (entries : Toml.Entries) (key : String) : Option (Option String) :=
  match entries.lookup key with
  | none => some none
  | some (.string s) => some (some s)
  | some _ => none

/-- A number of a file, below a bound. -/
def numberEntry (entries : Toml.Entries) (bound : Nat) (key : String) : Option (Option Nat) :=
  match entries.lookup key with
  | none => some none
  | some (.scalar (.integer n)) => if 0 ≤ n ∧ n < bound then some (some n.toNat) else none
  | some _ => none

/-- The settings of a file; other keys do not matter. -/
def ofFile? (text : String) : Option Settings := do
  let entries ← Toml.read? text
  return {
    dataDir := ← textEntry entries "data_dir"
    logDir := ← textEntry entries "log_dir"
    logLevel := ← textEntry entries "log_level"
    logRetention := ← numberEntry entries wide "log_retention"
    rateWindowSeconds := ← numberEntry entries wide "rate_limit_window_secs"
    rateMax := ← numberEntry entries narrow "rate_limit_max"
    mainBudget := ← numberEntry entries wide "main_budget_ms"
    probeBudget := ← numberEntry entries wide "probe_budget_ms" }

/-! ## Environment -/

/-- A number of the environment, below a bound; anything else counts as not set. -/
def numberVariable (env : String → Option String) (bound : Nat) (key : String) : Option Nat :=
  (env key).bind fun s => Numeral.natBelow? bound (trim s)

/-- The variable that names a file. -/
def fileVariable : String := "TORICCY_CONFIG"

/-- The settings of the environment. -/
def ofEnvironment (env : String → Option String) : Settings where
  dataDir := env "TORICCY_DATA_DIR"
  logDir := env "TORICCY_LOG_DIR"
  logLevel := env "TORICCY_LOG_LEVEL"
  logRetention := numberVariable env wide "TORICCY_LOG_RETENTION"
  rateWindowSeconds := numberVariable env wide "TORICCY_RATE_WINDOW_SECS"
  rateMax := numberVariable env narrow "TORICCY_RATE_MAX"
  mainBudget := numberVariable env wide "TORICCY_MAIN_BUDGET_MS"
  probeBudget := numberVariable env wide "TORICCY_PROBE_BUDGET_MS"

/-! ## Loading -/

/-- A file that was looked for: where, and its text if it can be read. -/
structure Candidate where
  path : String
  text : Option String

/-- The settings of a file, or what is wrong with it. -/
def ofCandidate (parse : String → Option Settings) (c : Candidate) : Except Fault Settings :=
  match c.text with
  | none => .error (.io (c.path ++ ": cannot be read"))
  | some text =>
    match parse text with
    | none => .error (.io (c.path ++ ": malformed settings"))
    | some s => .ok s

/-- The settings of files, the first of them the highest. As many as are required, counted from the
first, have to be good; the others count only if they are. -/
def ofFiles (parse : String → Option Settings) : Nat → List Candidate → Except Fault Settings
  | _, [] => .ok {}
  | required, c :: rest =>
    match ofCandidate parse c with
    | .ok s => (ofFiles parse (required - 1) rest).map s.layeredOn
    | .error e => if 0 < required then .error e else ofFiles parse 0 rest

/-- The settings of the environment over those of named files over those of probed files. -/
def load (env : String → Option String) (named probed : List Candidate)
    (parse : String → Option Settings := ofFile?) : Except Fault Settings :=
  (ofFiles parse named.length (named ++ probed)).map (ofEnvironment env).layeredOn

/-- Where files of settings are looked for, apart from the one that the environment names. -/
structure Places where
  /-- the file that the command line names -/
  commandLine : Option String
  /-- the file in the user's directory of settings -/
  user : Option String
  /-- the file in the current directory -/
  current : Option String

namespace Places

/-- The files that are named: they have to be good. -/
def named (p : Places) (env : String → Option String) : List String :=
  p.commandLine.toList ++ (env fileVariable).toList

/-- The files that count only if they are good. -/
def probed (p : Places) : List String := p.user.toList ++ p.current.toList

/-- Loads the settings, given the texts of the files that can be read. -/
def load (p : Places) (env : String → Option String) (files : String → Option String)
    (parse : String → Option Settings := ofFile?) : Except Fault Settings :=
  let look : String → Candidate := fun path => ⟨path, files path⟩
  Settings.load env ((p.named env).map look) (p.probed.map look) parse

end Places

/-- The settings under overrides. -/
def withOverrides (s overrides : Settings) : Settings := overrides.layeredOn s

/-! ## What settings mean -/

/-- The budgets of the service. -/
def budgets (s : Settings) : Budgets where
  main := s.mainBudget.getD ({} : Budgets).main
  probe := s.probeBudget.getD ({} : Budgets).probe

/-- The limiter of the service. -/
def limiter (s : Settings) : Limiter :=
  .new (match s.rateWindowSeconds with | some n => n * second | none => Limiter.standard.window)
    (s.rateMax.getD Limiter.standard.most)

end Settings

/-- How much is logged. -/
inductive LogLevel where
  | off
  | error
  | warn
  | info
  | debug
  | trace
  deriving DecidableEq, Repr

namespace LogLevel

/-- The name of a log level. -/
def name : LogLevel → String
  | off => "OFF"
  | error => "ERROR"
  | warn => "WARN"
  | info => "INFO"
  | debug => "DEBUG"
  | trace => "TRACE"

/-- Reads a level in any case; what is no level, and nothing, is `info`. -/
def ofText (text : Option String) : LogLevel :=
  match text with
  | none => info
  | some s =>
    let levels := [off, error, warn, debug, trace]
    (levels.find? fun l => Text.sameLetters l.name (Text.trim s)).getD info

end LogLevel

end Strata
