import Strata.Arguments
import Strata.Text.Numeral

/-!
# The program

Reads what the command line names, runs the command and prints what it says.
-/

namespace Strata

/-- The text of a file, if it can be read. -/
def readFile? (path : String) : IO (Option String) := do
  try
    let text ← IO.FS.readFile path
    return some text
  catch _ => return none

/-- The text on standard input from here on. -/
partial def readInput (input : IO.FS.Stream) (sofar : String) : IO String := do
  let line ← input.getLine
  if line.isEmpty then return sofar else readInput input (sofar ++ line)

/-- The body of a request: a file, or standard input for `-`. -/
def readBody (path : String) : IO String := do
  if path = "-" then readInput (← IO.getStdin) "" else IO.FS.readFile path

/-- The file whose next bytes are read behind some others. -/
partial def readOpened (handle : IO.FS.Handle) (sofar : ByteArray) : IO LevelFile := do
  let chunk ← try
      let bytes ← handle.read 65536
      pure (Except.ok bytes)
    catch e => pure (Except.error (toString e))
  match chunk with
  | .error reason => return .opened sofar.toList (some reason)
  | .ok bytes =>
    if bytes.isEmpty then return .opened sofar.toList none else readOpened handle (sofar ++ bytes)

/-- The file at a path, if there is one. -/
def readLevelFile? (path : String) : IO (Option LevelFile) := do
  let isFile ← try
      let real ← IO.FS.realPath path
      let data ← real.metadata
      pure (match data.type with | .file => true | _ => false)
    catch _ => pure false
  if !isFile then return none
  try
    let handle ← IO.FS.Handle.mk path .read
    return some (← readOpened handle ByteArray.empty)
  catch e => return some (.closed (toString e))

/-- The directory at a path, with the files of the levels. -/
def readFolder? (path : String) : IO (Option Folder) := do
  let isDirectory ← try
      let real ← IO.FS.realPath path
      real.isDir
    catch _ => pure false
  if !isDirectory then return none
  let mut files : List (Level × LevelFile) := []
  for level in Level.all do
    if let some file ← readLevelFile? (path ++ "/" ++ fileName level) then
      files := (level, file) :: files
  let found := files
  return some ⟨path, fun level => found.lookup level⟩

/-- The file of settings in the user's directory, if the environment leads to it. -/
def userFile : IO (Option String) := do
  let home ← IO.getEnv "HOME"
  let configHome ← IO.getEnv "XDG_CONFIG_HOME"
  return (configHome <|> home.map (· ++ "/.config")).map (· ++ "/toriccy.toml")

/-- The variables of the environment that hold settings or lead to them. -/
def variableNames : List String :=
  [Settings.fileVariable, "TORICCY_DATA_DIR", "TORICCY_LOG_DIR", "TORICCY_LOG_LEVEL",
   "TORICCY_LOG_RETENTION", "TORICCY_RATE_WINDOW_SECS", "TORICCY_RATE_MAX",
   "TORICCY_MAIN_BUDGET_MS", "TORICCY_PROBE_BUDGET_MS"]

/-- The settings of the process. -/
def loadSettings (a : Arguments) : IO (Except Fault Settings) := do
  let values ← variableNames.mapM fun name => return (name, ← IO.getEnv name)
  let env := fun key => (values.lookup key).join
  let places : Settings.Places := ⟨a.get? "config", ← userFile, some "toriccy.toml"⟩
  let texts ← (places.named env ++ places.probed).mapM fun path => return (path, ← readFile? path)
  let overrides : Settings := { logLevel := a.get? "log-level" }
  let loaded := places.load env fun path => (texts.lookup path).join
  return loaded.map fun s => s.withOverrides overrides

/-- The command of a verb, its request read. -/
def readCommand : Verb → IO Command
  | .compile file => return .compile (← readBody file)
  | .run file dataDir client => return .run (← readBody file) dataDir client
  | .ready c => return c

/-- The directory that a command reads. -/
def directoryOf (s : Settings) : Command → Option String
  | .run _ dataDir _ => dataDir <|> s.dataDir
  | _ => none

/-- The number of the first fresh identifier: the time in front of eight free bytes. -/
def firstId : IO Nat := do
  let millis ← IO.monoMsNow
  return millis * 2 ^ 64

/-- Prints an outcome; the result is the status of the process. -/
def report (o : Outcome) : IO UInt32 := do
  IO.print o.text
  match o.fault with
  | none => return 0
  | some e =>
    IO.eprintln ("error: " ++ e.message)
    return 1

/-- Runs the command of a command line. -/
def runProgram (a : Arguments) (verb : Verb) : IO UInt32 := do
  match ← loadSettings a with
  | .error e =>
    IO.eprintln ("config error: " ++ e.message)
    return 2
  | .ok settings =>
    let command ← readCommand verb
    let folder ← match directoryOf settings command with
      | some path => readFolder? path
      | none => pure none
    report (command.execute settings (fun _ => folder) (← firstId)
      (OutputMode.ofText (a.get? "format")))

end Strata

open Strata in
/-- Runs the command that the arguments state; the result is the status of the process. -/
def main (args : List String) : IO UInt32 := do
  match (do let a ← Arguments.read args; let v ← a.verb; return (a, v)) with
  | .error reason =>
    IO.eprintln reason
    return 2
  | .ok (a, verb) => runProgram a verb
