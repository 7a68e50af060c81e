import Strata.Json.Tree
import Strata.Store.Basic
import Strata.Text.Basic
import Strata.Text.Utf8
import Strata.Value.Display
import Strata.Value.Extended

/-!
# Loading records

Records come as files with one JSON object on each line; blank lines do not count. The first bad
line is reported by its number, and nothing of its file is taken. A directory has at most one file
for each level; the files are loaded in the order of the levels, and those before a bad one stay.

A file is bad as well if it cannot be opened, or if reading it fails. Where reading fails, the lines
that have been read whole are looked at first.
-/

namespace Strata

open Text

/-- The line feed. -/
def lineFeed : UInt8 := 10

/-- The lines of bytes. What follows the last line feed is a line if it is not empty; `current`
holds the bytes of the present line, last first. -/
def linesFrom (current : List UInt8) : List UInt8 → List (List UInt8)
  | [] => if current.isEmpty then [] else [current.reverse]
  | b :: rest =>
    if b = lineFeed then current.reverse :: linesFrom [] rest else linesFrom (b :: current) rest

/-- The lines of bytes, without their line feeds. -/
def lines (bytes : List UInt8) : List (List UInt8) := linesFrom [] bytes

/-- The fault of line `n`. -/
def lineFault (n : Nat) (reason : String) : Fault := .io (s!"line {n}: " ++ reason)

/-- The fault of bytes that are no text. -/
def notText : Fault := .io "stream did not contain valid UTF-8"

/-- Checks the identifier of the record on line `n`. -/
def checkIdentifier (n : Nat) (d : Document) : Except Fault Document :=
  match d.get? idField with
  | none | some (.objectId _) => .ok d
  | some v => .error (lineFault n ("_id must be an ObjectId, got " ++ v.display))

/-- The record that a text on line `n` states. -/
def readRecord (n : Nat) (text : String) : Except Fault Document :=
  match Json.read text with
  | .error e => .error (lineFault n e.message)
  | .ok v =>
    match Document.ofJson? v with
    | none => .error (lineFault n (Fault.io "expected JSON object").message)
    | some (.error e) => .error (lineFault n (Fault.io e.message).message)
    | some (.ok d) => checkIdentifier n d

/-- The record on line `n`; none if it is blank. -/
def readLine (n : Nat) (line : List UInt8) : Except Fault (Option Document) :=
  match Utf8.decode? line with
  | none => .error notText
  | some text =>
    if isBlankText text then .ok none else (readRecord n (trim text)).map some

/-- The records on lines, the first of which has number `n`. -/
def readLines (n : Nat) : List (List UInt8) → Except Fault (List Document)
  | [] => .ok []
  | line :: rest =>
    match readLine n line with
    | .error e => .error e
    | .ok d =>
      match readLines (n + 1) rest with
      | .error e => .error e
      | .ok ds => .ok (d.toList ++ ds)

/-- The records of a file. -/
def readRecords (bytes : List UInt8) : Except Fault (List Document) := readLines 1 (lines bytes)

/-- The lines of bytes that end with a line feed. -/
def endedLines (bytes : List UInt8) : List (List UInt8) :=
  lines (bytes.reverse.dropWhile (· != lineFeed)).reverse

/-- A file with records: one that cannot be opened, or one that gives bytes. If reading fails behind
these bytes, the file says why. -/
inductive LevelFile where
  | closed (reason : String)
  | opened (bytes : List UInt8) (failure : Option String)

/-- What is wrong with a file: it cannot be opened, or there is a fault in it. -/
inductive FileFault where
  | closed (reason : String)
  | broken (e : Fault)

/-- The records in a file. -/
def LevelFile.records : LevelFile → Except FileFault (List Document)
  | .closed reason => .error (.closed reason)
  | .opened bytes none => (readRecords bytes).mapError .broken
  | .opened bytes (some reason) =>
    match readLines 1 (endedLines bytes) with
    | .error e => .error (.broken e)
    | .ok _ => .error (.broken (.io reason))

/-- A directory of files with records: its path, and each level's file if it exists. -/
structure Folder where
  path : String
  file? : Level → Option LevelFile

/-- The name of the file of a level. -/
def fileName (level : Level) : String := level.name ++ ".ndjson"

/-- The fault of a path that is no directory. -/
def notDirectory (path : String) : Fault := .io ("not a directory: " ++ path)

/-- What is reported of the file of a level. A file that cannot be opened is not named. -/
def Folder.fault (f : Folder) (level : Level) : FileFault → Fault
  | .closed reason => .io reason
  | .broken (.io reason) => .io (f.path ++ "/" ++ fileName level ++ ": " ++ reason)
  | .broken e => e

/-- The number of records loaded at each level that has a file. -/
abbrev LoadReport := List (Level × Nat)

/-- The number of records loaded at all levels. -/
def LoadReport.total (r : LoadReport) : Nat := r.foldl (fun n loaded => n + loaded.2) 0

namespace Store

/-- Loads the files of some levels one after the other. -/
def loadLevels (s : Store) (folder : Folder) : List Level → Except Fault LoadReport × Store
  | [] => (.ok [], s)
  | level :: rest =>
    match folder.file? level with
    | none => loadLevels s folder rest
    | some file =>
      match file.records with
      | .error e => (.error (folder.fault level e), s)
      | .ok docs =>
        let (report, s) := loadLevels (s.insert level docs) folder rest
        (report.map fun r => (level, docs.length) :: r, s)

/-- Loads a directory. -/
def load (s : Store) (folder : Folder) : Except Fault LoadReport × Store :=
  s.loadLevels folder Level.all

/-- Loads the directory at a path, if there is one. -/
def loadAt (s : Store) (path : String) (folder? : Option Folder) :
    Except Fault LoadReport × Store :=
  match folder? with
  | none => (.error (notDirectory path), s)
  | some folder => s.load folder

end Store

end Strata
