import Strata.Command
import Strata.Text.Basic

/-!
# Arguments

The words of a command line: options with their values, as `--name value` or `--name=value`, and the
other words in order. Words say where a request is; reading it is left to the caller.
-/

namespace Strata

/-- The words of a command line, sorted out. -/
structure Arguments where
  options : List (String × String)
  words : List String

/-- A command whose request has not been read yet. -/
inductive Verb where
  | compile (requestFile : String)
  | run (requestFile : String) (dataDir : Option String) (client : String)
  | ready (c : Command)

namespace Arguments

/-- The name of an option, without its dashes. -/
def optionName? (word : String) : Option (List Char) :=
  match word.toList with
  | '-' :: '-' :: c :: name => some (c :: name)
  | _ => none

/-- Sorts out words; an option at the end without a value is refused. -/
def read : List String → Except String Arguments
  | [] => .ok ⟨[], []⟩
  | word :: rest =>
    match optionName? word with
    | none => (read rest).map fun a => ⟨a.options, word :: a.words⟩
    | some name =>
      match Text.splitOnce? '=' name with
      | some (key, value) =>
        (read rest).map fun a => ⟨(String.ofList key, String.ofList value) :: a.options, a.words⟩
      | none =>
        match rest with
        | [] => .error ("missing value of --" ++ String.ofList name)
        | value :: rest =>
          (read rest).map fun a => ⟨(String.ofList name, value) :: a.options, a.words⟩

/-- The value of an option. -/
def get? (a : Arguments) (name : String) : Option String := a.options.lookup name

/-- The value of an option that has to be given. -/
def require (a : Arguments) (name : String) : Except String String :=
  match a.get? name with
  | some v => .ok v
  | none => .error ("missing option --" ++ name)

/-- The level of an option. -/
def level (a : Arguments) : Except String (Option Level) :=
  match a.get? "level" with
  | none => .ok none
  | some text => (Level.ofArgument text).map some

/-- The command of a command line. -/
def verb (a : Arguments) : Except String Verb :=
  match a.words with
  | ["compile"] => (a.require "request").map .compile
  | ["run"] =>
    (a.require "request").map fun file => .run file (a.get? "data") ((a.get? "client").getD "cli")
  | ["fields"] => a.level.map fun l => .ready (.fields l)
  | ["cursor", "encode", id] => .ok (.ready (.cursorEncode id))
  | ["cursor", "decode", token] => .ok (.ready (.cursorDecode token))
  | _ => .error "expected one of: compile, run, fields, cursor encode ID, cursor decode TOKEN"

end Arguments

end Strata
