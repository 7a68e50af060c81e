import Strata.Registry.Field

/-!
# Faults

Everything that can go wrong between a request and its answer. A fault that lies in the request is a
*validation fault*: it is found before any record is read and is reported as a list of issues, each
at a place of the request. All other faults are reported without their reason.
-/

namespace Strata

/-- One rejected place of a request. -/
structure Issue where
  path : String
  message : String
  deriving DecidableEq, Repr, Inhabited

/-- What went wrong. -/
inductive Fault where
  | validation (issues : List Issue)
  | fieldNotFilterable (level : Level) (field : String)
  | operatorNotAllowed (level : Level) (field : String) (op : Operator)
  | invalidPattern (level : Level) (field reason : String)
  | columnNotAllowed (level : Level) (column : String)
  | sortFieldNotAllowed (level : Level) (field : String)
  | inactiveJoinColumns (level : Level)
  | inactiveJoinConditions (level : Level)
  | cursor (reason : String)
  | rateLimited (seconds : Nat)
  | execution (reason : String)
  | json (reason : String)
  | io (reason : String)
  deriving DecidableEq, Repr

namespace Fault

/-- The issues of a list in one line. -/
def issuesText (issues : List Issue) : String :=
  String.intercalate "; " (issues.map fun i => i.path ++ ": " ++ i.message)

/-- The wording of a fault. -/
def message : Fault → String
  | validation issues => "Request validation failed: " ++ issuesText issues
  | fieldNotFilterable l f => "Field not filterable: " ++ l.name ++ "." ++ f
  | operatorNotAllowed l f op => "Operator not allowed: " ++ l.name ++ "." ++ f ++ " " ++ op.name
  | invalidPattern l f reason => "Invalid pattern for " ++ l.name ++ "." ++ f ++ ": " ++ reason
  | columnNotAllowed l c => "Column not allowed: " ++ l.name ++ "." ++ c
  | sortFieldNotAllowed l f => "Sort field not allowed: " ++ l.name ++ "." ++ f
  | inactiveJoinColumns l => "Columns requested for inactive join: " ++ l.name
  | inactiveJoinConditions l => "Conditions given for inactive join: " ++ l.name
  | cursor reason => "Invalid cursor: " ++ reason
  | rateLimited seconds => "rate-limited; retry-after-secs: " ++ toString seconds
  | execution reason => "Execution error: " ++ reason
  | json reason => "Serde JSON: " ++ reason
  | io reason => "I/O error: " ++ reason

/-- Whether the fault lies in the request. -/
def isValidation : Fault → Bool
  | rateLimited _ | execution _ | io _ => false
  | _ => true

/-- A validation fault as issues. -/
def issues : Fault → List Issue
  | validation is => is
  | e@(fieldNotFilterable l f) | e@(operatorNotAllowed l f _) | e@(invalidPattern l f _)
  | e@(columnNotAllowed l f) | e@(sortFieldNotAllowed l f) => [⟨l.name ++ "." ++ f, e.message⟩]
  | e@(inactiveJoinColumns l) | e@(inactiveJoinConditions l) => [⟨l.name, e.message⟩]
  | e@(cursor _) => [⟨"cursor", e.message⟩]
  | json reason => [⟨"body", "Invalid JSON body: " ++ reason⟩]
  | rateLimited _ | execution _ | io _ => []

end Fault

end Strata
