import Strata.Pattern.Footprint
import Strata.Pattern.Lead
import Strata.Pattern.Matching
import Strata.Pattern.Meaning

/-!
# Patterns

A pattern is a regular expression with its meaning worked out. Compiling refuses texts that are no
expression and expressions whose footprint is too large, unless their matches are so few texts that
they are searched for as such.
-/

namespace Strata

open Pattern

/-- A compiled regular expression. -/
structure Pattern where
  /-- the expression as given -/
  text : String
  /-- whether letters match in either case -/
  ignoreCase : Bool
  /-- its meaning -/
  expr : Expr

/-- Compiles a text whose footprint may have up to `limit` bytes. -/
def Pattern.compile (text : String) (ignoreCase : Bool) (limit : Nat := ceiling) :
    Except PatternError Pattern :=
  match Expr.read text ignoreCase with
  | .error e => .error e
  | .ok expr =>
    if expr.footprint?.any (· ≤ limit) || expr.isTexts then .ok ⟨text, ignoreCase, expr⟩
    else .error .tooLarge

/-- Whether some part of a text matches. -/
def Pattern.isMatch (p : Pattern) (s : String) : Bool := p.expr.isMatch s

end Strata
