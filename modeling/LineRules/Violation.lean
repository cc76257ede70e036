import LineRules.Path

/-!
# Violations

What a check reports: which rule was violated, how serious that is, where, and in which
words.
-/

namespace LineRules

/-- How serious a violation is. -/
inductive Severity where
  | info
  | warn
  | error
  /-- A severity by a name of its own. -/
  | other (name : String)
deriving Repr, DecidableEq

namespace Severity

/-- The name of a severity. -/
def name : Severity → String
  | info => "info"
  | warn => "warn"
  | error => "error"
  | other name => name

/-- The severity with a name. -/
def ofName : String → Severity
  | "info" => info
  | "warn" => warn
  | "error" => error
  | name => other name

end Severity

/-- The kind of rule that a violation comes from. -/
inductive Origin where
  | line
  | token
  /-- A kind by a name of its own. -/
  | other (name : String)
deriving Repr, DecidableEq

namespace Origin

/-- The name of a kind of rule. -/
def name : Origin → String
  | line => "line"
  | token => "token"
  | other name => name

/-- The kind of rule with a name. -/
def ofName : String → Origin
  | "line" => line
  | "token" => token
  | name => other name

end Origin

/-- A place in a file, as far as it is known; lines and columns count from one. -/
structure Location where
  path : Option Path := none
  line : Option Int := none
  column : Option Int := none
deriving Repr, DecidableEq

/-- A violation of a rule. -/
structure Violation where
  ruleId : String
  severity : Severity
  message : String
  location : Option Location := none
  origin : Origin := .line
deriving Repr, DecidableEq

namespace Violation

/-- The line of a violation, if it is known. -/
def line? (violation : Violation) : Option Int := violation.location.bind Location.line

/-- The column of a violation, if it is known. -/
def column? (violation : Violation) : Option Int := violation.location.bind Location.column

end Violation

end LineRules
