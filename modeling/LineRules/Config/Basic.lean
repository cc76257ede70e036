import LineRules.Path
import LineRules.RuleSet.Basic

/-!
# Configurations

The settings of a check: the edition of the scripting language, a pattern for lines to
leave alone, the token rules with their severities, the plugins, and rule-sets to lay
over the built-in ones.
-/

namespace LineRules

/-- How seriously a token rule is taken. -/
inductive TokenSeverity where
  | off
  | warn
  | error
deriving Repr, DecidableEq

namespace TokenSeverity

/-- The name of a severity. -/
def name : TokenSeverity → String
  | off => "off"
  | warn => "warn"
  | error => "error"

end TokenSeverity

/-- The setting of a token rule. -/
structure TokenSetting where
  severity : TokenSeverity
  options : Keyed Value := []

/-- The settings of a check. -/
structure Config where
  /-- The edition of the scripting language, not its year. -/
  ecmaVersion : Int := 5
  /-- Lines that match this pattern are left alone. -/
  ignore : Option Pattern := none
  /-- The settings of token rules by rule id. -/
  tokenRules : Keyed TokenSetting := []
  /-- What to import token rules from. -/
  plugins : List String := []
  /-- Rule-sets to lay over the built-in ones. -/
  ruleSets : RuleSet := []
  /-- The file that the settings come from. -/
  source : Option Path := none

end LineRules
