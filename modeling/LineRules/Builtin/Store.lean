import LineRules.Builtin.Whitespace
import LineRules.Builtin.StyleSheet
import LineRules.Builtin.Page
import LineRules.Builtin.Script

/-!
# The built-in rule-sets

The store that every check starts from, and the store with custom rule-sets laid over
it.
-/

namespace LineRules.Builtin

/-- The built-in rule-sets under their names. -/
def ruleSets : RuleSet :=
  [("common", .ruleSet whitespaceRules), ("js", .ruleSet scriptRules),
    ("css", .ruleSet styleRules), ("html", .ruleSet pageRules)]

/-- The store of the built-in rule-sets; all their patterns are compiled already. -/
def store : Store := ⟨ruleSets⟩

/-- The built-in rule-sets with custom ones laid over them. -/
def storeWith (custom : RuleSet) : Except Fault Store :=
  if custom.isEmpty then .ok store else store.merged custom

end LineRules.Builtin
