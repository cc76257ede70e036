import LineRules.Text.Quoted

/-!
# Refusals of token rules

Why a token rule cannot be registered or a plugin cannot be loaded.
-/

namespace LineRules

open LineRules.Text

/-- Why a plugin or a token rule is refused. -/
inductive PluginError where
  /-- The id of a rule has the wrong form. -/
  | badRuleId (id : String)
  /-- A module with a single rule has no check. -/
  | noCheck (moduleName : String)
  | importFailed (moduleName reason : String)
  | noAttribute (moduleName member : String)
  /-- A module exports no rules in any of the known ways. -/
  | noRules
  /-- An item of an exported list is no rule. -/
  | notARule (kind : String)
  | unsupportedExport (kind : String)
deriving Repr, DecidableEq

namespace PluginError

/-- The wording of a refusal. -/
def message : PluginError → String
  | badRuleId id => "Token rule id must look like csf-some-name: " ++ quote id
  | noCheck moduleName =>
    "Token rule module " ++ quote moduleName ++ " must define a `check(ctx)` function."
  | importFailed moduleName reason =>
    "Failed to import plugin module " ++ quote moduleName ++ ": " ++ reason
  | noAttribute moduleName member =>
    "Plugin module " ++ quote moduleName ++ " has no attribute " ++ quote member
  | noRules => "Plugin module must define `csf_token_rules()`, `TOKEN_RULES` or `check()`."
  | notARule kind => "Plugin rules must be TokenRule instances, got: " ++ kind
  | unsupportedExport kind => "Unsupported plugin export type: " ++ kind

end PluginError

end LineRules
