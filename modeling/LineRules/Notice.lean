import LineRules.Path

/-!
# Notices

What a check notes about its own work. Each notice has a level, the part of the program
that it comes from, and a wording; the command line decides which levels are shown.
-/

namespace LineRules

/-- The levels of notices. -/
inductive NoticeLevel where
  | debug
  | warning
deriving Repr, DecidableEq

namespace NoticeLevel

/-- The name of a level in log lines. -/
def name : NoticeLevel → String
  | debug => "DEBUG"
  | warning => "WARNING"

end NoticeLevel

/-- A notice. -/
inductive Notice where
  /-- A reference led to no rule-set; it is shown in quoted form. -/
  | noRuleSet (shown : String)
  | tokenRuleOverridden (id : String)
  | tokenRulesRegistered (total fromPlugins : Nat)
  | unknownTokenRule (id : String)
  | checking (count : Nat)
  | unsupportedFile (path : Path)
  | directorySkipped (path : Path)
  | parserMissing (path : Path)
  | unparsed (path : Path)
  | formatted (path : Path) (violations : Nat) (ruleSets : List String)
  | wrote (path : Path)
deriving Repr, DecidableEq

namespace Notice

/-- The level of a notice. -/
def level : Notice → NoticeLevel
  | unknownTokenRule _ => .warning
  | _ => .debug

/-- The name of the logger that a notice comes from. -/
def logger : Notice → String
  | noRuleSet _ => "check_source_formatting.engine.evaluator"
  | tokenRuleOverridden _ => "check_source_formatting.rules.loader"
  | tokenRulesRegistered _ _ => "check_source_formatting.rules.loader"
  | unknownTokenRule _ => "check_source_formatting.check"
  | checking _ => "check_source_formatting.check"
  | unsupportedFile _ => "check_source_formatting.check"
  | directorySkipped _ => "check_source_formatting.check"
  | parserMissing _ => "check_source_formatting.linters.js"
  | unparsed _ => "check_source_formatting.linters.js"
  | formatted _ _ _ => "check_source_formatting.formatters.base"
  | wrote _ => "check_source_formatting.files"

/-- The wording of a notice. -/
def message : Notice → String
  | noRuleSet shown => "no rule-set resolved for " ++ shown
  | tokenRuleOverridden id => "token rule " ++ id ++ " overridden"
  | tokenRulesRegistered total fromPlugins =>
    "registered " ++ toString total ++ " token rule(s) (" ++ toString fromPlugins
      ++ " from plugins)"
  | unknownTokenRule id => "Unknown token rule in config: " ++ id
  | checking count => "checking " ++ toString count ++ " path(s)"
  | unsupportedFile path => "skipping unsupported file " ++ path.toString
  | directorySkipped path => "skipping directory " ++ path.toString
  | parserMissing path =>
    "tree-sitter not installed; skipping token rules for " ++ path.toString
  | unparsed path => "unable to parse " ++ path.toString ++ "; skipping token rules"
  | formatted path violations ruleSets =>
    path.toString ++ ": " ++ toString violations ++ " violation(s) from "
      ++ ", ".intercalate ruleSets
  | wrote path => "wrote " ++ path.toString

end Notice

end LineRules
