import LineRules.Pattern.Error

/-!
# Refusals of settings

Why a configuration is refused: the setting and what is wrong with it, or the file that
cannot be used.
-/

namespace LineRules

/-- What is wrong with a setting. -/
inductive SettingProblem where
  | notTable
  | notInteger
  | below (least : Nat)
  | notPatternText
  | notTextList
  | notSeverity
  | notTokenRuleId
  | emptyRuleSetName
  | notTableOrName
  | notRuleSetEntry
  | unknownKeys (keys : List String)
  | notNonemptyText
  | notBoolean
  | notTextOrFalse
  | notText
  | notTestMode
  | notNode
  | notCount
  | badPattern (error : Pattern.PatternError)
  | badTemplate (error : Pattern.PatternError)
deriving Repr, DecidableEq

namespace SettingProblem

/-- The wording of a problem, after the name of the setting. -/
def message : SettingProblem → String
  | notTable => "must be a table."
  | notInteger => "must be an integer."
  | below least => "must be >= " ++ toString least ++ "."
  | notPatternText => "must be a regular expression string."
  | notTextList => "must be a list of strings."
  | notSeverity => "must be one of: off, warn, error."
  | notTokenRuleId => "is invalid; expected a rule id like csf-no-var."
  | emptyRuleSetName => "contains an empty rule-set name."
  | notTableOrName => "must be a table or a rule-set name."
  | notRuleSetEntry => "must be a rule table, a rule-set table or a rule-set name."
  | unknownKeys keys => "has unknown keys: " ++ ", ".intercalate keys ++ "."
  | notNonemptyText => "must be a non-empty string."
  | notBoolean => "must be a boolean."
  | notTextOrFalse => "must be a string or false."
  | notText => "must be a string."
  | notTestMode => "must be one of: match, search."
  | notNode => "must be \"node\"."
  | notCount => "must be an integer >= 0."
  | badPattern error => "is not a valid regular expression: " ++ error.message
  | badTemplate error => "is not a valid replacement template: " ++ error.message

end SettingProblem

/-- Why a configuration is refused. -/
inductive SettingError where
  /-- A setting, named by its dotted path, has a problem. -/
  | setting (field : String) (problem : SettingProblem)
  | fileNotFound (path : String)
  | malformedFile (path detail : String)
  | unreadableFile (path detail : String)
deriving Repr, DecidableEq

namespace SettingError

/-- The wording of a refusal. -/
def message : SettingError → String
  | setting field problem => "`" ++ field ++ "` " ++ problem.message
  | fileNotFound path => "Config file not found: " ++ path
  | malformedFile path detail => "Invalid TOML in " ++ path ++ ": " ++ detail
  | unreadableFile path detail => "Unable to read config file " ++ path ++ ": " ++ detail

end SettingError

end LineRules
