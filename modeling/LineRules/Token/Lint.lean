import LineRules.Config.Basic
import LineRules.Noted
import LineRules.Token.Plugin
import LineRules.Violation

/-!
# Checking a file by token rules

The settings of token rules are laid over each other: the base ones, those for newer
editions of the scripting language, and those of the configuration. The rules that are
registered and not turned off are run in the order of the settings, and what they find is
sorted by place.
-/

namespace LineRules.Token

/-- How syntax trees are made from texts. -/
inductive Grammar where
  /-- No parser is installed. -/
  | missing
  /-- A parser is installed, which may find no tree in a text. -/
  | installed (parse : String → Option SyntaxNode)

/-- The settings that hold unless others are laid over them. -/
def baseSettings : Keyed TokenSetting :=
  [("csf-catch-arg-name", { severity := .warn }),
    ("csf-no-multiple-vars", { severity := .error }),
    ("csf-no-var", { severity := .off })]

/-- The settings that are laid over the base ones for editions after the fifth. -/
def newerSettings : Keyed TokenSetting :=
  [("csf-no-var", { severity := .warn })]

/-- The settings that hold under a configuration. -/
def resolveSettings (config : Config) : Keyed TokenSetting :=
  let base := if 5 < config.ecmaVersion then baseSettings.update newerSettings else baseSettings
  base.update config.tokenRules

/-- The rules that are registered and not turned off, with their settings. -/
def activeRules (registry : Registry) (settings : Keyed TokenSetting) :
    List (TokenRule × TokenSetting) :=
  settings.filterMap fun (id, setting) =>
    if setting.severity = .off then none
    else (registry.get? id).map fun rule => (rule, setting)

/-- The configured rule ids that are not registered, sorted. -/
def unregistered (config : Config) (registry : Registry) : List String :=
  (config.tokenRules.names.filter fun id => !registry.has id).mergeSort fun a b => decide (a ≤ b)

/-- A finding of a rule as a violation. -/
def violationOf (path : Path) (rule : TokenRule) (setting : TokenSetting) (finding : Finding) :
    Violation where
  ruleId := rule.id
  severity := if setting.severity = .error then .error else .warn
  message := "Line " ++ toString finding.line ++ ": " ++ finding.message
    ++ " (" ++ rule.id ++ ")"
  location := some ⟨some path, some finding.line, some finding.column⟩
  origin := .token

/-- The violations that rules find in a tree, rule after rule. -/
def findViolations (path : Path) (text : String) (tree : SyntaxNode) :
    List (TokenRule × TokenSetting) → Except Fault (List Violation)
  | [] => .ok []
  | (rule, setting) :: rest => do
    let findings ← rule.check ⟨path, text, some tree, setting.options⟩
    let others ← findViolations path text tree rest
    return findings.map (violationOf path rule setting) ++ others

/-- Whether one violation stands before another or at the same place; an unknown line or
column counts as zero. -/
def placeLe (a b : Violation) : Bool :=
  let place (violation : Violation) : Int × Int :=
    (violation.line?.getD 0, violation.column?.getD 0)
  let (line, column) := place a
  let (otherLine, otherColumn) := place b
  line < otherLine || (line == otherLine && column ≤ otherColumn)

/-- The violations of token rules in a text. A tree that is given spares the parser. -/
def lint (registry : Registry) (config : Config) (grammar : Grammar) (path : Path)
    (text : String) (given : Option SyntaxNode := none) : Noted (List Violation) := do
  let active := activeRules registry (resolveSettings config)
  if active.isEmpty then return []
  match given, grammar with
  | some tree, _ => return (← findViolations path text tree active).mergeSort placeLe
  | none, .missing => do
    Noted.note (.parserMissing path)
    return []
  | none, .installed parse =>
    match parse text with
    | some tree => return (← findViolations path text tree active).mergeSort placeLe
    | none => do
      Noted.note (.unparsed path)
      return []

end LineRules.Token
