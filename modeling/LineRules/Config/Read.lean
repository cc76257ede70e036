import LineRules.Config.Basic
import LineRules.Token.Registry

/-!
# Reading configurations

A configuration is written as a table. Its parts are read in a fixed order, and the first
problem is the one that is reported, under the dotted path of the setting.

Under `rules`, a table with a `regex` is a rule and any other table a rule-set. A dotted
name at the top leads through nested rule-sets, which are made on the way.
-/

namespace LineRules

open LineRules.Text

namespace Config

/-- The refusal of a setting. -/
def refuse {α : Type} (field : String) (problem : SettingProblem) : Except Fault α :=
  .error (.config (.setting field problem))

/-- The value of a setting that has two spellings; the first one wins. -/
def spelled (table : Keyed Value) (spelling other : String) : Option Value :=
  (table.get? spelling).or (table.get? other)

/-- Compiles the pattern of a setting. -/
def compileSetting (field source : String) (ignoreCase : Bool := false) :
    Except Fault Pattern :=
  match Pattern.compile source ignoreCase with
  | .ok pattern => .ok pattern
  | .error error =>
    if error.isMalformed then refuse field (.badPattern error) else .error (.pattern error)

/-- The least edition of the scripting language. -/
def leastEdition : Nat := 3

/-- The first year that editions are named after; from then on the year is the edition
and `yearOffset`. -/
def firstYear : Int := 2015

/-- The distance between years and editions. -/
def yearOffset : Int := 2009

/-- Reads the edition of the scripting language. -/
def readEcmaVersion : Option Value → Except Fault Int
  | none | some .null => .ok 5
  | some (.table options) =>
    let field := "tool.csf.parser-options.ecma-version"
    match spelled options "ecma-version" "ecma_version" with
    | none => .ok 5
    | some (.int version) =>
      let edition := if firstYear ≤ version then version - yearOffset else version
      if edition < leastEdition then refuse field (.below leastEdition) else .ok edition
    | some _ => refuse field .notInteger
  | some _ => refuse "tool.csf.parser-options" .notTable

/-- Reads the pattern of lines to leave alone; a blank text is none. -/
def readIgnore : Option Value → Except Fault (Option Pattern)
  | none | some .null => .ok none
  | some (.text source) =>
    if (trim source.toList).isEmpty then .ok none
    else (compileSetting "tool.csf.ignore" source).map some
  | some _ => refuse "tool.csf.ignore" .notPatternText

/-- The severity that a word or number stands for, up to case and outer blanks. -/
def severityNamed? (word : List Char) : Option TokenSeverity :=
  match String.ofList (lower (trim word)) with
  | "off" | "0" => some .off
  | "warn" | "1" | "warning" => some .warn
  | "error" | "2" => some .error
  | _ => none

/-- Reads a severity. -/
def readSeverity (field : String) (value : Value) : Except Fault TokenSeverity := do
  let named ← match value with
    | .text word => pure (severityNamed? word.toList)
    | .int number =>
      if Decimal.isTooLong number then throw .numberTooLong
      else pure (severityNamed? (toString number).toList)
    | _ => pure none
  match named with
  | some severity => return severity
  | none => refuse field .notSeverity

/-- Reads the setting of a token rule: a severity, or a table of options, in which the
severity may be left out. -/
def readTokenSetting (field : String) : Value → Except Fault TokenSetting
  | .table options => do
    let written := (Keyed.get? options "severity").getD (.text "warn")
    let severity ← readSeverity (field ++ ".severity") written
    return ⟨severity, Keyed.erase options "severity"⟩
  | value => do
    return { severity := ← readSeverity field value }

/-- Reads the settings of token rules. Rule ids are taken up to case and outer blanks. -/
def readTokenEntries (settings : Keyed TokenSetting) :
    List (String × Value) → Except Fault (Keyed TokenSetting)
  | [] => .ok settings
  | (written, value) :: rest => do
    let field := "tool.csf.token-rules." ++ written
    let id := lower (trim written.toList)
    if Token.isRuleId id then
      let setting ← readTokenSetting field value
      readTokenEntries (settings.put (String.ofList id) setting) rest
    else refuse field .notTokenRuleId

/-- Reads the table of token rules. -/
def readTokenRules : Option Value → Except Fault (Keyed TokenSetting)
  | none | some .null => .ok []
  | some (.table entries) => readTokenEntries [] entries
  | some _ => refuse "tool.csf.token-rules" .notTable

/-- Reads the list of plugins; blank ones are dropped. -/
def readPlugins : Option Value → Except Fault (List String)
  | none | some .null => .ok []
  | some (.list items) =>
    match items.mapM Value.text? with
    | some specs =>
      .ok ((specs.map fun spec => String.ofList (trim spec.toList)).filter (· ≠ ""))
    | none => refuse "tool.csf.plugins" .notTextList
  | some _ => refuse "tool.csf.plugins" .notTextList

/-- The keys that a rule may have. -/
def ruleFields : List String :=
  ["regex", "message", "replacer", "test", "test-full-item", "test_full_item", "ignore",
    "count", "ignore-case"]

/-- The keys of a table that no rule may have, in order. -/
def unknownKeys (table : Keyed Value) : List String :=
  (table.names.filter fun key => !ruleFields.contains key).mergeSort fun a b => decide (a ≤ b)

/-- Reads a truth value that may be left out. -/
def readFlag (field : String) : Option Value → Except Fault Bool
  | none => .ok false
  | some (.bool flag) => .ok flag
  | some _ => refuse field .notBoolean

/-- Reads the message of a rule: a text, or `false` for none. -/
def readMessage (field : String) : Option Value → Except Fault MessageSpec
  | none | some .null => .ok .byName
  | some (.bool false) => .ok .suppressed
  | some (.text template) => .ok (.template template)
  | some _ => refuse field .notTextOrFalse

/-- Reads the template of a rule. -/
def readTemplateText (field : String) : Option Value → Except Fault (Option String)
  | none | some .null => .ok none
  | some (.text template) => .ok (some template)
  | some _ => refuse field .notText

/-- Reads the test of a rule. A list or table cannot even be compared with the names of
the modes. -/
def readTest (field : String) : Option Value → Except Fault TestSpec
  | none | some .null => .ok .search
  | some (.text "search") => .ok .search
  | some (.text "match") => .ok .firstMatch
  | some (.list items) => .error (.notComparable (Value.list items).kindName)
  | some (.table entries) => .error (.notComparable (Value.table entries).kindName)
  | some _ => refuse field .notTestMode

/-- Reads the ignore policy of a rule. -/
def readPolicy (field : String) : Option Value → Except Fault Bool
  | none | some .null => .ok false
  | some (.text "node") => .ok true
  | some _ => refuse field .notNode

/-- Reads the replacement count of a rule. -/
def readCount (field : String) : Option Value → Except Fault Int
  | none => .ok 0
  | some (.int count) => if count < 0 then refuse field .notCount else .ok count
  | some _ => refuse field .notCount

/-- Checks the template of a rule against its pattern. -/
def checkTemplate (field : String) (pattern : Pattern) : Option String → Except Fault Unit
  | none => .ok ()
  | some template =>
    match pattern.template template with
    | .ok _ => .ok ()
    | .error error =>
      if error.isMalformed then refuse field (.badTemplate error) else .error (.pattern error)

/-- Reads a rule. -/
def readRule (field : String) (table : Keyed Value) : Except Fault Rule := do
  let unknown := unknownKeys table
  if !unknown.isEmpty then refuse field (.unknownKeys unknown)
  let source := ((table.get? "regex").bind Value.text?).getD ""
  if source = "" then refuse (field ++ ".regex") .notNonemptyText
  let ignoreCase ← readFlag (field ++ ".ignore-case") (table.get? "ignore-case")
  let pattern ← compileSetting (field ++ ".regex") source ignoreCase
  let message ← readMessage (field ++ ".message") (table.get? "message")
  let template ← readTemplateText (field ++ ".replacer") (table.get? "replacer")
  let test ← readTest (field ++ ".test") (table.get? "test")
  let testFullItem ← readFlag (field ++ ".test-full-item")
    (spelled table "test-full-item" "test_full_item")
  let ignoreInScripts ← readPolicy (field ++ ".ignore") (table.get? "ignore")
  let count ← readCount (field ++ ".count") (table.get? "count")
  checkTemplate (field ++ ".replacer") pattern template
  return {
    regex := some pattern
    replacer := template.map .template
    count := .int count
    test, testFullItem, message, ignoreInScripts }

mutual

/-- Reads an entry of a rule-set. -/
def readEntry (field name : String) : Value → Except Fault Entry
  | .text word =>
    if name = ignoreName then (compileSetting field word).map .pattern
    else .ok (.value (.text (String.ofList (trim word.toList))))
  | .table table =>
    if name = ignoreName then refuse field .notPatternText
    else if Keyed.has table "regex" then (readRule field table).map .rule
    else (readRuleSet field table).map .ruleSet
  | _ => refuse field (if name = ignoreName then .notPatternText else .notRuleSetEntry)

/-- Reads a rule-set. -/
def readRuleSet (field : String) : List (String × Value) → Except Fault RuleSet
  | [] => .ok []
  | (name, value) :: rest => do
    let entry ← readEntry (field ++ "." ++ name) name value
    let rest ← readRuleSet field rest
    return (name, entry) :: rest

end

/-- Puts an entry at the end of a path of names; rule-sets are made on the way, in the
place of anything else that stands there. Of two rule-sets at the end, the entries of the
new one are put into the old one. -/
def assignAlong (root : RuleSet) (entry : Entry) : List String → RuleSet
  | [] => root
  | [name] =>
    match root.get? name, entry with
    | some (.ruleSet old), .ruleSet new => root.put name (.ruleSet (Keyed.update old new))
    | _, _ => root.put name entry
  | name :: rest =>
    let inner := ((root.get? name).bind Entry.ruleSet?).getD []
    root.put name (.ruleSet (assignAlong inner entry rest))

/-- Puts an entry at a dotted name. -/
def putAt (root : RuleSet) (name : String) (entry : Entry) : RuleSet :=
  assignAlong root entry (segments name)

/-- Reads a rule-set or alias at the top. -/
def readTopEntry (field : String) : Value → Except Fault Entry
  | .text word => .ok (.value (.text (String.ofList (trim word.toList))))
  | .table table => (readRuleSet field table).map .ruleSet
  | _ => refuse field .notTableOrName

/-- Reads the rule-sets at the top, one after another. -/
def readTopEntries (root : RuleSet) : List (String × Value) → Except Fault RuleSet
  | [] => .ok root
  | (written, value) :: rest => do
    let name := String.ofList (trim written.toList)
    if name = "" then refuse "tool.csf.rules" .emptyRuleSetName
    let entry ← readTopEntry ("tool.csf.rules." ++ written) value
    readTopEntries (putAt root name entry) rest

/-- Reads the table of rule-sets. -/
def readRuleSets : Option Value → Except Fault RuleSet
  | none | some .null => .ok []
  | some (.table entries) => readTopEntries [] entries
  | some _ => refuse "tool.csf.rules" .notTable

/-- Reads a configuration. -/
def ofTable (table : Keyed Value) (source : Option Path := none) : Except Fault Config := do
  let ecmaVersion ← readEcmaVersion (spelled table "parser-options" "parser_options")
  let ignore ← readIgnore (table.get? "ignore")
  let tokenRules ← readTokenRules (spelled table "token-rules" "token_rules")
  let plugins ← readPlugins (table.get? "plugins")
  let ruleSets ← readRuleSets (table.get? "rules")
  return { ecmaVersion, ignore, tokenRules, plugins, ruleSets, source }

end Config

end LineRules
