import LineRules.Checker
import LineRules.Cli.Arguments
import LineRules.Config.Load
import LineRules.Report.Json
import LineRules.Report.Markup
import LineRules.Report.Table
import LineRules.Report.Terminal
import LineRules.Text.Case

/-!
# Running a command

A command is run on a disk and answers with what it prints, an exit code, and the disk as
it leaves it. Notices go to the second output: warnings always, everything else if the
program is asked to be verbose.
-/

namespace LineRules.Cli

open LineRules.Text LineRules.Report

/-- What a command runs on besides the disk. -/
structure Surroundings where
  modules : Token.Modules := []
  grammar : Token.Grammar := .missing

/-- How a command ended. -/
inductive Ending where
  | exit (code : Nat)
  /-- The command line cannot be understood. -/
  | usage
  /-- A fault that the program has no answer to. -/
  | crash (fault : Fault)

/-- What a command prints and how it ended. -/
structure Outcome where
  ending : Ending
  output : List Char := []
  errors : List Char := []

/-- A line of text. -/
def line (text : List Char) : List Char := text ++ ['\n']

/-- A notice as a line. -/
def noticeLine (verbosity : Verbosity) (notice : Notice) : String :=
  if verbosity = .verbose then
    "csf [" ++ notice.level.name ++ "] " ++ notice.logger ++ ": " ++ notice.message
  else "csf: " ++ notice.message

/-- The notices that are shown. -/
def noticeText (verbosity : Verbosity) (notices : List Notice) : List Char :=
  let shown := notices.filter fun notice =>
    verbosity = .verbose || notice.level = .warning
  shown.flatMap fun notice => line (noticeLine verbosity notice).toList

/-- The width of the terminal that output is laid out for. -/
def terminalWidth : Nat := 1000

/-- A styled line as plain text. -/
def plainLine : TerminalLine → List Char
  | none => ['\n']
  | some text => (wrapText .fold terminalWidth text.chars).flatMap line

/-- The output formats. -/
inductive OutputFormat where
  | terminal
  | json
deriving Repr, DecidableEq

/-- The output format of a name, up to case and outer blanks. -/
def OutputFormat.ofName? (name : String) : Option OutputFormat :=
  match String.ofList (lower (trim name.toList)) with
  | "terminal" => some .terminal
  | "json" => some .json
  | _ => none

/-- The words before the message of a fault that ends a command in good order; none for
any other fault. -/
def refusal? : Fault → Option String
  | .config _ => some "Invalid configuration: "
  | .plugin _ => some "Failed to load plugins: "
  | .definition _ _ _ => some "Invalid rule: "
  | _ => none

/-- The end of a command that was stopped by a fault. -/
def stopped (errors : List Char) (fault : Fault) : Outcome :=
  match refusal? fault with
  | none => ⟨.crash fault, [], errors⟩
  | some words =>
    match showMarkup (words ++ fault.message) with
    | .error fault => ⟨.crash fault, [], errors⟩
    | .ok text =>
      let shown := StyledText.ofString (String.ofList text)
      ⟨.exit 2, [], errors ++ plainLine (some shown)⟩

/-- The settings that a command works under: those of the named file, or those of the
project that the path belongs to. -/
def settingsFor (disk : Disk) (path : String) (source : SettingsSource) :
    Except Fault Config := do
  if source.defaults then return {}
  match source.file with
  | some file => Config.loadFile disk (Path.ofString file)
  | none =>
    let path := Path.ofString path
    let start := if (← disk.look path).isSome then path else Path.here
    let absolute : Path := ⟨.slash, start.absoluteParts disk.directory⟩
    Config.load disk (← Config.findProject disk absolute)

/-- The output of a check. -/
def checkOutput (disk : Disk) (request : CheckRequest) (quiet : Bool) (format : OutputFormat)
    (summary : Summary) : List Char :=
  let shown (path : Path) : String := path.display disk.directory request.relative
  if request.filenames then
    (summary.files.filter fun report => !report.violations.isEmpty || report.error.isSome).flatMap
      fun report => line (shown report.path).toList
  else
    match format with
    | .terminal => (summaryLines shown quiet summary).flatMap plainLine
    | .json => line (summaryJson shown summary).toList

/-- Checks files. -/
def runCheck (surroundings : Surroundings) (disk : Disk) (verbosity : Verbosity)
    (request : CheckRequest) : Disk × Outcome :=
  match OutputFormat.ofName? request.format with
  | none => (disk, { ending := .usage })
  | some format =>
    match settingsFor disk (request.arguments.head?.getD ".") request.settings with
    | .error fault => (disk, stopped [] fault)
    | .ok config =>
      let (disk, result) := checkArguments disk request.arguments config surroundings.modules
        surroundings.grammar request.inlineEdit
      let errors := noticeText verbosity result.notices
      match result.outcome with
      | .error fault => (disk, stopped errors fault)
      | .ok summary =>
        (disk,
          { ending := .exit (if summary.leavesViolations then 1 else 0)
            output := checkOutput disk request (verbosity = .quiet) format summary
            errors })

/-- A rule for lines as it is listed. -/
structure LineRow where
  ruleSet : String
  rule : String
  fixable : Bool
  pattern : Option String

/-- A token rule as it is listed. -/
structure TokenRow where
  id : String
  severity : String
  description : String

/-- The rules of the rule-sets in a store; aliases are passed over. -/
def lineRows (store : Store) : List LineRow :=
  store.names.flatMap fun name =>
    if store.isAlias name then []
    else
      ((store.lookupName name).getD []).filterMap fun (ruleName, entry) =>
        match entry with
        | .rule rule =>
          if isReserved ruleName then none
          else some ⟨name, ruleName, rule.replacer.isSome, rule.regex.map Pattern.source⟩
        | _ => none

/-- The token rules of a registry with their severities. -/
def tokenRows (config : Config) (registry : Token.Registry) : List TokenRow :=
  let settings := Token.resolveSettings config
  registry.rules.map fun (id, rule) =>
    let severity := match settings.get? id with
      | some setting => setting.severity
      | none => .off
    ⟨id, severity.name, rule.description⟩

/-- The listing as JSON, with sorted keys. -/
def listJson (lines : List LineRow) (tokens : List TokenRow) : String :=
  JsonText.render (.table
    [("line_rules", .list (lines.map fun row => .table
        [("fixable", .bool row.fixable),
          ("pattern", optionalText row.pattern),
          ("rule", .text row.rule),
          ("rule_set", .text row.ruleSet)])),
      ("token_rules", .list (tokens.map fun row => .table
        [("description", .text row.description),
          ("rule_id", .text row.id),
          ("severity", .text row.severity)]))])

/-- The text of a cell, in which markup is not shown. -/
def cellOf (text : String) : Except Fault (List Char) :=
  (showMarkup text).map fun shown => shown.filter fun c => !isTerminalControl c

/-- The table of the rules for lines. Its cells are read column by column. -/
def lineTable (rows : List LineRow) : Except Fault Table := do
  let ruleSets ← rows.mapM fun row => cellOf row.ruleSet
  let rules ← rows.mapM fun row => cellOf row.rule
  let fixable := rows.map fun row => (if row.fixable then "yes" else "no").toList
  return {
    title := "Line rules"
    columns := [{ header := "Rule-set" }, { header := "Rule" },
      { header := "Fixable", alignment := .center }]
    rows := ((ruleSets.zip rules).zip fixable).map fun ((ruleSet, rule), fixable) =>
      [ruleSet, rule, fixable] }

/-- The table of the token rules. Its cells are read column by column. -/
def tokenTable (rows : List TokenRow) : Except Fault Table := do
  let ids ← rows.mapM fun row => cellOf row.id
  let severities ← rows.mapM fun row => cellOf row.severity
  let descriptions ← rows.mapM fun row => cellOf row.description
  return {
    title := "Token rules"
    columns := [{ header := "ID" }, { header := "Severity" }, { header := "Description" }]
    rows := ((ids.zip severities).zip descriptions).map fun ((id, severity), description) =>
      [id, severity, description] }

/-- A table as text. -/
def tableText (table : Table) : List Char := (table.lines terminalWidth).flatMap line

/-- The listing as tables, or as much of it as there is before a fault. -/
def listTables (errors : List Char) (lines : List LineRow) (tokens : List TokenRow) : Outcome :=
  match lineTable lines with
  | .error fault => ⟨.crash fault, [], errors⟩
  | .ok first =>
    match tokenTable tokens with
    | .error fault => ⟨.crash fault, tableText first, errors⟩
    | .ok second => ⟨.exit 0, tableText first ++ tableText second, errors⟩

/-- Lists the rules. The directory has to be there. -/
def runList (surroundings : Surroundings) (disk : Disk) (verbosity : Verbosity)
    (request : ListRequest) : Outcome :=
  let project : Path :=
    ⟨.slash, (Path.ofString request.directory).absoluteParts disk.directory⟩
  if (disk.look project).toOption.join ≠ some .directory then { ending := .usage }
  else
    match settingsFor disk project.toString request.settings with
    | .error fault => stopped [] fault
    | .ok config =>
      let loading := Token.Registry.load {} surroundings.modules config.plugins
      let errors := noticeText verbosity loading.notices
      match loading.fault with
      | some fault => stopped errors fault
      | none =>
        match Builtin.storeWith config.ruleSets with
        | .error fault => ⟨.crash fault, [], errors⟩
        | .ok store =>
          let lines := lineRows store
          let tokens := tokenRows config loading.registry
          match OutputFormat.ofName? request.format with
          | none => { ending := .usage }
          | some .json => ⟨.exit 0, line (listJson lines tokens).toList, errors⟩
          | some .terminal => listTables errors lines tokens

/-- Runs a command line. -/
def run (surroundings : Surroundings) (disk : Disk) (words : List String) : Disk × Outcome :=
  match readArguments words with
  | none => (disk, { ending := .usage })
  | some (_, .version) => (disk, { ending := .exit 0, output := line version.toList })
  | some (_, .help) => (disk, { ending := .exit 0 })
  | some (_, .nullInPath) => (disk, { ending := .crash .nullInPath })
  | some (verbosity, .check request) => runCheck surroundings disk verbosity request
  | some (verbosity, .list request) => (disk, runList surroundings disk verbosity request)

end LineRules.Cli
