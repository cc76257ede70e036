import LineRules.Report.Basic
import LineRules.Report.JsonText

/-!
# Reports as JSON

A violation is marked as fixed if fixes were written and it is not among the remaining
ones. A rule may be violated twice in a line, so the remaining violations are used up one
by one.
-/

namespace LineRules.Report

/-- The version of the program. -/
def version : String := "0.1.0"

/-- What two violations must share to count as the same: rule, line and message. -/
abbrev JsonKey := String × Option Int × String

/-- The key of a violation. -/
def jsonKey (violation : Violation) : JsonKey :=
  (violation.ruleId, violation.line?, violation.message)

/-- Which of the violations are gone, given the keys of those that remain. -/
def goneFlags (remaining : List JsonKey) : List Violation → List Bool
  | [] => []
  | violation :: rest =>
    let key := jsonKey violation
    if remaining.contains key then false :: goneFlags (remaining.erase key) rest
    else true :: goneFlags remaining rest

/-- Which violations of a file are marked as fixed. -/
def fixedFlags (report : Report) : List Bool :=
  (goneFlags (report.remaining.map jsonKey) report.violations).map fun gone =>
    gone && report.written

/-- A number that may be unknown. -/
def optionalInt : Option Int → Value
  | some number => .int number
  | none => .null

/-- A text that may be missing. -/
def optionalText : Option String → Value
  | some text => .text text
  | none => .null

/-- A violation in the report of its file. -/
def violationValue (violation : Violation) (fixed : Bool) : Value :=
  .table
    [("rule_id", .text violation.ruleId),
      ("severity", .text violation.severity.name),
      ("source", .text violation.origin.name),
      ("line", optionalInt violation.line?),
      ("column", optionalInt violation.column?),
      ("message", .text violation.message),
      ("fixed", .bool fixed)]

/-- The report of a file, under the path as it is shown. -/
def fileValue (shown : String) (report : Report) : Value :=
  .table
    [("path", .text shown),
      ("error", optionalText report.error),
      ("write_error", optionalText report.writeError),
      ("changed", .bool report.changed),
      ("written", .bool report.written),
      ("violations", .list
        ((report.violations.zip (fixedFlags report)).map fun (violation, fixed) =>
          violationValue violation fixed))]

/-- The report of all files; `shown` says how a path is shown. -/
def summaryValue (shown : Path → String) (summary : Summary) : Value :=
  .table
    [("schema_version", .int 1),
      ("tool", .table [("name", .text "check-source-formatting"), ("version", .text version)]),
      ("files", .list (summary.files.map fun report => fileValue (shown report.path) report)),
      ("summary", .table
        [("files_checked", .int summary.filesRead),
          ("violations", .int summary.foundCount),
          ("remaining", .int summary.leftCount),
          ("fixed", .int summary.goneCount)])]

/-- The report of all files as JSON. -/
def summaryJson (shown : Path → String) (summary : Summary) : String :=
  JsonText.render (summaryValue shown summary)

end LineRules.Report
