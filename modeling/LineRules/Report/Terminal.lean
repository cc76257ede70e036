import LineRules.Report.Basic

/-!
# Reports for the terminal

Styled lines: for each file its path, its violations in the order of their places, and an
empty line; at the end a summary. A violation is marked as fixed if fixes were written and
none like it remains.
-/

namespace LineRules.Report

/-- The styles of terminal text. -/
inductive Style where
  | plain
  | bold
  | dim
  | green
  | yellow
  | boldRed
  | boldGreen
deriving Repr, DecidableEq

namespace Style

/-- The name of a style. -/
def name : Style → String
  | plain => ""
  | bold => "bold"
  | dim => "dim"
  | green => "green"
  | yellow => "yellow"
  | boldRed => "bold red"
  | boldGreen => "bold green"

end Style

/-- A stretch of a text with a style of its own. -/
structure Span where
  start : Nat
  stop : Nat
  style : Style
deriving Repr, DecidableEq

/-- A text with styles. -/
structure StyledText where
  chars : List Char
  style : Style := .plain
  spans : List Span := []
deriving Repr, DecidableEq

/-- The controls that a terminal would act on: bell, backspace, vertical tab, form feed
and carriage return. -/
def isTerminalControl (c : Char) : Bool :=
  c = '\x07' || c = '\x08' || c = '\x0b' || c = '\x0c' || c = '\r'

namespace StyledText

/-- A text in one style, without controls. -/
def ofString (text : String) (style : Style := .plain) : StyledText where
  chars := text.toList.filter fun c => !isTerminalControl c
  style

/-- A text continued by another. -/
def append (text : StyledText) (more : String) (style : Style := .plain) : StyledText :=
  let added := more.toList.filter fun c => !isTerminalControl c
  let start := text.chars.length
  { text with
    chars := text.chars ++ added
    spans :=
      if more.isEmpty || style = .plain then text.spans
      else text.spans ++ [⟨start, start + added.length, style⟩] }

end StyledText

/-- A line for the terminal, or an empty one. -/
abbrev TerminalLine := Option StyledText

/-- What two violations must share to count as the same: rule, line and message, where
an unknown line counts as zero. -/
def terminalKey (violation : Violation) : String × Int × String :=
  (violation.ruleId, violation.line?.getD 0, violation.message)

/-- Whether a violation is marked as fixed. -/
def isFixed (report : Report) (violation : Violation) : Bool :=
  report.written && !(report.remaining.map terminalKey).contains (terminalKey violation)

/-- The mark of a severity and its style. -/
def severityMark : Severity → String × Style
  | .error => ("✖", .boldRed)
  | .warn => ("⚠", .yellow)
  | .info => ("ℹ", .dim)
  | .other _ => ("•", .plain)

/-- The line of a violation. -/
def violationLine (violation : Violation) (fixed : Bool) : StyledText :=
  let (mark, style) := if fixed then ("✔", .green) else severityMark violation.severity
  (((StyledText.ofString "").append ("  " ++ mark ++ " ") style).append violation.message).append
    ("  " ++ violation.ruleId) .dim

/-- Where a violation stands among others: an unknown or zeroth line comes after a
thousand million lines, an unknown column before all others. -/
def place (violation : Violation) : Int × Int × String :=
  let line := match violation.line? with
    | none | some 0 => 1000000000
    | some line => line
  (line, violation.column?.getD 0, violation.ruleId)

/-- Whether one violation is listed before another or may be. -/
def listedBefore (a b : Violation) : Bool :=
  let (line, column, rule) := place a
  let (otherLine, otherColumn, otherRule) := place b
  line < otherLine ||
    (line == otherLine &&
      (column < otherColumn || (column == otherColumn && decide (rule ≤ otherRule))))

/-- The lines of a file, under the path as it is shown. -/
def fileLines (shown : String) (report : Report) : List TerminalLine :=
  let title := StyledText.ofString shown .bold
  let header := if report.written then title.append "  (fixed)" .green else title
  let state := match report.error with
    | some error => [StyledText.ofString ("  ✖ " ++ error) .boldRed]
    | none =>
      if report.violations.isEmpty then [StyledText.ofString "  No problems found" .dim] else []
  let listed := (report.violations.mergeSort listedBefore).map fun violation =>
    violationLine violation (isFixed report violation)
  let failure := match report.writeError with
    | some error => [StyledText.ofString ("  ✖ Unable to write changes: " ++ error) .boldRed]
    | none => []
  (header :: state ++ listed ++ failure).map some ++ [none]

/-- The line that sums up all files. -/
def summaryLine (summary : Summary) : StyledText :=
  let parts :=
    ["Checked " ++ toString summary.filesRead ++ " file(s)",
      toString summary.foundCount ++ " problem(s)"] ++
    if 0 < summary.goneCount then [toString summary.goneCount ++ " fixed"] else []
  .ofString (", ".intercalate parts) (if summary.leavesViolations then .boldRed else .boldGreen)

/-- Whether a quiet report passes over a file. -/
def isUneventful (report : Report) : Bool :=
  report.violations.isEmpty && report.error.isNone && report.writeError.isNone

/-- The report of all files; `shown` says how a path is shown. -/
def summaryLines (shown : Path → String) (quiet : Bool) (summary : Summary) :
    List TerminalLine :=
  let files := if quiet then summary.files.filter fun report => !isUneventful report
    else summary.files
  files.flatMap (fun report => fileLines (shown report.path) report)
    ++ [some (summaryLine summary)]

end LineRules.Report
