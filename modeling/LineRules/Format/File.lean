import LineRules.Builtin.Store
import LineRules.Format.Plan
import LineRules.RuleSet.Run
import LineRules.Text.Line
import LineRules.Token.Lint

/-!
# Formatting a file

The lines of a file are run through the rule-sets of the plan, one after another, and
put together again with their own endings. In scripts the token rules then look at the
text that has come out.
-/

namespace LineRules.Format

open LineRules.Text

/-- What token rules a file is checked by. -/
structure Linter where
  registry : Token.Registry
  config : Config := {}
  grammar : Token.Grammar := .missing

/-- What a file is formatted with. -/
structure Formatter where
  language : Language
  store : Store
  /-- Lines that match this pattern are left alone. -/
  customIgnore : Option Pattern := none
  linter : Option Linter := none

/-- What formatting gave. -/
structure Formatted where
  given : String
  updated : String
  violations : List Violation
deriving Repr, DecidableEq

namespace Formatted

/-- Whether formatting changed the text. -/
def changed (result : Formatted) : Bool := result.given ≠ result.updated

end Formatted

/-- Whether a text starts as an executable script. -/
def isExecutable : List Char → Bool
  | '#' :: '!' :: _ => true
  | _ => false

/-- A message for a line as a violation. -/
def violationOf (path : Path) (entry : LogEntry) : Violation where
  ruleId := entry.ruleSetName.getD "" ++ "." ++ entry.ruleName.getD ""
  severity := .warn
  message := entry.message.shown
  location := some { path := some path, line := some entry.lineNumber }
  origin := .line

namespace Formatter

/-- Runs rule-sets on a line. -/
def runLine (formatter : Formatter) (shebang : Bool) (number : Nat) (line : List Char)
    (refs : List String) : Progress :=
  let context := Context.ofLine (String.ofList line) number shebang formatter.customIgnore
  formatter.store.applyAll {} (refs.map .named) { context }

/-- What has become of a line and the violations found in it. -/
def formatLine (formatter : Formatter) (path : Path) (shebang : Bool) (number : Nat)
    (line : List Char) (refs : List String) : Noted (List Char × List Violation) :=
  let progress := formatter.runLine shebang number line refs
  let outcome : Except Fault (List Char) := match progress with
    | .stopped fault _ => .error fault
    | .going run => run.context.fullItem.asText
  ⟨outcome.map fun text => (text, progress.run.log.map (violationOf path)),
    progress.run.unresolved.map fun ref => .noRuleSet ref.quoted⟩

/-- What has become of planned lines, and the violations found in them; `number` is the
number of the first one. -/
def formatLines (formatter : Formatter) (path : Path) (shebang : Bool) (number : Nat) :
    List (Line × List String) → Noted (List Line × List Violation)
  | [] => pure ([], [])
  | (line, refs) :: rest => do
    let (content, found) ← formatter.formatLine path shebang number line.content refs
    let (lines, others) ← formatLines formatter path shebang (number + 1) rest
    return (⟨content, line.ending⟩ :: lines, found ++ others)

/-- The violations of token rules in a text; only scripts are checked for them. -/
def lint (formatter : Formatter) (path : Path) (text : String) : Noted (List Violation) :=
  match formatter.language, formatter.linter with
  | .javaScript, some linter =>
    Token.lint linter.registry linter.config linter.grammar path text
  | _, _ => pure []

/-- Formats a text. -/
def format (formatter : Formatter) (path : Path) (text : String) : Noted Formatted := do
  let lines := linesOf text.toList
  let plan ← Format.plan formatter.language (lines.map Line.content)
  let (lines, found) ← formatter.formatLines path (isExecutable text.toList) 1 (lines.zip plan)
  let updated := String.ofList (lines.flatMap Line.chars)
  let linted ← formatter.lint path updated
  let violations := found ++ linted
  Noted.note (.formatted path violations.length formatter.language.ruleSets)
  return ⟨text, updated, violations⟩

end Formatter

/-- The formatter of a file, if its language is supported. -/
def Formatter.ofPath? (path : Path) (store : Store) (customIgnore : Option Pattern := none)
    (linter : Option Linter := none) : Option Formatter :=
  (Language.ofPath? path).map fun language => { language, store, customIgnore, linter }

end LineRules.Format
