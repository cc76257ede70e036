import LineRules.Pattern.Build
import LineRules.RuleSet.Basic

/-!
# Rules for JavaScript

Spacing around functions, keywords and semicolons, and calls and statements that should
not stay in a program.
-/

namespace LineRules.Builtin

open LineRules.Pattern LineRules.Pattern.Node

/-- Lines of comments, which are prose and not code. -/
def scriptComment : Pattern where
  source := "^\\s*(?://|/\\*|\\*)"
  ignoreCase := false
  node := sequence [textStart, star blank, words ["//", "/*", "*"]]
  groups := 0
  names := []

/-- An anonymous function with blanks before its parenthesis. -/
def anonymousFunction : Pattern where
  source := "\\bfunction\\s+\\("
  ignoreCase := false
  node := sequence ([boundary] ++ "function".toList.map lit ++ [plus blank, lit '('])
  groups := 0
  names := []

/-- The head of a function whose brace is not set off by exactly one space. -/
def functionBrace : Pattern where
  source := "\\bfunction\\b([\\w$ ]*)\\(([^)]*)\\)(?:\\s\x7b2,\x7d|\\t|)\\\x7b"
  ignoreCase := false
  node := sequence ([boundary] ++ "function".toList.map lit ++
    [boundary,
      group 1 (star (oneOf [.anyWord, .ofChar '$', .ofChar ' '])),
      lit '(',
      group 2 (star (noneOf [.ofChar ')'])),
      lit ')',
      choice [iterate .greedy 2 none blank, lit '\t', empty],
      lit '\x7b'])
  groups := 2
  names := []

/-- A keyword with its parenthesis right after it. -/
def tightKeyword : Pattern where
  source := "\\b(if|for|while|switch|catch)\\("
  ignoreCase := false
  node := sequence
    [boundary, group 1 (words ["if", "for", "while", "switch", "catch"]), lit '(']
  groups := 1
  names := []

/-- An `else` right after a brace. -/
def tightElse : Pattern where
  source := "\\\x7delse\\b"
  ignoreCase := false
  node := sequence ("\x7delse".toList.map lit ++ [boundary])
  groups := 0
  names := []

/-- An `else` right before a brace. -/
def elseTight : Pattern where
  source := "\\belse\\\x7b"
  ignoreCase := false
  node := sequence ([boundary] ++ "else\x7b".toList.map lit)
  groups := 0
  names := []

/-- Blanks before a semicolon that ends the line. -/
def looseSemicolon : Pattern where
  source := "(\\S)[ \\t]+;$"
  ignoreCase := false
  node := sequence
    [group 1 (oneOf [.blank true false]), plus (oneOf [.ofChar ' ', .ofChar '\t']), lit ';',
      lineEnd]
  groups := 1
  names := []

/-- Comparison with two characters where three are meant. -/
def looseEquality : Pattern where
  source := "[^=!<>]==[^=]|!=[^=]"
  ignoreCase := false
  node := choice
    [sequence [noneOf ("=!<>".toList.map .ofChar), lit '=', lit '=', noneOf [.ofChar '=']],
      sequence [lit '!', lit '=', noneOf [.ofChar '=']]]
  groups := 0
  names := []

/-- A debugger statement alone on its line. -/
def debuggerStatement : Pattern where
  source := "^\\s*debugger\\s*;?$"
  ignoreCase := false
  node := sequence ([textStart, star blank] ++ "debugger".toList.map lit ++
    [star blank, optional (lit ';'), lineEnd])
  groups := 0
  names := []

/-- A call that writes to the console. -/
def consoleCall : Pattern where
  source := "\\bconsole\\.(log|debug|info|warn|error|trace)\\("
  ignoreCase := false
  node := sequence ([boundary] ++ "console.".toList.map lit ++
    [group 1 (words ["log", "debug", "info", "warn", "error", "trace"]), lit '('])
  groups := 1
  names := []

/-- The message for a call that writes to the console names the call. -/
def callMessage : MessageCallback := fun lineNumber _ evidence _ =>
  match evidence with
  | .found found =>
    .ok (.text ("Line " ++ toString lineNumber ++ ": Unexpected console."
      ++ String.ofList (found.group 1) ++ "() call"))
  | .value _ => .ok .null

/-- The rules for JavaScript. -/
def scriptRules : RuleSet :=
  [(ignoreName, .pattern scriptComment),
    ("anonymous_function_spacing", .rule {
      regex := some anonymousFunction
      message := .template
        "Line \x7b0\x7d: Anonymous functions should not have a space before the parenthesis"
      replacer := some (.template "function(") }),
    ("function_brace_spacing", .rule {
      regex := some functionBrace
      message := .template
        "Line \x7b0\x7d: Function bodies should be formatted as function() \x7b"
      replacer := some (.template "function\\1(\\2) \x7b") }),
    ("keyword_spacing", .rule {
      regex := some tightKeyword
      message := .template "Line \x7b0\x7d: Missing space between keyword and parenthesis"
      replacer := some (.template "\\1 (") }),
    ("else_leading_space", .rule {
      regex := some tightElse
      message := .template "Line \x7b0\x7d: Missing space before else"
      replacer := some (.template "\x7d else") }),
    ("else_trailing_space", .rule {
      regex := some elseTight
      message := .template "Line \x7b0\x7d: Missing space after else"
      replacer := some (.template "else \x7b") }),
    ("space_before_semicolon", .rule {
      regex := some looseSemicolon
      message := .template "Line \x7b0\x7d: Extra space before semicolon"
      replacer := some (.template "\\1;") }),
    ("loose_equality", .rule {
      regex := some looseEquality
      message := .template "Line \x7b0\x7d: Use strict (in)equality operators" }),
    ("debugger_statement", .rule {
      regex := some debuggerStatement
      message := .template "Line \x7b0\x7d: Unexpected debugger statement" }),
    ("console_call", .rule {
      regex := some consoleCall
      test := .firstMatch
      message := .callback callMessage
      ignoreInScripts := true })]

end LineRules.Builtin
