import LineRules.Pattern.Build
import LineRules.RuleSet.Basic

/-!
# Rules for every file

Blanks at the end of a line, and tabs after spaces in the indentation.
-/

namespace LineRules.Builtin

open LineRules.Pattern LineRules.Pattern.Node

/-- Spaces and tabs at the end of a line. -/
def trailingBlanks : Pattern where
  source := "[ \\t]+$"
  ignoreCase := false
  node := sequence [plus (oneOf [.ofChar ' ', .ofChar '\t']), lineEnd]
  groups := 0
  names := []

/-- Indentation in which a tab follows spaces. -/
def mixedIndentation : Pattern where
  source := "^\\t* +\\t"
  ignoreCase := false
  node := sequence [textStart, star (lit '\t'), plus (lit ' '), lit '\t']
  groups := 0
  names := []

/-- The rules that every supported file gets before those of its language. -/
def whitespaceRules : RuleSet :=
  [("trailing_whitespace", .rule {
      regex := some trailingBlanks
      message := .template "Line \x7b0\x7d: Trailing whitespace"
      replacer := some (.template "") }),
    ("mixed_indentation", .rule {
      regex := some mixedIndentation
      message := .template "Line \x7b0\x7d: Mixed spaces and tabs in indentation" })]

end LineRules.Builtin
