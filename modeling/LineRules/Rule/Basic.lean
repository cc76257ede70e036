import LineRules.Fault
import LineRules.Pattern.Basic
import LineRules.Value

/-!
# Rules

A rule tests a line, words a message for it, and may replace text in it. Each of the
three is given by a pattern, a template, or a callback.

The line under work is a value, because a callback may answer with any value; all that
the built-in rules ever produce is text.
-/

namespace LineRules

open LineRules.Pattern

/-- The state of the work on one line. -/
structure Context where
  /-- The text that tests look at. -/
  item : Value
  /-- The text that replacements change, and that the line ends up as. -/
  fullItem : Value
  lineNumber : Int := 1
  /-- Whether the file starts as an executable script. -/
  executable : Bool := false
  /-- Lines that match this pattern are left alone. -/
  customIgnore : Option Pattern := none
  /-- The rule-set of the rule that was evaluated last. -/
  ruleSetName : Option String := none
  /-- The rule that was evaluated last. -/
  ruleName : Option String := none

namespace Context

/-- The start of the work on a line. -/
def ofLine (line : String) (lineNumber : Int) (executable : Bool)
    (customIgnore : Option Pattern) : Context where
  item := .text line
  fullItem := .text line
  lineNumber
  executable
  customIgnore

end Context

/-- What a test found: a match, or a value. -/
inductive Evidence where
  | found (found : Match)
  | value (value : Value)

namespace Evidence

/-- Whether the test succeeded. -/
def isTruthy : Evidence → Bool
  | found _ => true
  | value result => result.isTruthy

end Evidence

/-- A test by callback, given the text, the rule's pattern, and the context. -/
abbrev TestCallback := Value → Option Pattern → Context → Except Fault Evidence

/-- A message by callback, given the line number, the text, and what the test found. -/
abbrev MessageCallback := Int → Value → Evidence → Context → Except Fault Value

/-- A replacement by callback, given the full text, what the test found, and the rule's
pattern. -/
abbrev ReplaceCallback := Value → Evidence → Option Pattern → Context → Except Fault Value

/-- How a rule tests a line. -/
inductive TestSpec where
  /-- By whether the pattern matches somewhere. -/
  | search
  /-- By the first match of the pattern, which the message can use. -/
  | firstMatch
  | callback (run : TestCallback)

/-- How a rule words its message. -/
inductive MessageSpec where
  /-- From its own name. -/
  | byName
  /-- Not at all. -/
  | suppressed
  | template (text : String)
  | callback (run : MessageCallback)

/-- How a rule replaces text. -/
inductive ReplacerSpec where
  | template (text : String)
  | callback (run : ReplaceCallback)

/-- A rule for lines. -/
structure Rule where
  regex : Option Pattern := none
  test : TestSpec := .search
  /-- Whether the test looks at the full text. -/
  testFullItem : Bool := false
  message : MessageSpec := .byName
  replacer : Option ReplacerSpec := none
  /-- Whether the rule is skipped in executable scripts. -/
  ignoreInScripts : Bool := false
  /-- How many matches a template replaces; zero for all. -/
  count : Value := .int 0

namespace Value

/-- The characters of a text, for a pattern to run on. -/
def asText : Value → Except Fault (List Char)
  | text value => .ok value.toList
  | value => .error (.notText value.kindName)

end Value

end LineRules
