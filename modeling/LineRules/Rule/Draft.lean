import LineRules.Rule.Basic

/-!
# Drafts of rules

A rule is written down with loosely typed parts: a pattern may be given as text, a test
by the name of a mode, a message by `false`. `RuleDraft.build` checks the parts and
makes the rule.
-/

namespace LineRules

open LineRules.Text

/-- A pattern, written out or compiled. -/
inductive PatternSource where
  | text (source : String) (ignoreCase : Bool)
  | compiled (pattern : Pattern)

namespace PatternSource

/-- The pattern itself. -/
def compile : PatternSource → Except Fault Pattern
  | text source ignoreCase => (Pattern.compile source ignoreCase).mapError .pattern
  | compiled pattern => .ok pattern

end PatternSource

/-- A part of a rule that may be a value or a callback. -/
inductive Loose (α : Type) where
  | value (value : Value)
  | callback (run : α)

/-- A test as it is written down. -/
inductive LooseTest where
  | loose (part : Loose TestCallback)
  | mode (firstMatch : Bool)

/-- The parts of a rule as they are written down. -/
structure RuleDraft where
  regex : Option PatternSource := none
  test : LooseTest := .loose (.value .null)
  testFullItem : Value := .bool false
  message : Loose MessageCallback := .value .null
  replacer : Loose ReplaceCallback := .value .null
  ignore : Value := .null
  count : Value := .int 0

/-- The pattern that a rule-set gives for lines to leave alone. -/
def compileIgnore : Value → Except Fault (Option Pattern)
  | .null => .ok none
  | .text source => ((Pattern.compile source).mapError Fault.pattern).map some
  | value => .error (.rulePart .ignorePattern value.kindName)

namespace RuleDraft

/-- The test that a written test stands for. Names of modes are trimmed and taken up to
case. -/
def readTest : LooseTest → Except Fault TestSpec
  | .mode firstMatch => .ok (if firstMatch then .firstMatch else .search)
  | .loose (.callback run) => .ok (.callback run)
  | .loose (.value .null) => .ok .search
  | .loose (.value (.text name)) =>
    let normalized := String.ofList (lower (trim name.toList))
    if normalized = "match" then .ok .firstMatch
    else if normalized = "search" || normalized = "test" then .ok .search
    else .error (.testMode (quote name))
  | .loose (.value value) => .error (.rulePart .test value.kindName)

/-- The message that a written message stands for. -/
def readMessage : Loose MessageCallback → Except Fault MessageSpec
  | .callback run => .ok (.callback run)
  | .value .null => .ok .byName
  | .value (.bool false) => .ok .suppressed
  | .value (.text template) => .ok (.template template)
  | .value value => .error (.rulePart .message value.kindName)

/-- The replacer that a written replacer stands for. -/
def readReplacer : Loose ReplaceCallback → Except Fault (Option ReplacerSpec)
  | .callback run => .ok (some (.callback run))
  | .value .null => .ok none
  | .value (.text template) => .ok (some (.template template))
  | .value value => .error (.rulePart .replacer value.kindName)

/-- Whether a written ignore policy skips executable scripts. -/
def readIgnore : Value → Except Fault Bool
  | .null => .ok false
  | .text "node" => .ok true
  | value => .error (.ignorePolicy value.quoted)

/-- Builds the rule. Of several bad parts the first is blamed: pattern, test, message,
replacer, ignore policy. -/
def build (draft : RuleDraft) : Except Fault Rule := do
  let regex ← draft.regex.mapM PatternSource.compile
  let test ← readTest draft.test
  let message ← readMessage draft.message
  let replacer ← readReplacer draft.replacer
  let ignoreInScripts ← readIgnore draft.ignore
  return {
    regex, test, message, replacer, ignoreInScripts
    testFullItem := draft.testFullItem.isTruthy
    count := draft.count }

end RuleDraft

end LineRules
