import LineRules.RuleSet.Basic
import LineRules.Rule.Message

/-!
# Running rule-sets on a line

A rule-set is resolved in the store and, unless an ignore pattern matches, its rules are
run in order. Each rule sees the text that the rules before it left. A fault stops the
run and keeps everything done before it.
-/

namespace LineRules

open LineRules.Pattern

namespace Value

/-- A number as a significand and a power of two, with its sign. -/
def number? : Value → Option (Bool × Nat × Int)
  | bool value => some (false, if value then 1 else 0, 0)
  | int value => some (decide (value < 0), value.natAbs, 0)
  | float bits =>
    match Decimal.Binary.ofBits bits with
    | .finite negative significand exponent => some (negative, significand, exponent)
    | _ => none
  | _ => none

/-- Whether two numbers are equal, whatever their kinds. -/
def sameNumber (a b : Bool × Nat × Int) : Bool :=
  let low := min a.2.2 b.2.2
  let m := a.2.1 * Nat.pow 2 (a.2.2 - low).toNat
  let n := b.2.1 * Nat.pow 2 (b.2.2 - low).toNat
  m == n && (m == 0 || a.1 == b.1)

mutual

/-- Whether two values are equal: texts by their characters, numbers by what they
count, lists and tables by their members. -/
def same : Value → Value → Bool
  | null, null => true
  | text a, text b => a == b
  | moment a, moment b => a == b
  | list as, list bs => sameItems as bs
  | tuple as, tuple bs => sameItems as bs
  | table as, table bs => as.length == bs.length && sameEntries as bs
  | a, b =>
    match a.number?, b.number? with
    | some m, some n => sameNumber m n
    | _, _ =>
      match a, b with
      | float m, float n => m == n && Decimal.Binary.ofBits m != .undefined
      | _, _ => false

/-- Whether two lists have equal items. -/
def sameItems : List Value → List Value → Bool
  | [], [] => true
  | a :: as, b :: bs => same a b && sameItems as bs
  | _, _ => false

/-- Whether every entry of the first table has an equal one in the second. -/
def sameEntries : List (String × Value) → List (String × Value) → Bool
  | [], _ => true
  | (key, a) :: as, bs =>
    (match Keyed.get? bs key with
      | some b => same a b
      | none => false) && sameEntries as bs

end

end Value

/-- What stays the same while rule-sets are run on a line. -/
structure Hooks where
  /-- Whether messages are collected. -/
  logs : Bool := true
  /-- Applied to the full text after every replacement. -/
  formatItem : Option (Value → Context → Except Fault Value) := none

/-- A message for a line, with the rule that gave it. -/
structure LogEntry where
  ruleSetName : Option String
  ruleName : Option String
  lineNumber : Int
  message : Value

/-- The work done on a line so far: its context, the messages, and the references that
led to no rule-set. -/
structure Run where
  context : Context
  log : List LogEntry := []
  unresolved : List RuleSetRef := []

/-- Where the work on a line stands: it goes on, or a fault stopped it. -/
inductive Progress where
  | going (run : Run)
  | stopped (fault : Fault) (run : Run)

namespace Progress

/-- The work done, whether or not it was stopped. -/
def run : Progress → Run
  | going run => run
  | stopped _ run => run

/-- Goes on with the work unless it was stopped. -/
def andThen (progress : Progress) (next : Run → Progress) : Progress :=
  match progress with
  | going run => next run
  | stopped fault run => stopped fault run

/-- Does a step that can fail and goes on with what it gives. -/
def bindExcept {α : Type} (run : Run) (step : Except Fault α) (next : α → Progress) : Progress :=
  match step with
  | .ok result => next result
  | .error fault => stopped fault run

end Progress

/-- The name of rule-sets that are given directly. -/
def anonymousName : String := "<anonymous>"

namespace Rule

/-- The pattern of a rule, which the rule must have. -/
def requirePattern (rule : Rule) (context : Context) : Except Fault Pattern :=
  match rule.regex with
  | some pattern => .ok pattern
  | none =>
    let named (name : Option String) :=
      match name with
      | some "" => anonymousName
      | some name => name
      | none => anonymousName
    .error (.definition (named context.ruleSetName) (named context.ruleName) .missingPattern)

/-- Whether a rule under a name is run on a line at all. -/
def appliesTo (rule : Rule) (name : String) (context : Context) : Bool :=
  !isReserved name && (!rule.ignoreInScripts || !context.executable)

/-- Tests a line. -/
def runTest (rule : Rule) (context : Context) : Except Fault Evidence := do
  let item := if rule.testFullItem then context.fullItem else context.item
  match rule.test with
  | .callback run => run item rule.regex context
  | .firstMatch =>
    let pattern ← rule.requirePattern context
    match pattern.search? (← item.asText) with
    | some found => return .found found
    | none => return .value .null
  | .search =>
    let pattern ← rule.requirePattern context
    return .value (.bool (pattern.matchesIn (← item.asText)))

/-- A replacement count as a number, which must fit into 64 bits. -/
def countOf : Value → Except Fault Int
  | .int count =>
    if -9223372036854775808 ≤ count && count ≤ 9223372036854775807 then .ok count
    else .error .countRange
  | .bool value => .ok (if value then 1 else 0)
  | value => .error (.countKind value.kindName)

/-- The full text with the matches of the rule's pattern replaced by a template. -/
def replaceByTemplate (rule : Rule) (template : String) (context : Context) :
    Except Fault Value := do
  let pattern ← rule.requirePattern context
  let count ← countOf rule.count
  let pieces ← (pattern.template template).mapError Fault.pattern
  let text ← context.fullItem.asText
  return .text (String.ofList (pattern.replacePieces pieces count text))

/-- Replaces text in a line. When the line is all there is, tests look at the replaced
text from then on. -/
def runReplacer (rule : Rule) (hooks : Hooks) (evidence : Evidence) (run : Run) : Progress :=
  match rule.replacer with
  | none => .going run
  | some replacer =>
    let context := run.context
    let tracksItem := context.item.same context.fullItem
    let replaced := match replacer with
      | .template text => rule.replaceByTemplate text context
      | .callback replace => replace context.fullItem evidence rule.regex context
    Progress.bindExcept run replaced fun fullItem =>
      let context := { context with fullItem }
      let run := { run with context }
      let formatted := match hooks.formatItem with
        | some format => format fullItem context
        | none => .ok fullItem
      Progress.bindExcept run formatted fun fullItem =>
        let item := if tracksItem then fullItem else context.item
        .going { run with context := { context with fullItem, item } }

/-- Notes the message of a rule if there is one. -/
def logMessage (hooks : Hooks) (message : Value) (run : Run) : Run :=
  if message.isTruthy && hooks.logs then
    let entry : LogEntry :=
      ⟨run.context.ruleSetName, run.context.ruleName, run.context.lineNumber, message⟩
    { run with log := run.log ++ [entry] }
  else run

/-- Runs a rule on a line: the test, and if it succeeds the message and the
replacement. -/
def runOn (rule : Rule) (hooks : Hooks) (run : Run) : Progress :=
  let context := run.context
  Progress.bindExcept run (rule.runTest context) fun evidence =>
    if evidence.isTruthy then
      let message := rule.messageFor context.lineNumber context.item evidence context
      Progress.bindExcept run message fun message =>
        rule.runReplacer hooks evidence (logMessage hooks message run)
    else .going run

end Rule

namespace RuleSet

/-- Whether a line is to be worked on: neither the rule-set's own ignore pattern nor the
custom one matches its full text. `stored` says that the rule-set comes from a store. -/
def admits (entries : RuleSet) (stored : Bool) (context : Context) : Except Fault Bool := do
  let own ← match entries.get? ignoreName with
    | some entry => entry.asIgnorePattern stored
    | none => pure none
  match own, context.customIgnore with
  | none, none => return true
  | own, custom =>
    let text ← context.fullItem.asText
    return !(own.any (·.matchesIn text)) && !(custom.any (·.matchesIn text))

/-- Runs the rules among the entries, in order. -/
def runRules (hooks : Hooks) (ruleSetName : String) : RuleSet → Run → Progress
  | [], run => .going run
  | (name, .rule rule) :: rest, run =>
    if rule.appliesTo name run.context then
      let context := { run.context with
        ruleSetName := some ruleSetName
        ruleName := some name }
      (rule.runOn hooks { run with context }).andThen (runRules hooks ruleSetName rest)
    else runRules hooks ruleSetName rest run
  | _ :: rest, run => runRules hooks ruleSetName rest run

end RuleSet

namespace Store

/-- Runs the rule-set that a reference stands for. A reference to nothing is noted and
otherwise does nothing. -/
def apply (store : Store) (hooks : Hooks) (ref : RuleSetRef) (run : Run) : Progress :=
  match store.lookup ref with
  | none => .going { run with unresolved := run.unresolved ++ [ref] }
  | some entries =>
    let (stored, name) := match ref with
      | .named name => (true, name)
      | _ => (false, anonymousName)
    Progress.bindExcept run (entries.admits stored run.context) fun admitted =>
      if admitted then entries.runRules hooks name run else .going run

/-- Runs several rule-sets one after another. -/
def applyAll (store : Store) (hooks : Hooks) : List RuleSetRef → Run → Progress
  | [], run => .going run
  | ref :: rest, run => (store.apply hooks ref run).andThen (store.applyAll hooks rest)

end Store

end LineRules
