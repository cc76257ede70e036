import LineRules.Proofs.Pattern.Segments
import LineRules.RuleSet.Run

/-!
# Rules as steps on a line

A rule that is given text and leaves text takes a line of a file to another one and may
note a message. `LineStep` is such a rule without the ways in which rules can fail, and
`Rule.Does` says that a rule is one. `runRules_eq` and `apply_eq` carry this over to
rule-sets: running one is `Table.run`, a function on lines.
-/

namespace LineRules

open LineRules.Pattern LineRules.Text

/-- What a rule does to a line. -/
structure LineStep where
  /-- Whether the test of the rule succeeds. -/
  fires : List Char → Bool
  /-- What becomes of a line on which it does. -/
  change : List Char → List Char := id
  message : Int → List Char → Value
  /-- Whether the rule is skipped in executable scripts. -/
  ignoreInScripts : Bool := false

/-- The line under work is a text, and it is all that there is. -/
structure Context.Shows (context : Context) (text : List Char) : Prop where
  item : context.item = .text (String.ofList text)
  fullItem : context.fullItem = .text (String.ofList text)

namespace Run

/-- The work with another text for the line. -/
def write (run : Run) (text : List Char) : Run :=
  { run with context := { run.context with
      item := .text (String.ofList text)
      fullItem := .text (String.ofList text) } }

theorem write_of_shows {run : Run} {text : List Char} (shows : run.context.Shows text) :
    run.write text = run := by
  obtain ⟨⟨item, fullItem, _, _, _, _, _⟩, _, _⟩ := run
  obtain rfl : item = .text (String.ofList text) := shows.item
  obtain rfl : fullItem = .text (String.ofList text) := shows.fullItem
  rfl

end Run

theorem asText_ofList (text : List Char) : (Value.text (String.ofList text)).asText = .ok text := by
  simp [Value.asText]

/-- What is made of a full text after a replacement. -/
def Hooks.formatted (hooks : Hooks) (fullItem : Value) (context : Context) : Except Fault Value :=
  match hooks.formatItem with
  | some format => format fullItem context
  | none => .ok fullItem

namespace Rule

variable {rule : Rule} {step : LineStep} {run : Run} {evidence : Evidence} {text out : List Char}

/-- A rule does what a step says, whenever the line is a text. -/
def Does (rule : Rule) (step : LineStep) : Prop :=
  rule.ignoreInScripts = step.ignoreInScripts ∧
    ∀ {run text}, run.context.Shows text → rule.runOn {} run = .going
      (if step.fires text then
        (logMessage {} (step.message run.context.lineNumber text) run).write (step.change text)
      else run)

theorem logMessage_context {hooks : Hooks} (message : Value) :
    (logMessage hooks message run).context = run.context := by
  unfold logMessage
  split <;> rfl

theorem runReplacer_none {hooks : Hooks} (absent : rule.replacer = none) :
    rule.runReplacer hooks evidence run = .going run := by
  simp [runReplacer, absent]

/-- What a replacer of the rule makes of the full text. -/
def replaced (rule : Rule) (evidence : Evidence) (context : Context) :
    ReplacerSpec → Except Fault Value
  | .template text => rule.replaceByTemplate text context
  | .callback replace => replace context.fullItem evidence rule.regex context

/-- A replacement, and what is applied after it, in two steps that can fail. -/
theorem runReplacer_eq {hooks : Hooks} {replacer : ReplacerSpec}
    (isReplacer : rule.replacer = some replacer) (evidence : Evidence) (run : Run) :
    rule.runReplacer hooks evidence run =
      Progress.bindExcept run (rule.replaced evidence run.context replacer) fun fullItem =>
        let replaced := { run with context := { run.context with fullItem } }
        Progress.bindExcept replaced (hooks.formatted fullItem replaced.context) fun fullItem =>
          .going { run with context := { run.context with
            fullItem
            item := if run.context.item.same run.context.fullItem then fullItem
              else run.context.item } } := by
  simp only [runReplacer, isReplacer]
  cases replacer with
  | template | callback => rfl

/-- A replacement that gives a text makes that the line. -/
theorem runReplacer_some {replacer : ReplacerSpec} (isReplacer : rule.replacer = some replacer)
    (shows : run.context.Shows text)
    (replaced : rule.replaced evidence run.context replacer = .ok (.text (String.ofList out))) :
    rule.runReplacer {} evidence run = .going (run.write out) := by
  have tracks : run.context.item.same run.context.fullItem = true := by
    simp [shows.item, shows.fullItem, Value.same]
  rw [runReplacer_eq isReplacer, replaced]
  simp only [Hooks.formatted, Progress.bindExcept, tracks, if_true]
  rfl

/-- A rule does what its test, its message and its replacement do. -/
theorem does_of (skipped : rule.ignoreInScripts = step.ignoreInScripts)
    (test : ∀ {context text}, context.Shows text → ∃ evidence,
      rule.runTest context = .ok evidence ∧ evidence.isTruthy = step.fires text ∧
      (step.fires text = true → rule.messageFor context.lineNumber context.item evidence context =
        .ok (step.message context.lineNumber text)))
    (replace : ∀ {run text evidence}, run.context.Shows text →
      rule.runReplacer {} evidence run = .going (run.write (step.change text))) :
    rule.Does step := by
  refine ⟨skipped, ?_⟩
  intro run text shows
  obtain ⟨evidence, tested, truthy, message⟩ := test shows
  cases fires : step.fires text with
  | false => simp [runOn, tested, Progress.bindExcept, truthy, fires]
  | true =>
      have logged : (logMessage {} (step.message run.context.lineNumber text) run).context.Shows
          text := by
        rw [logMessage_context]
        exact shows
      simp only [runOn, tested, Progress.bindExcept, truthy, fires, if_true, message fires]
      exact replace logged

end Rule

/-! ## Messages that name the line -/

namespace MessagePiece

/-- Whether a piece is text or the number of the line. -/
def isNumbered : MessagePiece → Bool
  | literal _ => true
  | token digits => digits = ['0']

/-- What a piece becomes, where the number of the line is all that is filled in. -/
def numbered (number : Int) : MessagePiece → List Char
  | literal text => text
  | token _ => (Value.int number).shown.toList

theorem fill_eq {piece : MessagePiece} (isNumbered : piece.isNumbered = true) (number : Int)
    (others : List (List Char)) :
    piece.fill ((Value.int number).shown.toList :: others) = .ok (piece.numbered number) := by
  cases piece with
  | literal text => rfl
  | token digits =>
      obtain rfl : digits = ['0'] := by simpa [MessagePiece.isNumbered] using isNumbered
      have short : ¬ Decimal.digitLimit < ['0'].length := by decide
      have first : digitsValue ['0'] = 0 := by decide
      rw [fill, if_neg short, first]
      rfl

end MessagePiece

/-- A message in which only the number of the line is filled in. -/
def lineMessage (template : String) (number : Int) : Value :=
  .text (String.ofList ((messagePieces template.toList).flatMap (MessagePiece.numbered number)))

theorem mapM_fill_eq {pieces : List MessagePiece} (number : Int) (others : List (List Char))
    (numbered : pieces.all MessagePiece.isNumbered = true) :
    pieces.mapM (MessagePiece.fill ((Value.int number).shown.toList :: others)) =
      .ok (pieces.map (MessagePiece.numbered number)) := by
  induction pieces with
  | nil => rfl
  | cons piece pieces hyp =>
      obtain ⟨first, rest⟩ : piece.isNumbered = true ∧ pieces.all MessagePiece.isNumbered = true := by
        simpa using numbered
      rw [List.mapM_cons, MessagePiece.fill_eq first, hyp rest]
      rfl

theorem Rule.messageFor_template {rule : Rule} {template : String}
    (isTemplate : rule.message = .template template)
    (numbered : (messagePieces template.toList).all MessagePiece.isNumbered = true)
    (number : Int) (item : Value) (evidence : Evidence) (context : Context) :
    rule.messageFor number item evidence context = .ok (lineMessage template number) := by
  simp only [messageFor, isTemplate, fillTemplate, List.map_cons, List.map_nil,
    mapM_fill_eq number _ numbered]
  simp [lineMessage, List.flatMap_def, Except.map, bind, Except.bind, pure, Except.pure]

/-! ## Rules made from a pattern and templates -/

namespace Rule

/-- The step of a rule that is made from a pattern and templates. -/
def patternStep (rule : Rule) : LineStep where
  fires text := rule.regex.any (·.matchesIn text)
  change :=
    match rule.regex, rule.replacer with
    | some pattern, some (.template template) => pattern.replaceBy (pattern.written template)
    | _, _ => id
  message number _ :=
    match rule.message with
    | .template template => lineMessage template number
    | _ => .null
  ignoreInScripts := rule.ignoreInScripts

/-- A rule that tests a line by a pattern, has a message with the number of the line, and
replaces all matches by a template, if it replaces anything. -/
structure FromPattern (rule : Rule) (pattern : Pattern) : Prop where
  regex : rule.regex = some pattern
  test : rule.test = .search
  onItem : rule.testFullItem = false
  message : ∃ template, rule.message = .template template ∧
    (messagePieces template.toList).all MessagePiece.isNumbered = true
  replacer : rule.replacer = none ∨ ∃ template pieces,
    rule.replacer = some (.template template) ∧ pattern.template template = .ok pieces
  all : rule.count = .int 0

theorem runReplacer_template {rule : Rule} {pattern : Pattern} {template : String}
    {pieces : List Piece} (regex : rule.regex = some pattern)
    (replacer : rule.replacer = some (.template template)) (all : rule.count = .int 0)
    (read : pattern.template template = .ok pieces) {run : Run} {text : List Char}
    {evidence : Evidence} (shows : run.context.Shows text) :
    rule.runReplacer {} evidence run =
      .going (run.write (pattern.replaceBy (pattern.written template) text)) := by
  refine runReplacer_some replacer shows ?_
  have written : pattern.written template = fun found => pieces.flatMap (Piece.expand found) :=
    funext fun found => Pattern.written_of_template pieces read found
  rw [written, Rule.replaced]
  simp [replaceByTemplate, requirePattern, regex, all, read, shows.fullItem, asText_ofList,
    countOf, Pattern.replacePieces, Pattern.replaceBy, bind, Except.bind, Except.mapError, pure,
    Except.pure]

theorem FromPattern.does {rule : Rule} {pattern : Pattern} (made : rule.FromPattern pattern) :
    rule.Does rule.patternStep := by
  obtain ⟨template, isTemplate, numbered⟩ := made.message
  refine does_of rfl ?_ ?_
  · intro context text shows
    refine ⟨.value (.bool (pattern.matchesIn text)), ?_, ?_, ?_⟩
    · simp [runTest, made.onItem, made.test, requirePattern, made.regex, shows.item,
        asText_ofList]
      rfl
    · simp [patternStep, made.regex, Evidence.isTruthy, Value.isTruthy]
    · intro _
      simpa [patternStep, isTemplate] using messageFor_template isTemplate numbered _ _ _ _
  · intro run text evidence shows
    rcases made.replacer with none | ⟨replacement, pieces, some, read⟩
    · have same : rule.patternStep.change text = text := by simp [patternStep, none]
      rw [runReplacer_none none, same, Run.write_of_shows shows]
    · have change : rule.patternStep.change = pattern.replaceBy (pattern.written replacement) := by
        simp [patternStep, made.regex, some]
      rw [change]
      exact runReplacer_template made.regex some made.all read shows

end Rule

end LineRules
