import LineRules.Proofs.RuleSet.Turns

/-!
# What surrounds a line

Which lines are left alone and whether a file can be executed is known before a rule-set is run on a
line, and decides which rules are run. A rule that is run looks at neither, unless one of its
callbacks does (`Rule.Overlooks`). So a change of either makes no difference to what a rule does
(`Rule.runOn_within`), nor to what the rules of a rule-set do if the same ones are run
(`RuleSet.runRules_within`).
-/

namespace LineRules

/-- A change of what surrounds a line. -/
structure Surroundings where
  customIgnore : Option Pattern → Option Pattern := id
  executable : Bool → Bool := id

/-- The context of a line in other surroundings. -/
def Context.within (context : Context) (change : Surroundings) : Context :=
  { context with
    customIgnore := change.customIgnore context.customIgnore
    executable := change.executable context.executable }

/-- The work on a line in other surroundings. -/
def Run.within (run : Run) (change : Surroundings) : Run :=
  { run with context := run.context.within change }

/-- Where the work on a line stands, in other surroundings. -/
def Progress.within (change : Surroundings) : Progress → Progress
  | going run => going (run.within change)
  | stopped fault run => stopped fault (run.within change)

variable {change : Surroundings} {hooks : Hooks} {run : Run}

theorem Progress.andThen_within (progress : Progress) {next later : Run → Progress}
    (same : ∀ run, later (run.within change) = (next run).within change) :
    (progress.within change).andThen later = (progress.andThen next).within change := by
  cases progress with
  | going run => exact same run
  | stopped fault run => rfl

theorem Progress.bindExcept_within {α : Type} {step : Except Fault α} {next later : α → Progress}
    (same : ∀ result, later result = (next result).within change) :
    bindExcept (run.within change) step later = (bindExcept run step next).within change := by
  cases step with
  | ok result => exact same result
  | error fault => rfl

/-- No callback of a rule looks at what changes around a line. -/
structure Rule.Overlooks (rule : Rule) (change : Surroundings) : Prop where
  test {run : TestCallback} : rule.test = .callback run → ∀ item regex context,
    run item regex (context.within change) = run item regex context
  message {run : MessageCallback} : rule.message = .callback run →
    ∀ number item evidence context,
      run number item evidence (context.within change) = run number item evidence context
  replacer {run : ReplaceCallback} : rule.replacer = some (.callback run) →
    ∀ fullItem evidence regex context,
      run fullItem evidence regex (context.within change) = run fullItem evidence regex context

/-- What is applied to the full text after replacements does not look at what changes around a
line. -/
def Hooks.Overlook (hooks : Hooks) (change : Surroundings) : Prop :=
  ∀ format, hooks.formatItem = some format → ∀ value context,
    format value (context.within change) = format value context

/-- No callback of any rule among the entries looks at what changes around a line. -/
def RuleSet.Overlooks (entries : RuleSet) (change : Surroundings) : Prop :=
  ∀ name rule, (name, Entry.rule rule) ∈ entries → rule.Overlooks change

/-! ## Rules -/

namespace Rule

variable {rule : Rule}

theorem runTest_within (overlooks : rule.Overlooks change) (context : Context) :
    rule.runTest (context.within change) = rule.runTest context := by
  rw [runTest, runTest]
  cases isTest : rule.test with
  | callback run => exact overlooks.test isTest _ _ _
  | firstMatch | search => rfl

theorem messageFor_within (overlooks : rule.Overlooks change) (number : Int) (item : Value)
    (evidence : Evidence) (context : Context) :
    rule.messageFor number item evidence (context.within change) =
      rule.messageFor number item evidence context := by
  rw [messageFor, messageFor]
  cases isMessage : rule.message with
  | callback run => exact overlooks.message isMessage _ _ _ _
  | template | suppressed | byName => rfl

theorem logMessage_within (message : Value) (run : Run) :
    logMessage hooks message (run.within change) =
      (logMessage hooks message run).within change := by
  rw [logMessage, logMessage]
  split <;> rfl

theorem replaced_within (overlooks : rule.Overlooks change) {replacer : ReplacerSpec}
    (isReplacer : rule.replacer = some replacer) (evidence : Evidence) (context : Context) :
    rule.replaced evidence (context.within change) replacer =
      rule.replaced evidence context replacer := by
  cases replacer with
  | template text => rfl
  | callback replace => exact overlooks.replacer isReplacer _ _ _ _

theorem formatted_within (overlook : hooks.Overlook change) (fullItem : Value)
    (context : Context) :
    hooks.formatted fullItem (context.within change) = hooks.formatted fullItem context := by
  rw [Hooks.formatted, Hooks.formatted]
  cases isFormat : hooks.formatItem with
  | none => rfl
  | some format => exact overlook format isFormat fullItem context

theorem runReplacer_within (overlooks : rule.Overlooks change) (overlook : hooks.Overlook change)
    (evidence : Evidence) (run : Run) :
    rule.runReplacer hooks evidence (run.within change) =
      (rule.runReplacer hooks evidence run).within change := by
  cases isReplacer : rule.replacer with
  | none =>
      rw [runReplacer_none isReplacer, runReplacer_none isReplacer]
      rfl
  | some replacer =>
      rw [runReplacer_eq isReplacer, runReplacer_eq isReplacer]
      have replaced : rule.replaced evidence (run.within change).context replacer =
          rule.replaced evidence run.context replacer :=
        replaced_within overlooks isReplacer evidence run.context
      rw [replaced]
      refine Progress.bindExcept_within fun fullItem => ?_
      have formatted : hooks.formatted fullItem
            { (run.within change).context with fullItem } =
          hooks.formatted fullItem { run.context with fullItem } :=
        formatted_within overlook fullItem { run.context with fullItem }
      simp only [formatted]
      cases hooks.formatted fullItem { run.context with fullItem } with
      | ok out => rfl
      | error fault => rfl

/-- A rule that is run does the same in other surroundings. -/
theorem runOn_within (overlooks : rule.Overlooks change) (overlook : hooks.Overlook change)
    (run : Run) : rule.runOn hooks (run.within change) = (rule.runOn hooks run).within change := by
  rw [runOn, runOn]
  have tested : rule.runTest (run.within change).context = rule.runTest run.context :=
    runTest_within overlooks run.context
  rw [tested]
  refine Progress.bindExcept_within fun evidence => ?_
  split
  case isFalse => rfl
  case isTrue =>
    have worded : rule.messageFor (run.within change).context.lineNumber
          (run.within change).context.item evidence (run.within change).context =
        rule.messageFor run.context.lineNumber run.context.item evidence run.context :=
      messageFor_within overlooks _ _ _ run.context
    rw [worded]
    refine Progress.bindExcept_within fun message => ?_
    rw [logMessage_within]
    exact runReplacer_within overlooks overlook evidence _

end Rule

/-! ## Rule-sets -/

namespace RuleSet

variable {entries : RuleSet}

/-- The rules of a rule-set do the same in other surroundings if the same ones are run. -/
theorem runRules_within (overlooks : entries.Overlooks change) (overlook : hooks.Overlook change)
    (applies : ∀ name rule, (name, Entry.rule rule) ∈ entries → ∀ context,
      rule.appliesTo name (context.within change) = rule.appliesTo name context)
    (ruleSetName : String) (run : Run) :
    entries.runRules hooks ruleSetName (run.within change) =
      (entries.runRules hooks ruleSetName run).within change := by
  induction entries generalizing run with
  | nil => rfl
  | cons first entries hyp =>
      obtain ⟨name, entry⟩ := first
      have others := hyp (fun name rule isMember => overlooks name rule (.tail _ isMember))
        (fun name rule isMember => applies name rule (.tail _ isMember))
      cases entry with
      | pattern | ruleSet | value => exact others run
      | rule rule =>
          have here : rule.appliesTo name (run.within change).context =
              rule.appliesTo name run.context := applies name rule (.head _) run.context
          have under : (run.within change).underRule ruleSetName name =
              (run.underRule ruleSetName name).within change := rfl
          rw [runRules_cons_rule, runRules_cons_rule, here, under,
            Rule.runOn_within (overlooks name rule (.head _)) overlook]
          split
          case isFalse => exact others run
          case isTrue => exact Progress.andThen_within _ others

end RuleSet

end LineRules
