import Mathlib.Data.List.Forall2
import LineRules.Proofs.RuleSet.Every
import LineRules.Proofs.RuleSet.Tables

/-!
# Rule-sets under two names

The name of a rule-set stands in the messages and faults of its rules. Unless a callback looks at
it (`Rule.IgnoresName`), it shows nowhere else: a rule-set that is run under two names does the
same to a line, and says the same in the same places (`TwoNames.apply_ends`). What `TwoNames`
relates is equal, but for the one name where the other one stands.
-/

namespace LineRules

/-! ## Callbacks that look at no name -/

/-- The context with another name for the rule-set that was evaluated last. -/
def Context.named (context : Context) (name : Option String) : Context :=
  { context with ruleSetName := name }

/-- No callback of a rule looks at the name of its rule-set. -/
structure Rule.IgnoresName (rule : Rule) : Prop where
  test {run : TestCallback} : rule.test = .callback run → ∀ item regex context name,
    run item regex (context.named name) = run item regex context
  message {run : MessageCallback} : rule.message = .callback run →
    ∀ number item evidence context name,
      run number item evidence (context.named name) = run number item evidence context
  replacer {run : ReplaceCallback} : rule.replacer = some (.callback run) →
    ∀ fullItem evidence regex context name,
      run fullItem evidence regex (context.named name) = run fullItem evidence regex context

/-- What is applied to the full text after replacements looks at no name of a rule-set. -/
def Hooks.IgnoreName (hooks : Hooks) : Prop :=
  ∀ format, hooks.formatItem = some format → ∀ value context name,
    format value (context.named name) = format value context

/-- No callback of an entry's rule looks at the name of the rule-set. -/
def Entry.IgnoresName (entry : Entry) : Prop :=
  ∀ rule, entry = .rule rule → rule.IgnoresName

/-- No callback of any rule in a tree of rule-sets looks at the name of its rule-set. -/
def RuleSet.IgnoresNames (entries : RuleSet) : Prop :=
  entries.Every (fun _ => True) fun _ entry => entry.IgnoresName

/-- Two names under which a rule-set is run. -/
structure TwoNames where
  first : String
  second : String
  first_ne : first ≠ "" := by decide
  second_ne : second ≠ "" := by decide

namespace TwoNames

variable {pair : TwoNames} {α : Type}

/-! ## What is the same but for a name -/

/-- The names are the same, or the two of the rule-set. -/
def Names (pair : TwoNames) (name other : Option String) : Prop :=
  name = other ∨ name = some pair.first ∧ other = some pair.second

/-- The contexts are the same but for the names. -/
def Contexts (pair : TwoNames) (context other : Context) : Prop :=
  ∃ name, pair.Names context.ruleSetName name ∧ other = context.named name

/-- The messages are the same but for the names. -/
def Entries (pair : TwoNames) (entry other : LogEntry) : Prop :=
  ∃ name, pair.Names entry.ruleSetName name ∧ other = { entry with ruleSetName := name }

/-- The references are the same, or the two names of the rule-set. -/
def Refs (pair : TwoNames) (ref other : RuleSetRef) : Prop :=
  ref = other ∨ ref = .named pair.first ∧ other = .named pair.second

/-- The faults are the same, or both blame one rule under the two names. -/
def Faults (pair : TwoNames) (fault other : Fault) : Prop :=
  fault = other ∨ ∃ rule gap, fault = .definition pair.first rule gap ∧
    other = .definition pair.second rule gap

/-- The work is the same but for the names. -/
structure Runs (pair : TwoNames) (run other : Run) : Prop where
  context : pair.Contexts run.context other.context
  log : List.Forall₂ pair.Entries run.log other.log
  unresolved : List.Forall₂ pair.Refs run.unresolved other.unresolved

/-- The work goes on in both, or it was stopped in both, and it is the same but for the
names. -/
inductive Ends (pair : TwoNames) : Progress → Progress → Prop where
  | going {run other : Run} (runs : pair.Runs run other) :
      Ends pair (.going run) (.going other)
  | stopped {fault cause : Fault} {run other : Run} (faults : pair.Faults fault cause)
      (runs : pair.Runs run other) : Ends pair (.stopped fault run) (.stopped cause other)

/-- A step gives the same in both, or it fails in both with the same but for the names. -/
inductive Results (pair : TwoNames) : Except Fault α → Except Fault α → Prop where
  | same (result : Except Fault α) : Results pair result result
  | stopped {fault cause : Fault} (faults : pair.Faults fault cause) :
      Results pair (.error fault) (.error cause)

theorem runs_refl (run : Run) : pair.Runs run run where
  context := ⟨_, .inl rfl, rfl⟩
  log := List.forall₂_same.mpr fun _ _ => ⟨_, .inl rfl, rfl⟩
  unresolved := List.forall₂_same.mpr fun _ _ => .inl rfl

theorem Results.bind {β : Type} {first second : Except Fault α}
    (results : pair.Results first second) (next : α → Except Fault β) :
    pair.Results (first >>= next) (second >>= next) := by
  cases results with
  | same => exact .same _
  | stopped faults => exact .stopped faults

theorem Results.bindExcept {first second : Except Fault α} {run other : Run}
    {next later : α → Progress} (results : pair.Results first second)
    (runs : pair.Runs run other) (ends : ∀ result, pair.Ends (next result) (later result)) :
    pair.Ends (Progress.bindExcept run first next) (Progress.bindExcept other second later) := by
  cases results with
  | same =>
      cases first with
      | ok value => exact ends value
      | error fault => exact .stopped (.inl rfl) runs
  | stopped faults => exact .stopped faults runs

theorem Ends.andThen {progress other : Progress} {next later : Run → Progress}
    (ends : pair.Ends progress other)
    (onward : ∀ run other, pair.Runs run other → pair.Ends (next run) (later other)) :
    pair.Ends (progress.andThen next) (other.andThen later) := by
  cases ends with
  | going runs => exact onward _ _ runs
  | stopped faults runs => exact .stopped faults runs

/-! ## Rules -/

variable {rule : Rule} {hooks : Hooks} {context other : Context} {run later : Run}

/-- The name of a rule or rule-set as faults show it. -/
def shownName : Option String → String
  | some "" => anonymousName
  | some name => name
  | none => anonymousName

theorem shownName_of_ne {name : String} (nonempty : name ≠ "") : shownName (some name) = name := by
  rw [shownName]
  rintro rfl
  contradiction

theorem requirePattern_of_none (absent : rule.regex = none) (context : Context) :
    rule.requirePattern context = .error (.definition (shownName context.ruleSetName)
      (shownName context.ruleName) .missingPattern) := by
  rw [Rule.requirePattern, absent]
  rfl

theorem requirePattern_results (rule : Rule) (contexts : pair.Contexts context other) :
    pair.Results (rule.requirePattern context) (rule.requirePattern other) := by
  obtain ⟨name, names, rfl⟩ := contexts
  cases isPattern : rule.regex with
  | some pattern =>
      rw [Rule.requirePattern, Rule.requirePattern, isPattern]
      exact .same _
  | none =>
      rw [requirePattern_of_none isPattern, requirePattern_of_none isPattern]
      rcases names with rfl | ⟨isFirst, rfl⟩
      · exact .same _
      · rw [isFirst, shownName_of_ne pair.first_ne]
        exact .stopped (.inr ⟨_, _, rfl, by rw [Context.named, shownName_of_ne pair.second_ne]⟩)

theorem runTest_results (ignores : rule.IgnoresName) (contexts : pair.Contexts context other) :
    pair.Results (rule.runTest context) (rule.runTest other) := by
  have required := requirePattern_results rule contexts
  obtain ⟨name, _, rfl⟩ := contexts
  rw [Rule.runTest, Rule.runTest]
  cases isTest : rule.test with
  | callback run =>
      have same := ignores.test isTest
        (if rule.testFullItem then context.fullItem else context.item) rule.regex context name
      simp only [Context.named] at same ⊢
      rw [same]
      exact .same _
  | firstMatch => exact required.bind _
  | search => exact required.bind _

theorem messageFor_named (ignores : rule.IgnoresName) (number : Int) (item : Value)
    (evidence : Evidence) (context : Context) (name : Option String) :
    rule.messageFor number item evidence (context.named name) =
      rule.messageFor number item evidence context := by
  rw [Rule.messageFor, Rule.messageFor]
  cases isMessage : rule.message with
  | callback run => exact ignores.message isMessage number item evidence context name
  | template | suppressed | byName => rfl

theorem logMessage_runs (message : Value) (runs : pair.Runs run later) :
    pair.Runs (Rule.logMessage hooks message run) (Rule.logMessage hooks message later) := by
  rw [Rule.logMessage, Rule.logMessage]
  split
  case isFalse => exact runs
  case isTrue =>
    obtain ⟨name, names, isLater⟩ := runs.context
    have logged : pair.Entries
        ⟨run.context.ruleSetName, run.context.ruleName, run.context.lineNumber, message⟩
        ⟨later.context.ruleSetName, later.context.ruleName, later.context.lineNumber, message⟩ := by
      rw [isLater]
      exact ⟨name, names, rfl⟩
    exact ⟨runs.context, List.rel_append runs.log (.cons logged .nil), runs.unresolved⟩

theorem replaced_results (ignores : rule.IgnoresName) {replacer : ReplacerSpec}
    (isReplacer : rule.replacer = some replacer) (evidence : Evidence)
    (contexts : pair.Contexts context other) :
    pair.Results (rule.replaced evidence context replacer)
      (rule.replaced evidence other replacer) := by
  have required := requirePattern_results rule contexts
  obtain ⟨name, _, rfl⟩ := contexts
  cases replacer with
  | template text => exact required.bind _
  | callback replace =>
      have same : replace context.fullItem evidence rule.regex (context.named name) =
          replace context.fullItem evidence rule.regex context :=
        ignores.replacer isReplacer _ _ _ _ _
      simp only [Rule.replaced, Context.named] at same ⊢
      rw [same]
      exact .same _

theorem formatted_named (ignore : hooks.IgnoreName) (fullItem : Value) (context : Context)
    (name : Option String) :
    hooks.formatted fullItem (context.named name) = hooks.formatted fullItem context := by
  rw [Hooks.formatted, Hooks.formatted]
  cases isFormat : hooks.formatItem with
  | none => rfl
  | some format => exact ignore format isFormat fullItem context name

theorem runReplacer_ends (ignores : rule.IgnoresName) (ignore : hooks.IgnoreName)
    (evidence : Evidence) (runs : pair.Runs run later) :
    pair.Ends (rule.runReplacer hooks evidence run) (rule.runReplacer hooks evidence later) := by
  cases isReplacer : rule.replacer with
  | none =>
      rw [Rule.runReplacer_none isReplacer, Rule.runReplacer_none isReplacer]
      exact .going runs
  | some replacer =>
      rw [Rule.runReplacer_eq isReplacer, Rule.runReplacer_eq isReplacer]
      refine (replaced_results ignores isReplacer evidence runs.context).bindExcept runs
        fun fullItem => ?_
      obtain ⟨name, names, isLater⟩ := runs.context
      have written : ∀ fullItem item : Value, pair.Runs
          { run with context := { run.context with fullItem, item } }
          { later with context := { later.context with fullItem, item } } := by
        intro fullItem item
        refine ⟨⟨name, names, ?_⟩, runs.log, runs.unresolved⟩
        rw [isLater]
        rfl
      have formatted : hooks.formatted fullItem { later.context with fullItem } =
          hooks.formatted fullItem { run.context with fullItem } := by
        rw [isLater]
        exact formatted_named ignore fullItem { run.context with fullItem } name
      have item : later.context.item = run.context.item := by
        rw [isLater]
        rfl
      have whole : later.context.item.same later.context.fullItem =
          run.context.item.same run.context.fullItem := by
        rw [isLater]
        rfl
      simp only [formatted]
      refine Results.bindExcept (.same _) (item ▸ written fullItem run.context.item)
        fun fullItem => ?_
      rw [whole, item]
      exact .going (written fullItem _)

/-- Under two names, a rule does the same. -/
theorem runOn_ends (ignores : rule.IgnoresName) (ignore : hooks.IgnoreName)
    (runs : pair.Runs run later) : pair.Ends (rule.runOn hooks run) (rule.runOn hooks later) := by
  rw [Rule.runOn, Rule.runOn]
  refine (runTest_results ignores runs.context).bindExcept runs fun evidence => ?_
  split
  case isFalse => exact .going runs
  case isTrue =>
    obtain ⟨name, names, isLater⟩ := runs.context
    have worded : rule.messageFor later.context.lineNumber later.context.item evidence
        later.context = rule.messageFor run.context.lineNumber run.context.item evidence
        run.context := by
      rw [isLater]
      exact messageFor_named ignores _ _ _ _ _
    rw [worded]
    refine Results.bindExcept (.same _) runs fun message => ?_
    exact runReplacer_ends ignores ignore evidence (logMessage_runs message runs)

/-! ## Rule-sets -/

variable {entries : RuleSet} {store : Store}

/-- Under two names, a rule-set does the same. -/
theorem runRules_ends (ignores : entries.IgnoresNames) (ignore : hooks.IgnoreName)
    (runs : pair.Runs run later) :
    pair.Ends (entries.runRules hooks pair.first run)
      (entries.runRules hooks pair.second later) := by
  induction entries generalizing run later with
  | nil => exact .going runs
  | cons first entries hyp =>
      obtain ⟨ruleName, entry⟩ := first
      obtain ⟨here, others⟩ := RuleSet.every_cons_iff.mp ignores
      cases entry with
      | pattern | ruleSet | value => exact hyp others runs
      | rule rule =>
          obtain ⟨name, _, isLater⟩ := runs.context
          have applies : rule.appliesTo ruleName later.context =
              rule.appliesTo ruleName run.context := by
            rw [isLater]
            rfl
          rw [RuleSet.runRules, RuleSet.runRules, applies]
          split
          case isFalse => exact hyp others runs
          case isTrue =>
            have under : pair.Runs (run.underRule pair.first ruleName)
                (later.underRule pair.second ruleName) := by
              refine ⟨⟨some pair.second, .inr ⟨rfl, rfl⟩, ?_⟩, runs.log, runs.unresolved⟩
              simp only [Run.underRule, isLater]
              rfl
            exact (runOn_ends (here.holds rfl rule rfl) ignore under).andThen fun _ _ runs =>
              hyp others runs

/-- A rule-set that a store has under two names does the same under both. -/
theorem apply_ends (same : store.lookupName pair.first = store.lookupName pair.second)
    (ignores : store.root.IgnoresNames) (ignore : hooks.IgnoreName)
    (runs : pair.Runs run later) :
    pair.Ends (store.apply hooks (.named pair.first) run)
      (store.apply hooks (.named pair.second) later) := by
  rw [Store.apply, Store.apply, Store.lookup, Store.lookup, same]
  cases found : store.lookupName pair.second with
  | none =>
      refine .going ⟨runs.context, runs.log, ?_⟩
      exact List.rel_append runs.unresolved (.cons (.inr ⟨rfl, rfl⟩) .nil)
  | some entries =>
      have inside : entries.IgnoresNames := Store.every_of_lookupName ignores found
      obtain ⟨name, _, isLater⟩ := runs.context
      have admits : entries.admits true later.context = entries.admits true run.context := by
        rw [isLater]
        rfl
      simp only [admits]
      refine Results.bindExcept (.same _) runs fun admitted => ?_
      split
      · exact runRules_ends inside ignore runs
      · exact .going runs

/-- Rule-sets that are run before it make no difference. -/
theorem applyAll_ends (same : store.lookupName pair.first = store.lookupName pair.second)
    (ignores : store.root.IgnoresNames) (ignore : hooks.IgnoreName) (before : List RuleSetRef)
    (run : Run) :
    pair.Ends (store.applyAll hooks (before ++ [.named pair.first]) run)
      (store.applyAll hooks (before ++ [.named pair.second]) run) := by
  induction before generalizing run with
  | nil =>
      exact (apply_ends same ignores ignore (runs_refl run)).andThen fun _ _ runs => .going runs
  | cons ref before hyp =>
      rw [List.cons_append, List.cons_append, Store.applyAll, Store.applyAll]
      cases store.apply hooks ref run with
      | going run => exact hyp run
      | stopped fault run => exact .stopped (.inl rfl) (runs_refl run)

end TwoNames

end LineRules
