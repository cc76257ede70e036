import LineRules.Proofs.RuleSet.Steps

/-!
# Rule-sets as functions on lines

A table is a rule-set whose rules are steps on lines. Running the rule-sets of a store
that are tables never fails; what it gives is `LineTable.runAll`, a function of the line
and of what is known about it beforehand.
-/

namespace LineRules

open LineRules.Pattern

/-- What is known about a line beforehand. -/
structure LinePlace where
  number : Int
  executable : Bool
  customIgnore : Option Pattern

namespace LineStep

/-- Whether a rule changes or reports a line. -/
def acts (step : LineStep) (place : LinePlace) (text : List Char) : Bool :=
  !(step.ignoreInScripts && place.executable) && step.fires text

/-- The message of a rule for a line, if it is not empty. -/
def entries (step : LineStep) (place : LinePlace) (ruleSetName ruleName : String)
    (text : List Char) : List LogEntry :=
  let message := step.message place.number text
  if message.isTruthy then [⟨some ruleSetName, some ruleName, place.number, message⟩] else []

end LineStep

/-- Steps under the names of rules, in order. -/
abbrev Steps := List (String × LineStep)

/-- What becomes of a line under some steps, and the messages. -/
def Steps.run (place : LinePlace) (ruleSetName : String) :
    Steps → List Char → List Char × List LogEntry
  | [], text => (text, [])
  | (name, step) :: rest, text =>
    if step.acts place text then
      let later := run place ruleSetName rest (step.change text)
      (later.1, step.entries place ruleSetName name text ++ later.2)
    else run place ruleSetName rest text

/-- A rule-set whose rules are steps on lines. -/
structure LineTable where
  name : String
  /-- Lines that match this pattern are left alone. -/
  ignore : Option Pattern := none
  steps : Steps

namespace LineTable

/-- Whether a line is to be worked on. -/
def admits (table : LineTable) (customIgnore : Option Pattern) (text : List Char) : Bool :=
  !(table.ignore.any (·.matchesIn text)) && !(customIgnore.any (·.matchesIn text))

/-- What becomes of a line under a rule-set, and the messages. -/
def run (table : LineTable) (place : LinePlace) (text : List Char) : List Char × List LogEntry :=
  if table.admits place.customIgnore text then table.steps.run place table.name text else (text, [])

/-- What becomes of a line under several rule-sets, one after another, and the
messages. -/
def runAll (place : LinePlace) : List LineTable → List Char → List Char × List LogEntry
  | [], text => (text, [])
  | table :: rest, text =>
    let first := table.run place text
    let later := runAll place rest first.1
    (later.1, first.2 ++ later.2)

end LineTable

namespace Run

/-- What was known about the line beforehand. -/
def place (run : Run) : LinePlace :=
  ⟨run.context.lineNumber, run.context.executable, run.context.customIgnore⟩

/-- The work has gone on to a text, with more messages and nothing else new. -/
structure Becomes (run : Run) (text : List Char) (log : List LogEntry) (later : Run) : Prop where
  shows : later.context.Shows text
  place : later.place = run.place
  log : later.log = run.log ++ log
  unresolved : later.unresolved = run.unresolved

variable {run middle later : Run} {text out : List Char} {log others : List LogEntry}

theorem Becomes.refl (shows : run.context.Shows text) : run.Becomes text [] run :=
  ⟨shows, rfl, by simp, rfl⟩

theorem Becomes.trans (first : run.Becomes text log middle)
    (second : middle.Becomes out others later) : run.Becomes out (log ++ others) later where
  shows := second.shows
  place := second.place.trans first.place
  log := by rw [second.log, first.log, List.append_assoc]
  unresolved := second.unresolved.trans first.unresolved

/-- The work when a rule of a rule-set is next. -/
def underRule (run : Run) (ruleSetName ruleName : String) : Run :=
  { run with context := { run.context with
      ruleSetName := some ruleSetName
      ruleName := some ruleName } }

variable {ruleSetName ruleName : String}

theorem shows_underRule (shows : run.context.Shows text) :
    (run.underRule ruleSetName ruleName).context.Shows text :=
  ⟨shows.item, shows.fullItem⟩

theorem becomes_underRule (shows : run.context.Shows text) :
    run.Becomes text [] (run.underRule ruleSetName ruleName) :=
  ⟨shows_underRule shows, rfl, by simp [underRule], rfl⟩

/-- A step that acts on a line adds its message and changes the line. -/
theorem becomes_logMessage (step : LineStep) :
    run.Becomes out (step.entries run.place ruleSetName ruleName text)
      ((Rule.logMessage {} (step.message run.context.lineNumber text)
        (run.underRule ruleSetName ruleName)).write out) := by
  cases truthy : (step.message run.context.lineNumber text).isTruthy with
  | true =>
      refine ⟨⟨rfl, rfl⟩, ?_, ?_, ?_⟩
      · simp [Rule.logMessage, truthy, write, place, underRule]
      · simp [Rule.logMessage, truthy, write, underRule, LineStep.entries, place]
      · simp [Rule.logMessage, truthy, write, underRule]
  | false =>
      refine ⟨⟨rfl, rfl⟩, ?_, ?_, ?_⟩
      · simp [Rule.logMessage, truthy, write, place, underRule]
      · simp [Rule.logMessage, truthy, write, underRule, LineStep.entries, place]
      · simp [Rule.logMessage, truthy, write, underRule]

end Run

namespace RuleSet

/-- The rules among the entries are steps, in order. -/
inductive DoesSteps : RuleSet → Steps → Prop where
  | nil : DoesSteps [] []
  | rule {name : String} {rule : Rule} {step : LineStep} {entries : RuleSet} {steps : Steps}
      (usable : isReserved name = false) (does : rule.Does step)
      (rest : DoesSteps entries steps) :
      DoesSteps ((name, .rule rule) :: entries) ((name, step) :: steps)
  | other {name : String} {entry : Entry} {entries : RuleSet} {steps : Steps}
      (notRule : ∀ rule, entry ≠ .rule rule) (rest : DoesSteps entries steps) :
      DoesSteps ((name, entry) :: entries) steps

theorem runRules_cons_rule {hooks : Hooks} {name ruleName : String} {rule : Rule}
    {entries : RuleSet} {run : Run} :
    runRules hooks name ((ruleName, .rule rule) :: entries) run =
      if rule.appliesTo ruleName run.context then
        (rule.runOn hooks (run.underRule name ruleName)).andThen (runRules hooks name entries)
      else runRules hooks name entries run := rfl

/-- Running rules that are steps is running the steps. -/
theorem runRules_becomes {entries : RuleSet} {steps : Steps} (does : DoesSteps entries steps)
    (name : String) {run : Run} {text : List Char} (shows : run.context.Shows text) :
    ∃ later, entries.runRules {} name run = .going later ∧
      run.Becomes (steps.run run.place name text).1 (steps.run run.place name text).2 later := by
  induction does generalizing run text with
  | nil => exact ⟨run, rfl, .refl shows⟩
  | @other ruleName entry entries steps notRule _ hyp =>
      obtain ⟨later, isLater, becomes⟩ := hyp shows
      refine ⟨later, ?_, becomes⟩
      cases entry with
      | rule rule => exact absurd rfl (notRule rule)
      | pattern | ruleSet | value => exact isLater
  | @rule ruleName rule step entries steps usable does _ hyp =>
      obtain ⟨skipped, runs⟩ := does
      have applies : rule.appliesTo ruleName run.context =
          !(step.ignoreInScripts && run.place.executable) := by
        simp [Rule.appliesTo, usable, skipped, Run.place]
      rw [runRules_cons_rule, applies]
      cases skip : step.ignoreInScripts && run.place.executable with
      | true =>
          obtain ⟨later, isLater, becomes⟩ := hyp shows
          exact ⟨later, isLater, by simpa [Steps.run, LineStep.acts, skip] using becomes⟩
      | false =>
          simp only [Bool.not_false, if_true]
          rw [runs (Run.shows_underRule shows)]
          cases fires : step.fires text with
          | false =>
              have here : run.Becomes text [] (run.underRule name ruleName) :=
                Run.becomes_underRule shows
              obtain ⟨later, isLater, becomes⟩ := hyp here.shows
              refine ⟨later, isLater, ?_⟩
              rw [here.place] at becomes
              simpa [Steps.run, LineStep.acts, skip, fires] using here.trans becomes
          | true =>
              have here : run.Becomes (step.change text) (step.entries run.place name ruleName text)
                  ((Rule.logMessage {} (step.message run.context.lineNumber text)
                    (run.underRule name ruleName)).write (step.change text)) :=
                Run.becomes_logMessage step
              obtain ⟨later, isLater, becomes⟩ := hyp here.shows
              refine ⟨later, isLater, ?_⟩
              rw [here.place] at becomes
              simpa [Steps.run, LineStep.acts, skip, fires] using here.trans becomes

end RuleSet

namespace Store

/-- The store has a table under its name. -/
def Provides (store : Store) (table : LineTable) : Prop :=
  ∃ entries : RuleSet, store.lookupName table.name = some entries ∧
    entries.DoesSteps table.steps ∧
    entries.get? ignoreName = table.ignore.map .pattern

variable {store : Store} {run : Run} {text : List Char}

theorem admits_eq {entries : RuleSet} {table : LineTable}
    (own : entries.get? ignoreName = table.ignore.map .pattern) (shows : run.context.Shows text) :
    entries.admits true run.context = .ok (table.admits run.context.customIgnore text) := by
  have read : run.context.fullItem.asText = .ok text := by
    rw [shows.fullItem, asText_ofList]
  cases ignore : table.ignore with
  | none =>
      cases custom : run.context.customIgnore with
      | none =>
          simp [RuleSet.admits, own, ignore, custom, LineTable.admits, pure, Except.pure, bind,
            Except.bind]
      | some pattern =>
          simp [RuleSet.admits, own, ignore, custom, LineTable.admits, read, pure, Except.pure,
            bind, Except.bind]
  | some own =>
      simp_all [RuleSet.admits, LineTable.admits, Entry.asIgnorePattern, pure, Except.pure, bind,
        Except.bind]

/-- Running a rule-set that is a table is running the table. -/
theorem apply_becomes {table : LineTable} (provides : store.Provides table)
    (shows : run.context.Shows text) :
    ∃ later, store.apply {} (.named table.name) run = .going later ∧
      run.Becomes (table.run run.place text).1 (table.run run.place text).2 later := by
  obtain ⟨entries, isEntries, does, own⟩ := provides
  have admitted : _ = Except.ok (table.admits run.place.customIgnore text) := admits_eq own shows
  cases works : table.admits run.place.customIgnore text with
  | false =>
      refine ⟨run, ?_, by simpa [LineTable.run, works] using Run.Becomes.refl shows⟩
      simp [apply, lookup, isEntries, admitted, works, Progress.bindExcept]
  | true =>
      obtain ⟨later, isLater, becomes⟩ := RuleSet.runRules_becomes does table.name shows
      refine ⟨later, ?_, by simpa [LineTable.run, works] using becomes⟩
      simp [apply, lookup, isEntries, admitted, works, Progress.bindExcept, isLater]

theorem applyAll_becomes {tables : List LineTable}
    (provides : ∀ table ∈ tables, store.Provides table) (shows : run.context.Shows text) :
    ∃ later, store.applyAll {} (tables.map fun table => .named table.name) run = .going later ∧
      run.Becomes (LineTable.runAll run.place tables text).1
        (LineTable.runAll run.place tables text).2 later := by
  induction tables generalizing run text with
  | nil => exact ⟨run, rfl, .refl shows⟩
  | cons table tables hyp =>
      obtain ⟨middle, isMiddle, first⟩ := apply_becomes (provides table (by simp)) shows
      obtain ⟨later, isLater, second⟩ :=
        hyp (fun other isOther => provides other (by simp [isOther])) first.shows
      rw [first.place] at second
      refine ⟨later, ?_, by simpa [LineTable.runAll] using first.trans second⟩
      simp [applyAll, isMiddle, Progress.andThen, isLater]

end Store

end LineRules
