import LineRules.Proofs.RuleSet.Executable
import LineRules.Proofs.Script.Lines

/-!
# Executable scripts

In a script that is executable, calls that write to the console are not reported. That is all that
it means for a script to be executable (`executable_only_skips`): what becomes of its lines and
whatever else is reported of them is the same.
-/

namespace LineRules

/-! ## Tables -/

/-- A place in a file that is an executable script, or in one that is none. -/
def LinePlace.inFile (place : LinePlace) (executable : Bool) : LinePlace :=
  { place with executable }

/-- The rules that are skipped in executable scripts change no line, and their messages are told
from those of the others. -/
structure LineTable.TellsSkipped (table : LineTable) (keeps : LogEntry → Bool) : Prop where
  reports : ∀ step ∈ table.steps, step.2.ignoreInScripts = true → step.2.Reports
  keeps : ∀ step ∈ table.steps, ∀ entry : LogEntry, entry.ruleSetName = some table.name →
    entry.ruleName = some step.1 → keeps entry = !step.2.ignoreInScripts

section Tables

variable {place : LinePlace} {keeps : LogEntry → Bool} {text : List Char}

theorem LineStep.filter_entries {step : LineStep} {ruleSetName ruleName : String} {verdict : Bool}
    (tells : ∀ entry : LogEntry, entry.ruleSetName = some ruleSetName →
      entry.ruleName = some ruleName → keeps entry = verdict) :
    (step.entries place ruleSetName ruleName text).filter keeps =
      if verdict then step.entries place ruleSetName ruleName text else [] := by
  rw [entries]
  split
  case isTrue =>
    have told := tells
      ⟨some ruleSetName, some ruleName, place.number, step.message place.number text⟩ rfl rfl
    cases verdict <;> simp [told]
  case isFalse => simp

/-- Steps do the same in executable scripts, but for what those report that are skipped there. -/
theorem Steps.run_inFile {steps : Steps} {name : String}
    (reports : ∀ step ∈ steps, step.2.ignoreInScripts = true → step.2.Reports)
    (tells : ∀ step ∈ steps, ∀ entry : LogEntry, entry.ruleSetName = some name →
      entry.ruleName = some step.1 → keeps entry = !step.2.ignoreInScripts) :
    steps.run (place.inFile true) name text =
      ((steps.run (place.inFile false) name text).1,
        (steps.run (place.inFile false) name text).2.filter keeps) := by
  induction steps generalizing text with
  | nil => rfl
  | cons step steps hyp =>
      obtain ⟨changesNothing, laterReports⟩ := List.forall_mem_cons.mp reports
      obtain ⟨told, laterTold⟩ := List.forall_mem_cons.mp tells
      have later : ∀ text, _ := fun text => @hyp text laterReports laterTold
      have plain : step.2.acts (place.inFile false) text = step.2.fires text := by
        simp [LineStep.acts, LinePlace.inFile]
      rw [run, run, plain]
      cases skipped : step.2.ignoreInScripts with
      | true =>
          have idle : step.2.acts (place.inFile true) text = false := by
            simp [LineStep.acts, LinePlace.inFile, skipped]
          have unchanged : step.2.change text = text := changesNothing skipped text
          rw [skipped] at told
          simp only [idle, Bool.false_eq_true, if_false, unchanged, later]
          split
          · simp [LineStep.filter_entries told]
          · rfl
      | false =>
          have acts : step.2.acts (place.inFile true) text = step.2.fires text := by
            simp [LineStep.acts, skipped]
          have same : step.2.entries (place.inFile true) name step.1 text =
              step.2.entries (place.inFile false) name step.1 text := rfl
          rw [skipped] at told
          simp only [acts, later, same]
          split
          · simp [LineStep.filter_entries told]
          · rfl

namespace LineTable

theorem run_inFile {table : LineTable} (tells : table.TellsSkipped keeps) :
    table.run (place.inFile true) text =
      ((table.run (place.inFile false) text).1,
        (table.run (place.inFile false) text).2.filter keeps) := by
  have admits : table.admits (place.inFile true).customIgnore text =
      table.admits (place.inFile false).customIgnore text := rfl
  rw [run, run, admits]
  split
  · exact Steps.run_inFile tells.reports tells.keeps
  · rfl

theorem runAll_inFile {tables : List LineTable}
    (tells : ∀ table ∈ tables, table.TellsSkipped keeps) :
    runAll (place.inFile true) tables text =
      ((runAll (place.inFile false) tables text).1,
        (runAll (place.inFile false) tables text).2.filter keeps) := by
  induction tables generalizing text with
  | nil => rfl
  | cons table tables hyp =>
      obtain ⟨here, others⟩ := List.forall_mem_cons.mp tells
      simp only [runAll, run_inFile here, hyp others, List.filter_append]

end LineTable

end Tables

namespace Format

/-- Lines of an executable script become the same as those of any other file, and the same is
reported of them, but for the rules that are skipped. -/
theorem runLines_inFile {customIgnore : Option Pattern} {keeps : LogEntry → Bool}
    {lines : List Planned}
    (tells : ∀ planned ∈ lines, ∀ table ∈ planned.2, table.TellsSkipped keeps) (number : Nat) :
    runLines true customIgnore number lines =
      ((runLines false customIgnore number lines).1,
        (runLines false customIgnore number lines).2.filter keeps) := by
  induction lines generalizing number with
  | nil => rfl
  | cons planned lines hyp =>
      obtain ⟨here, others⟩ := List.forall_mem_cons.mp tells
      have first : LineTable.runAll ⟨number, true, customIgnore⟩ planned.2 planned.1.content = _ :=
        @LineTable.runAll_inFile ⟨number, true, customIgnore⟩ keeps _ planned.2 here
      rw [runLines, runLines, runPlanned, runPlanned, first, hyp others, List.filter_append]
      rfl

end Format

namespace Builtin

open LineRules.Text LineRules.Format

/-! ## Scripts -/

/-- The id of the rule for calls that write to the console. -/
def consoleId : String := "js.console_call"

theorem tellsSkipped_of_ruleIds (path : Path) {table : LineTable}
    (reports : ∀ step ∈ table.steps, step.2.ignoreInScripts = true → step.2.Reports)
    (ids : ∀ step ∈ table.steps,
      decide (table.name ++ "." ++ step.1 ≠ consoleId) = !step.2.ignoreInScripts) :
    table.TellsSkipped fun entry => (violationOf path entry).ruleId ≠ consoleId where
  reports := reports
  keeps step isStep entry ruleSet rule := by
    simpa only [violationOf, ruleSet, rule, Option.getD_some] using ids step isStep

theorem whitespaceTable_tellsSkipped (path : Path) :
    whitespaceTable.TellsSkipped fun entry => (violationOf path entry).ruleId ≠ consoleId := by
  refine tellsSkipped_of_ruleIds path (fun step isStep skipped => ?_) (by decide)
  have always : ∀ step ∈ whitespaceTable.steps, step.2.ignoreInScripts = false := by decide
  rw [always step isStep] at skipped
  contradiction

theorem scriptTable_tellsSkipped (path : Path) :
    scriptTable.TellsSkipped fun entry => (violationOf path entry).ruleId ≠ consoleId := by
  refine tellsSkipped_of_ruleIds path (fun step isStep skipped => ?_) (by decide)
  obtain isFix | isReport := List.mem_append.mp (scriptTable_settlesLine.split ▸ isStep)
  · rw [scriptTable_settlesLine.always step isFix] at skipped
    contradiction
  · exact scriptTable_settlesLine.reporting step isReport

/-- Lines of a script become the same whether or not it is executable, and the same is noted of
them, but for calls that write to the console. -/
theorem runLines_script (customIgnore : Option Pattern) (path : Path) (number : Nat)
    (lines : List Line) :
    runLines true customIgnore number (plannedAlike scriptTable lines) =
      ((runLines false customIgnore number (plannedAlike scriptTable lines)).1,
        (runLines false customIgnore number (plannedAlike scriptTable lines)).2.filter
          fun entry => (violationOf path entry).ruleId ≠ consoleId) := by
  refine runLines_inFile ?_ number
  intro planned isPlanned table isTable
  obtain ⟨line, _, rfl⟩ := List.mem_map.mp isPlanned
  rcases List.mem_pair.mp isTable with rfl | rfl
  · exact whitespaceTable_tellsSkipped path
  · exact scriptTable_tellsSkipped path

/-- What formatting the lines of a script gives, executable or not. -/
theorem formatLines_script (customIgnore : Option Pattern) (linter : Option Linter) (path : Path)
    (shebang : Bool) (lines : List Line) :
    let formatter : Formatter := { language := .javaScript, store, customIgnore, linter }
    let out := runLines shebang customIgnore 1 (plannedAlike scriptTable lines)
    (formatter.formatLines path shebang 1
        (lines.map fun line => (line, Language.javaScript.ruleSets))).outcome =
      .ok (out.1, out.2.map (violationOf path)) := by
  intro formatter out
  have provides : ∀ planned ∈ plannedAlike scriptTable lines, ∀ table ∈ planned.2,
      formatter.store.Provides table := by
    intro planned isPlanned table isTable
    obtain ⟨line, _, rfl⟩ := List.mem_map.mp isPlanned
    rcases List.mem_pair.mp isTable with rfl | rfl
    · exact whitespaceTable_provided
    · exact scriptTable_provided
  have ran := formatter.formatLines_outcome path shebang 1 provides
  rw [plannedAlike, List.map_map] at ran
  exact ran

/-- No rule for scripts looks at whether the file is executable. -/
theorem scriptRules_overlooks : RuleSet.Overlooks scriptRules .script := by
  have each : ∀ member ∈ scriptRules, ∀ rule, member.2 = .rule rule → rule.Overlooks .script := by
    simp only [scriptRules, List.forall_mem_cons, List.not_mem_nil, false_imp_iff, implies_true,
      and_true]
    and_intros
    -- The one callback names its context only to leave it unused.
    all_goals rintro _ ⟨⟩ <;> constructor <;> rintro _ ⟨⟩ <;> intros <;> rfl
  exact fun name rule isMember => each _ isMember rule rfl

/-- **Executable scripts.** If no callback looks at whether the file is an executable script, a
rule-set does to a line of such a script what it does in any other file without the rules that are
skipped: the line, the messages, the names and the fault are the same. So formatting makes the same
of a script whether or not it is executable, and reports the same, but for calls that write to the
console. -/
theorem executable_only_skips {store : Store} {hooks : Hooks} {ref : RuleSetRef}
    (distinct : store.root.isDistinct = true)
    (overlooks : ∀ entries, store.lookup ref = some entries → entries.Overlooks .script)
    (overlook : hooks.Overlook .script) (run : Run) :
    store.apply hooks ref (run.within .script) =
        (store.forScripts.apply hooks ref.forScripts (run.within .plain)).within .script ∧
      ∀ (customIgnore : Option Pattern) (linter : Option Linter) (path : Path) (text : String),
        let formatter : Formatter :=
          { language := .javaScript, store := Builtin.store, customIgnore, linter }
        let planned := (linesOf text.toList).map fun line => (line, Language.javaScript.ruleSets)
        ∃ lines found,
          (formatter.formatLines path false 1 planned).outcome = .ok (lines, found) ∧
          (formatter.formatLines path true 1 planned).outcome =
            .ok (lines, found.filter fun violation => violation.ruleId ≠ consoleId) ∧
          (∀ violation ∈ found, violation.origin = .line) ∧
          let updated := String.ofList (lines.flatMap Line.chars)
          (formatter.format path text).outcome = (formatter.lint path updated).outcome.map
            fun linted => ⟨text, updated,
              (if isExecutable text.toList then
                found.filter fun violation => violation.ruleId ≠ consoleId
              else found) ++ linted⟩ := by
  refine ⟨Store.apply_script distinct overlooks overlook run, ?_⟩
  intro customIgnore linter path text formatter planned
  let alike := plannedAlike scriptTable (linesOf text.toList)
  have silenced := runLines_script customIgnore path 1 (linesOf text.toList)
  refine ⟨(runLines false customIgnore 1 alike).1,
    (runLines false customIgnore 1 alike).2.map (violationOf path),
    formatLines_script customIgnore linter path false (linesOf text.toList), ?_, ?_, ?_⟩
  · have script := formatLines_script customIgnore linter path true (linesOf text.toList)
    rw [silenced] at script
    rw [List.filter_map]
    exact script
  · exact List.forall_mem_map.mpr fun _ _ => rfl
  · have formatted := @format_alike_lint _ formatter (fun _ => rfl)
      ⟨whitespaceTable_provided, scriptTable_provided⟩ path text
    cases executable : isExecutable text.toList with
    | false =>
        rw [executable] at formatted
        exact formatted
    | true =>
        rw [executable, silenced] at formatted
        rw [if_pos rfl, List.filter_map]
        exact formatted

/-- A call that writes to the console is reported unless the script is executable. -/
theorem executable_only_skips_console :
    let run : Run := { context := .ofLine "console.log(1)" 1 false none }
    store.root.isDistinct = true ∧
      (∀ entries, store.lookup (.named "js") = some entries → entries.Overlooks .script) ∧
      Hooks.Overlook {} .script ∧
      (store.apply {} (.named "js") (run.within .plain)).run.log.length = 1 ∧
      (store.apply {} (.named "js") (run.within .script)).run.log.length = 0 ∧
      store.apply {} (.named "js") (run.within .script) =
        (store.forScripts.apply {} (.named "js") (run.within .plain)).within .script := by
  intro run
  have distinct : store.root.isDistinct = true := by decide
  have overlooks : ∀ entries, store.lookup (.named "js") = some entries →
      entries.Overlooks .script := by
    rintro _ ⟨⟩
    exact scriptRules_overlooks
  have overlook : Hooks.Overlook {} .script := by rintro _ ⟨⟩
  exact ⟨distinct, overlooks, overlook, by decide +kernel, by decide +kernel,
    (executable_only_skips distinct overlooks overlook run).1⟩

end Builtin

end LineRules
