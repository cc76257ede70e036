import LineRules.Format.File
import LineRules.Proofs.RuleSet.Tables

/-!
# Formatting a file line by line

Where all rule-sets that the plan of a file names are tables, formatting never fails and
is a function of the lines: `runLines` runs the tables of every line and keeps the
endings. `format_outcome_lint` says that `Formatter.format` gives just that, with what the
token rules find in the outcome.
-/

namespace LineRules.Format

open LineRules.Text

/-- A line with the tables that its plan names. -/
abbrev Planned := Line × List LineTable

/-- What becomes of a line, and its messages. -/
def runPlanned (place : LinePlace) (planned : Planned) : Line × List LogEntry :=
  let out := LineTable.runAll place planned.2 planned.1.content
  (⟨out.1, planned.1.ending⟩, out.2)

/-- What becomes of lines, and their messages; `number` is the number of the first one. -/
def runLines (executable : Bool) (customIgnore : Option Pattern) (number : Nat) :
    List Planned → List Line × List LogEntry
  | [] => ([], [])
  | planned :: rest =>
    let first := runPlanned ⟨number, executable, customIgnore⟩ planned
    let others := runLines executable customIgnore (number + 1) rest
    (first.1 :: others.1, first.2 ++ others.2)

/-- What becomes of lines is told line by line, where it does not depend on their numbers. -/
theorem runLines_map_fst {α : Type} {executable : Bool} {customIgnore : Option Pattern}
    {items : List α} {planned : α → Planned} {out : α → Line}
    (each : ∀ item ∈ items, ∀ number,
      (runPlanned ⟨number, executable, customIgnore⟩ (planned item)).1 = out item)
    (number : Nat) :
    (runLines executable customIgnore number (items.map planned)).1 = items.map out := by
  induction items generalizing number with
  | nil => rfl
  | cons item items hyp =>
      obtain ⟨here, others⟩ := List.forall_mem_cons.mp each
      rw [List.map_cons, List.map_cons, runLines, here, hyp others]

theorem outcome_bind {α β : Type} {first : Noted α} {result : α} (done : first.outcome = .ok result)
    (next : α → Noted β) : (first >>= next).outcome = (next result).outcome := by
  obtain ⟨outcome, notices⟩ := first
  obtain rfl : outcome = .ok result := done
  rfl

theorem outcome_bind_error {α β : Type} {first : Noted α} {fault : Fault}
    (stopped : first.outcome = .error fault) (next : α → Noted β) :
    (first >>= next).outcome = .error fault := by
  obtain ⟨outcome, notices⟩ := first
  obtain rfl : outcome = .error fault := stopped
  rfl

namespace Formatter

variable {formatter : Formatter} (path : Path) (shebang : Bool) (number : Nat)

theorem formatLine_outcome {planned : Planned}
    (provides : ∀ table ∈ planned.2, formatter.store.Provides table) :
    let out := runPlanned ⟨number, shebang, formatter.customIgnore⟩ planned
    (formatter.formatLine path shebang number planned.1.content
        (planned.2.map LineTable.name)).outcome =
      .ok (out.1.content, out.2.map (violationOf path)) := by
  obtain ⟨line, tables⟩ := planned
  have shows : (Run.mk (Context.ofLine (String.ofList line.content) number shebang
      formatter.customIgnore) [] []).context.Shows line.content := ⟨rfl, rfl⟩
  obtain ⟨later, isLater, becomes⟩ := Store.applyAll_becomes provides shows
  have ran : formatter.runLine shebang number line.content (tables.map LineTable.name) =
      .going later := by
    rw [runLine, List.map_map]
    exact isLater
  have log := becomes.log
  simp only [formatLine, ran, becomes.shows.fullItem, asText_ofList, Progress.run, log]
  rfl

theorem formatLines_outcome {lines : List Planned}
    (provides : ∀ planned ∈ lines, ∀ table ∈ planned.2, formatter.store.Provides table) :
    let out := runLines shebang formatter.customIgnore number lines
    (formatter.formatLines path shebang number
        (lines.map fun planned => (planned.1, planned.2.map LineTable.name))).outcome =
      .ok (out.1, out.2.map (violationOf path)) := by
  induction lines generalizing number with
  | nil => rfl
  | cons planned lines hyp =>
      have here := formatLine_outcome path shebang number
        (provides planned (by simp))
      have rest := hyp (number + 1) fun other isOther => provides other (by simp [isOther])
      rw [List.map_cons, formatLines, outcome_bind here, outcome_bind rest]
      simp [runLines, runPlanned, pure]

/-- Formatting a file whose plan names tables only. Token rules add violations to what has
come out, unless they are stopped by a fault. -/
theorem format_outcome_lint {formatter : Formatter} {text : String} {lines : List Planned}
    (given : lines.map Prod.fst = linesOf text.toList)
    (planned : Format.plan formatter.language ((linesOf text.toList).map Line.content) =
      .ok (lines.map fun planned => planned.2.map LineTable.name))
    (provides : ∀ planned ∈ lines, ∀ table ∈ planned.2, formatter.store.Provides table) :
    let out := runLines (isExecutable text.toList) formatter.customIgnore 1 lines
    let updated := String.ofList (out.1.flatMap Line.chars)
    (formatter.format path text).outcome = (formatter.lint path updated).outcome.map
      fun linted => ⟨text, updated, out.2.map (violationOf path) ++ linted⟩ := by
  have zipped : (linesOf text.toList).zip (lines.map fun planned => planned.2.map LineTable.name) =
      lines.map fun planned => (planned.1, planned.2.map LineTable.name) := by
    rw [← given, List.zip_map']
  have ran := formatLines_outcome path (isExecutable text.toList) 1 provides
  have plans : (liftM (Format.plan formatter.language
      ((linesOf text.toList).map Line.content)) : Noted (List (List String))).outcome =
      .ok (lines.map fun planned => planned.2.map LineTable.name) := planned
  intro out updated
  rw [format, outcome_bind plans, zipped, outcome_bind ran]
  cases linted : (formatter.lint path updated).outcome with
  | error fault => exact outcome_bind_error linted _
  | ok found =>
      rw [outcome_bind linted]
      rfl

theorem lint_of_no_linter (noLinter : formatter.linter = none) (text : String) :
    (formatter.lint path text).outcome = .ok [] := by
  cases formatter.language <;> simp [lint, noLinter] <;> rfl

end Formatter

end LineRules.Format
