import LineRules.Proofs.Builtin.Whitespace
import LineRules.Proofs.RuleSet.Settling
import LineRules.Proofs.Text.Lines
import LineRules.Proofs.Text.Openings

/-!
# A line under two rule-sets

A line of a script or a style sheet gets the rules for every file and then those of its
language. `LineTable.Settles` lists what the second rule-set has to offer for a second
run over the line to change nothing (`runAll_settled`) and to report nothing but what
the first one reported without a remedy (`runAll_reports`).
-/

namespace LineRules.Builtin

open LineRules.Text LineRules.Pattern

/-- A text that does not end with a space or a tab. -/
def Trimmed (text : List Char) : Prop :=
  ∀ c ∈ text.getLast?, isGap c = false

theorem oneLine_trimEnd {text : List Char} (oneLine : OneLine text) : OneLine (trimEnd text) :=
  ⟨fun isMember => oneLine.1 (trimEnd_subset isMember),
    fun isMember => oneLine.2 (trimEnd_subset isMember)⟩

/-- The line after the changes of some rules. -/
def Steps.fix (fixes : Steps) (text : List Char) : List Char :=
  fixes.foldl (fun text step => step.2.change text) text

theorem Steps.fix_eq (fixes : Steps) (text : List Char) : Steps.fix fixes text =
    (fixes.map fun step => step.2.change).foldl (fun text change => change text) text := by
  rw [Steps.fix, List.foldl_map]

/-- A rule-set of rules that change lines, whatever the file, and after them of rules that
report. -/
structure InTurn (table : LineTable) (fixes reports : Steps) : Prop where
  split : table.steps = fixes ++ reports
  reporting : ∀ step ∈ reports, step.2.Reports
  still : ∀ step ∈ fixes, step.2.Still
  always : ∀ step ∈ fixes, step.2.ignoreInScripts = false

namespace InTurn

variable {table : LineTable} {fixes reports : Steps} {place : LinePlace} {text : List Char}

theorem fix_run_fst (inTurn : InTurn table fixes reports) {name : String} :
    (fixes.run place name text).1 = Steps.fix fixes text := by
  refine Steps.run_fst inTurn.still ?_
  intro step isStep skipped
  rw [inTurn.always step isStep] at skipped
  contradiction

/-- What becomes of a line, and what is reported of it. -/
theorem run_eq (inTurn : InTurn table fixes reports)
    (works : table.admits place.customIgnore text = true) :
    table.run place text = (Steps.fix fixes text,
      (fixes.run place table.name text).2 ++
        (reports.run place table.name (Steps.fix fixes text)).2) := by
  rw [LineTable.run, if_pos works, inTurn.split, Steps.run_append, inTurn.fix_run_fst,
    Steps.run_reports inTurn.reporting]

/-- On a line with nothing to change, the rule-set only reports. -/
theorem run_quiet (inTurn : InTurn table fixes reports)
    (quiet : ∀ step ∈ fixes, step.2.fires text = false) :
    table.run place text = (text,
      if table.admits place.customIgnore text then (reports.run place table.name text).2 else []) := by
  cases works : table.admits place.customIgnore text with
  | false => simp [LineTable.run, works]
  | true =>
      rw [LineTable.run, if_pos works, inTurn.split, Steps.run_append, Steps.run_quiet quiet]
      simp [Steps.run_reports inTurn.reporting]

theorem fix_of_quiet (inTurn : InTurn table fixes reports)
    (quiet : ∀ step ∈ fixes, step.2.fires text = false) : Steps.fix fixes text = text := by
  have ran : (fixes.run ⟨0, false, none⟩ "" text).1 = Steps.fix fixes text := inTurn.fix_run_fst
  rw [← ran, Steps.run_quiet quiet]

end InTurn

/-- A rule-set that first changes lines, which it settles in one run, and then reports. -/
structure Settles (table : LineTable) (fixes reports : Steps) : Prop where
  split : table.steps = fixes ++ reports
  reporting : ∀ step ∈ reports, step.2.Reports
  still : ∀ step ∈ fixes, step.2.Still
  always : ∀ step ∈ fixes, step.2.ignoreInScripts = false
  quiet {text : List Char} : OneLine text →
    ∀ step ∈ fixes, step.2.fires (Steps.fix fixes text) = false
  oneLine {text : List Char} : OneLine text → OneLine (Steps.fix fixes text)
  empty : ∀ step ∈ fixes ++ reports, step.2.fires [] = false

theorem Settles.inTurn {table : LineTable} {fixes reports : Steps}
    (settles : Settles table fixes reports) : InTurn table fixes reports :=
  ⟨settles.split, settles.reporting, settles.still, settles.always⟩

/-! ## The rules for every file -/

/-- The rule that changes the end of a line. -/
def whitespaceFixes : Steps := (patternSteps whitespaceRules).take 1

/-- The rule that reports the indentation of a line. -/
def whitespaceReports : Steps := (patternSteps whitespaceRules).drop 1

theorem whitespaceFixes_fix {text : List Char} (oneLine : OneLine text) :
    Steps.fix whitespaceFixes text = trimEnd text :=
  trailingBlanks_replaceBy oneLine.1

theorem whitespaceFixes_quiet {text : List Char} (oneLine : OneLine text) (trimmed : Trimmed text) :
    ∀ step ∈ whitespaceFixes, step.2.fires text = false := by
  intro step isStep
  obtain rfl := List.mem_singleton.mp isStep
  exact trailingBlanks_matchesIn oneLine.1 trimmed

theorem whitespaceTable_settles : Settles whitespaceTable whitespaceFixes whitespaceReports where
  split := (List.take_append_drop 1 _).symm
  reporting step isStep := by
    obtain rfl := List.mem_singleton.mp isStep
    exact fun _ => rfl
  still step isStep := by
    obtain rfl := List.mem_singleton.mp isStep
    exact Rule.still_patternStep _
  always step isStep := by
    obtain rfl := List.mem_singleton.mp isStep
    rfl
  quiet oneLine := by
    rw [whitespaceFixes_fix oneLine]
    exact whitespaceFixes_quiet (oneLine_trimEnd oneLine) getLast?_trimEnd
  oneLine oneLine := by
    rw [whitespaceFixes_fix oneLine]
    exact (oneLine_trimEnd oneLine)
  empty step isStep := by
    have isRule : step ∈ patternSteps whitespaceRules := by
      rwa [whitespaceFixes, whitespaceReports, List.take_append_drop] at isStep
    have quiet : ∀ step ∈ patternSteps whitespaceRules, step.2.fires [] = false := by
      decide
    exact quiet step isRule

/-- What is reported of the indentation depends on the blanks at the start only. -/
theorem whitespaceReports_run_congr {place later : LinePlace} {name : String}
    {text out : List Char} (number : later.number = place.number)
    (lead : out.takeWhile isBlank = text.takeWhile isBlank) :
    (whitespaceReports.run later name out).2 = (whitespaceReports.run place name text).2 := by
  refine Steps.run_congr number ?_ whitespaceTable_settles.reporting ?_ ?_
  · intro step isStep skipped
    obtain rfl := List.mem_singleton.mp isStep
    contradiction
  · intro step isStep
    obtain rfl := List.mem_singleton.mp isStep
    exact mixedIndentation_matchesIn_congr lead
  · intro step isStep number
    obtain rfl := List.mem_singleton.mp isStep
    rfl

/-! ## A line under both rule-sets -/

/-- A rule-set that settles lines in one run and keeps how they begin and end. What it
reports, if anything, it reports of the settled line as well. -/
structure SettlesLine (table : LineTable) (fixes reports : Steps) : Prop
    extends Settles table fixes reports where
  trimmed {text : List Char} : OneLine text → Trimmed text → Trimmed (Steps.fix fixes text)
  lead {text : List Char} : OneLine text →
    (Steps.fix fixes text).takeWhile isBlank = text.takeWhile isBlank
  ignored {text : List Char} : reports ≠ [] → OneLine text →
    table.ignore.any (·.matchesIn text) = false →
    table.ignore.any (·.matchesIn (Steps.fix fixes text)) = false
  executable {text : List Char} : reports ≠ [] → OneLine text →
    Format.isExecutable (Steps.fix fixes text) = Format.isExecutable text

section TwoTables

variable {table : LineTable} {fixes reports : Steps} {place later : LinePlace}
  {customIgnore : Option Pattern} {text : List Char}

/-- Whether the custom pattern for lines to leave alone matches. -/
def isClosed (customIgnore : Option Pattern) (text : List Char) : Bool :=
  customIgnore.any (·.matchesIn text)

/-- What becomes of a line under both rule-sets. -/
def settledLine (table : LineTable) (fixes : Steps) (customIgnore : Option Pattern)
    (text : List Char) : List Char :=
  if isClosed customIgnore text then text
  else if table.admits customIgnore (trimEnd text) then Steps.fix fixes (trimEnd text)
  else trimEnd text

theorem run_of_isClosed (closed : isClosed place.customIgnore text = true) (table : LineTable) :
    table.run place text = (text, []) := by
  rw [isClosed] at closed
  have refused : table.admits place.customIgnore text = false := by
    simp [LineTable.admits, closed]
  simp [LineTable.run, refused]

theorem whitespaceTable_admits (isOpen : isClosed customIgnore text = false) :
    whitespaceTable.admits customIgnore text = true := by
  rw [isClosed] at isOpen
  simp [LineTable.admits, whitespaceTable, isOpen]

theorem whitespaceTable_run (oneLine : OneLine text)
    (isOpen : isClosed place.customIgnore text = false) : whitespaceTable.run place text =
      (trimEnd text, (whitespaceFixes.run place "common" text).2 ++
        (whitespaceReports.run place "common" (trimEnd text)).2) := by
  rw [whitespaceTable_settles.inTurn.run_eq (whitespaceTable_admits isOpen), whitespaceFixes_fix oneLine]
  rfl

theorem whitespaceTable_run_trimmed (oneLine : OneLine text) (trimmed : Trimmed text)
    (isOpen : isClosed place.customIgnore text = false) : whitespaceTable.run place text =
      (text, (whitespaceReports.run place "common" text).2) := by
  rw [whitespaceTable_settles.inTurn.run_quiet (whitespaceFixes_quiet oneLine trimmed),
    if_pos (whitespaceTable_admits isOpen)]
  rfl

theorem runAll_two : LineTable.runAll place [whitespaceTable, table] text =
    ((table.run place (whitespaceTable.run place text).1).1,
      (whitespaceTable.run place text).2 ++
        (table.run place (whitespaceTable.run place text).1).2) := by
  simp [LineTable.runAll]

theorem runAll_fst (inTurn : InTurn table fixes reports) (oneLine : OneLine text) :
    (LineTable.runAll place [whitespaceTable, table] text).1 =
      settledLine table fixes place.customIgnore text := by
  rw [runAll_two, settledLine]
  split
  case isTrue closed => rw [run_of_isClosed closed, run_of_isClosed closed]
  case isFalse isOpen =>
    rw [whitespaceTable_run oneLine (by simpa using isOpen)]
    split
    case isTrue works => rw [inTurn.run_eq works]
    case isFalse refused => rw [LineTable.run, if_neg refused]

theorem oneLine_settledLine
    (stays : ∀ {text : List Char}, OneLine text → OneLine (Steps.fix fixes text))
    (oneLine : OneLine text) : OneLine (settledLine table fixes customIgnore text) := by
  rw [settledLine]
  split
  · exact oneLine
  · split
    · exact stays (oneLine_trimEnd oneLine)
    · exact oneLine_trimEnd oneLine

theorem trimmed_settledLine (settles : SettlesLine table fixes reports) (oneLine : OneLine text)
    (isOpen : isClosed customIgnore text = false) :
    Trimmed (settledLine table fixes customIgnore text) := by
  rw [settledLine, isOpen]
  simp only [Bool.false_eq_true, if_false]
  split
  · exact settles.trimmed (oneLine_trimEnd oneLine) getLast?_trimEnd
  · exact getLast?_trimEnd

/-- Both rule-sets leave alone what they have made of a line. -/
theorem settledLine_settledLine (settles : SettlesLine table fixes reports)
    (oneLine : OneLine text) :
    settledLine table fixes customIgnore (settledLine table fixes customIgnore text) =
      settledLine table fixes customIgnore text := by
  cases again : isClosed customIgnore (settledLine table fixes customIgnore text) with
  | true =>
      rw [settledLine, again]
      rfl
  | false =>
      cases closed : isClosed customIgnore text with
      | true =>
          have same : settledLine table fixes customIgnore text = text := by
            simp [settledLine, closed]
          rw [same, closed] at again
          contradiction
      | false =>
          have trimmed := trimEnd_eq_self (trimmed_settledLine settles oneLine closed)
          rw [settledLine, again, trimmed]
          simp only [Bool.false_eq_true, if_false]
          split
          case isFalse => rfl
          case isTrue works =>
            have quiet : ∀ step ∈ fixes,
                step.2.fires (settledLine table fixes customIgnore text) = false := by
              rw [settledLine, closed] at works ⊢
              simp only [Bool.false_eq_true, if_false] at works ⊢
              split at works
              case isTrue here =>
                rw [if_pos here]
                exact settles.quiet (oneLine_trimEnd oneLine)
              case isFalse refused => exact absurd works refused
            exact settles.inTurn.fix_of_quiet quiet

/-- A condition on messages has the same verdict on all of some rules. -/
def Tells (keeps : LogEntry → Bool) (name : String) (steps : Steps) (verdict : Bool) : Prop :=
  ∀ entry : LogEntry, entry.ruleSetName = some name →
    (∃ step ∈ steps, entry.ruleName = some step.1) → keeps entry = verdict

theorem filter_run_of_tells {keeps : LogEntry → Bool} {name : String} {steps : Steps}
    {verdict : Bool} (tells : Tells keeps name steps verdict) :
    (steps.run place name text).2.filter keeps =
      if verdict then (steps.run place name text).2 else [] := by
  have all : ∀ entry ∈ (steps.run place name text).2, keeps entry = verdict := by
    intro entry isEntry
    obtain ⟨named, isRule⟩ := Steps.mem_run isEntry
    exact tells entry named isRule
  cases verdict with
  | true => simpa [List.filter_eq_self] using all
  | false => simpa [List.filter_eq_nil_iff] using all

/-- A condition that holds of messages without a remedy and not of others. -/
structure KeepsReports (keeps : LogEntry → Bool) (table : LineTable) (fixes reports : Steps) :
    Prop where
  trailing : Tells keeps "common" whitespaceFixes false
  indentation : Tells keeps "common" whitespaceReports true
  fixes : Tells keeps table.name fixes false
  reports : Tells keeps table.name reports true

/-- A second run over a line reports just what the first one reported without a remedy. -/
theorem runAll_snd (settles : SettlesLine table fixes reports) (oneLine : OneLine text)
    (number : later.number = place.number)
    (executable : reports ≠ [] → later.executable = place.executable)
    (noCustom : place.customIgnore = none) (noCustomLater : later.customIgnore = none)
    {keeps : LogEntry → Bool} (keepsReports : KeepsReports keeps table fixes reports) :
    (LineTable.runAll later [whitespaceTable, table] (settledLine table fixes none text)).2 =
      (LineTable.runAll place [whitespaceTable, table] text).2.filter keeps := by
  have isOpen : ∀ text, isClosed none text = false := fun _ => rfl
  have outLine : OneLine (settledLine table fixes none text) := oneLine_settledLine settles.oneLine oneLine
  have trimmed := trimmed_settledLine settles oneLine (isOpen text)
  rw [runAll_two, runAll_two, whitespaceTable_run oneLine (by rw [noCustom]; rfl),
    whitespaceTable_run_trimmed outLine trimmed (by rw [noCustomLater]; rfl)]
  have sameLead : (settledLine table fixes none text).takeWhile isBlank =
      (trimEnd text).takeWhile isBlank := by
    rw [settledLine, isOpen]
    simp only [Bool.false_eq_true, if_false]
    split
    · exact settles.lead (oneLine_trimEnd oneLine)
    · rfl
  simp only [List.filter_append, filter_run_of_tells keepsReports.trailing,
    filter_run_of_tells keepsReports.indentation, whitespaceReports_run_congr number sameLead,
    if_true, Bool.false_eq_true, if_false, List.nil_append]
  rw [settledLine, isOpen]
  simp only [Bool.false_eq_true, if_false]
  split
  case isFalse refused => simp [LineTable.run, noCustom, noCustomLater, refused]
  case isTrue works =>
    rw [settles.inTurn.run_quiet (settles.quiet (oneLine_trimEnd oneLine)),
      settles.inTurn.run_eq (by rwa [noCustom]), noCustomLater]
    simp only [List.filter_append, filter_run_of_tells keepsReports.fixes,
      filter_run_of_tells keepsReports.reports, if_true, Bool.false_eq_true, if_false,
      List.nil_append]
    congr 1
    cases none : reports with
    | nil => simp [Steps.run]
    | cons report others =>
        have some : reports ≠ [] := by simp [none]
        have stays : table.admits Option.none (Steps.fix fixes (trimEnd text)) = true := by
          have notIgnored := settles.ignored some (oneLine_trimEnd oneLine)
            (by simpa [LineTable.admits] using works)
          simp [LineTable.admits, notIgnored]
        rw [if_pos stays, ← none]
        refine Steps.run_congr number (fun _ _ _ => executable some) settles.reporting ?_ ?_
        · exact fun _ _ => rfl
        · exact fun _ _ _ => rfl

theorem isExecutable_trimEnd : Format.isExecutable (trimEnd text) = Format.isExecutable text := by
  rw [Bool.eq_iff_iff, isExecutable_iff, isExecutable_iff]
  match text with
  | [] => simp [trimEnd]
  | [c] =>
      rw [trimEnd]
      split <;> simp [trimEnd]
  | c :: d :: rest =>
      constructor
      · rintro ⟨last, trimmed⟩
        rw [trimEnd] at trimmed
        split at trimmed
        · contradiction
        · obtain ⟨rfl, tail⟩ := List.cons.inj trimmed
          rw [trimEnd] at tail
          split at tail
          · contradiction
          · obtain ⟨rfl, _⟩ := List.cons.inj tail
            exact ⟨rest, rfl⟩
      · rintro ⟨last, split⟩
        obtain ⟨rfl, rfl, rfl⟩ : c = '#' ∧ d = '!' ∧ rest = last := by simpa using split
        have first : isGap '#' = false := by decide
        have second : isGap '!' = false := by decide
        exact ⟨trimEnd rest, by simp [trimEnd, first, second]⟩

theorem isExecutable_settledLine (settles : SettlesLine table fixes reports)
    (reporting : reports ≠ []) (oneLine : OneLine text) :
    Format.isExecutable (settledLine table fixes customIgnore text) =
      Format.isExecutable text := by
  rw [settledLine]
  split
  · rfl
  · split
    · rw [settles.executable reporting (oneLine_trimEnd oneLine), isExecutable_trimEnd]
    · exact isExecutable_trimEnd

/-- There is nothing to report of an empty line. -/
theorem runAll_empty (settles : SettlesLine table fixes reports) :
    LineTable.runAll place [whitespaceTable, table] [] = ([], []) := by
  have quiet : ∀ {table : LineTable} {fixes reports : Steps}, Settles table fixes reports →
      table.run place [] = ([], []) := by
    intro table fixes reports settles
    rw [LineTable.run]
    split
    · rw [settles.split, Steps.run_quiet settles.empty]
    · rfl
  rw [runAll_two, quiet whitespaceTable_settles, quiet settles.toSettles]
  rfl

end TwoTables

end LineRules.Builtin
