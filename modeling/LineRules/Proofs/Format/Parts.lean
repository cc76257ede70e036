import LineRules.Proofs.Format.Languages

/-!
# Formatting a text in parts

A text that is cut after the end of a line can be formatted in parts: what comes out is what
comes out of the parts, and what is reported is what is reported of the parts, with the lines
counted on (`format_append`). Nothing is carried over from one line to the next: the number of
a line shows in its messages only, and that a file is an executable script silences rules that
change nothing.
-/

namespace LineRules

/-- Where a violation was found, and by which rule. -/
def Violation.spot (violation : Violation) : String × Option Int :=
  (violation.ruleId, violation.line?)

/-- Where a violation is found when there are more lines before it. -/
def Violation.spotAfter (count : Nat) (violation : Violation) : String × Option Int :=
  (violation.ruleId, violation.line?.map (· + count))

/-- A place further down in a file. -/
def LinePlace.down (place : LinePlace) (count : Int) : LinePlace :=
  { place with number := place.number + count }

/-- The rule that gave a message, and the line when there are more lines before it. -/
def LogEntry.spotAfter (count : Int) (entry : LogEntry) : Option String × Option String × Int :=
  (entry.ruleSetName, entry.ruleName, entry.lineNumber + count)

/-- Every rule that acts on a line has a message for it. -/
def LineTable.Worded (table : LineTable) : Prop :=
  ∀ step ∈ table.steps, ∀ number text, step.2.fires text = true →
    (step.2.message number text).isTruthy = true

section Down

variable {place : LinePlace} {text : List Char} (count : Int)

theorem Steps.run_down {steps : Steps} {name : String}
    (worded : ∀ step ∈ steps, ∀ number text, step.2.fires text = true →
      (step.2.message number text).isTruthy = true) :
    (steps.run (place.down count) name text).1 = (steps.run place name text).1 ∧
      (steps.run (place.down count) name text).2.map (LogEntry.spotAfter 0) =
        (steps.run place name text).2.map (LogEntry.spotAfter count) := by
  induction steps generalizing text with
  | nil => exact ⟨rfl, rfl⟩
  | cons step steps hyp =>
      obtain ⟨first, others⟩ := List.forall_mem_cons.mp worded
      have acts : step.2.acts (place.down count) text = step.2.acts place text := rfl
      rw [run, run, acts]
      split
      case isFalse => exact hyp others
      case isTrue acting =>
        have fires : step.2.fires text = true := (Bool.and_eq_true_iff.mp acting).2
        obtain ⟨sameText, sameSpots⟩ := @hyp (step.2.change text) others
        refine ⟨sameText, ?_⟩
        simp only [List.map_append, sameSpots]
        simp [LineStep.entries, first _ text fires, LogEntry.spotAfter, LinePlace.down]

theorem LineTable.run_down {table : LineTable} (worded : table.Worded) :
    (table.run (place.down count) text).1 = (table.run place text).1 ∧
      (table.run (place.down count) text).2.map (LogEntry.spotAfter 0) =
        (table.run place text).2.map (LogEntry.spotAfter count) := by
  have admitted : table.admits (place.down count).customIgnore text =
      table.admits place.customIgnore text := rfl
  rw [run, run, admitted]
  split
  · exact Steps.run_down count worded
  · exact ⟨rfl, rfl⟩

theorem LineTable.runAll_down {tables : List LineTable}
    (worded : ∀ table ∈ tables, table.Worded) :
    (runAll (place.down count) tables text).1 = (runAll place tables text).1 ∧
      (runAll (place.down count) tables text).2.map (LogEntry.spotAfter 0) =
        (runAll place tables text).2.map (LogEntry.spotAfter count) := by
  induction tables generalizing text with
  | nil => exact ⟨rfl, rfl⟩
  | cons table tables hyp =>
      obtain ⟨first, others⟩ := List.forall_mem_cons.mp worded
      obtain ⟨firstText, firstSpots⟩ := @run_down place text count _ first
      obtain ⟨sameText, sameSpots⟩ := @hyp (table.run place text).1 others
      simp only [runAll, List.map_append, firstText, firstSpots, sameText, sameSpots, and_self]

end Down

namespace Format

open LineRules.Text LineRules.Builtin

variable {executable : Bool} {customIgnore : Option Pattern} {number : Nat}

/-! ## Lines -/

theorem runLines_append (first second : List Planned) :
    runLines executable customIgnore number (first ++ second) =
      ((runLines executable customIgnore number first).1 ++
          (runLines executable customIgnore (number + first.length) second).1,
        (runLines executable customIgnore number first).2 ++
          (runLines executable customIgnore (number + first.length) second).2) := by
  induction first generalizing number with
  | nil => rfl
  | cons planned first hyp =>
      have count : number + 1 + first.length = number + (first.length + 1) := by omega
      simp [runLines, hyp, count]

/-- What becomes of lines does not depend on how many there are before them. -/
theorem runLines_down (count : Nat) {lines : List Planned}
    (worded : ∀ planned ∈ lines, ∀ table ∈ planned.2, table.Worded) :
    (runLines executable customIgnore (number + count) lines).1 =
        (runLines executable customIgnore number lines).1 ∧
      (runLines executable customIgnore (number + count) lines).2.map (LogEntry.spotAfter 0) =
        (runLines executable customIgnore number lines).2.map (LogEntry.spotAfter count) := by
  induction lines generalizing number with
  | nil => exact ⟨rfl, rfl⟩
  | cons planned lines hyp =>
      obtain ⟨first, others⟩ := List.forall_mem_cons.mp worded
      have place : (⟨(number + count : Nat), executable, customIgnore⟩ : LinePlace) =
          LinePlace.down ⟨number, executable, customIgnore⟩ count := by
        simp [LinePlace.down]
      obtain ⟨sameText, sameSpots⟩ := @LineTable.runAll_down ⟨number, executable, customIgnore⟩
        planned.1.content count _ first
      obtain ⟨laterText, laterSpots⟩ := @hyp (number + 1) others
      have next : number + count + 1 = number + 1 + count := by omega
      simp only [runLines, runPlanned, place, sameText, next, laterText, List.map_append, sameSpots,
        laterSpots, and_self]

/-! ## The rule-sets of scripts and style sheets -/

/-- Rules that change lines say so, so only those that report are to be looked at. -/
theorem worded_of_tells {table : LineTable} {fixes reports : Steps}
    (tells : TellsChanges table fixes reports)
    (each : ∀ step ∈ reports, ∀ number text, step.2.fires text = true →
      (step.2.message number text).isTruthy = true) : table.Worded := by
  rw [LineTable.Worded, tells.split]
  exact List.forall_mem_append.mpr ⟨tells.worded, each⟩

theorem whitespaceTable_worded : whitespaceTable.Worded := by
  refine worded_of_tells whitespaceTable_tells fun step isStep number text _ => ?_
  obtain rfl := List.mem_singleton.mp isStep
  exact NamesLine.isTruthy_message ⟨_, by decide, fun _ _ => rfl⟩ number text

/-- A call that is found is named in the message. -/
theorem consoleStep_worded {number : Int} {text : List Char}
    (fires : consoleStep.fires text = true) :
    (consoleStep.message number text).isTruthy = true := by
  obtain ⟨found, search⟩ := Option.isSome_iff_exists.mp fires
  simp [consoleStep, search, callMessage, Value.isTruthy]

theorem scriptTable_worded : scriptTable.Worded := by
  refine worded_of_tells scriptTable_tells.toTellsChanges ?_
  have steps : scriptReportSteps = [("loose_equality", _), ("debugger_statement", _),
      ("console_call", consoleStep)] := rfl
  rw [steps]
  simp only [List.mem_cons, List.not_mem_nil, or_false, forall_eq_or_imp, forall_eq]
  refine ⟨fun number text _ => ?_, fun number text _ => ?_, fun number text => consoleStep_worded⟩
  · exact NamesLine.isTruthy_message ⟨_, by decide, fun _ _ => rfl⟩ number text
  · exact NamesLine.isTruthy_message ⟨_, by decide, fun _ _ => rfl⟩ number text

theorem styleTable_worded : styleTable.Worded :=
  worded_of_tells styleTable_tells.toTellsChanges (by simp)

/-! ## Files -/

/-- The first line, which tells an executable script, is that of the first part. -/
theorem isExecutable_append_text {text later : List Char} (ended : EndsLine text)
    (apart : StaysApart text later) : isExecutable (text ++ later) = isExecutable text := by
  have nonempty : linesOf text ≠ [] := by
    intro nothing
    have empty := flatMap_chars_linesOf text
    rw [nothing] at empty
    obtain rfl : text = [] := empty.symm
    simp [EndsLine] at ended
  obtain ⟨line, lines, split⟩ := List.exists_cons_of_ne_nil nonempty
  have whole := isExecutable_flatMap_chars (isCut_linesOf (text ++ later))
  have part := isExecutable_flatMap_chars (isCut_linesOf text)
  rw [flatMap_chars_linesOf] at whole part
  rw [whole, part, linesOf_append ended apart, split]
  rfl

theorem map_spotAfter_violationOf (path : Path) (count : Nat) {entries others : List LogEntry}
    (same : entries.map (LogEntry.spotAfter 0) = others.map (LogEntry.spotAfter count)) :
    (entries.map (violationOf path)).map Violation.spot =
      (others.map (violationOf path)).map (Violation.spotAfter count) := by
  let shown : Option String × Option String × Int → String × Option Int :=
    fun entry => (entry.1.getD "" ++ "." ++ entry.2.1.getD "", some entry.2.2)
  have spots := congrArg (List.map shown) same
  simpa [shown, Function.comp_def, LogEntry.spotAfter, Violation.spot, Violation.spotAfter,
    violationOf, Violation.line?] using spots

/-- Files under the rule-sets of one language are formatted in parts. -/
theorem format_alike_append {formatter : Formatter} {path : Path} {table : LineTable}
    {fixes reports : Steps} (noTokens : ∀ text, (formatter.lint path text).outcome = .ok [])
    (planned : ∀ contents, Format.plan formatter.language contents =
      .ok (contents.map fun _ => ["common", table.name]))
    (provides : formatter.store.Provides whitespaceTable ∧ formatter.store.Provides table)
    (settles : SettlesLine table fixes reports) (worded : table.Worded) {text later : String}
    (ended : EndsLine text.toList) (apart : StaysApart text.toList later.toList) :
    ∃ first second whole : Formatted,
      (formatter.format path text).outcome = .ok first ∧
      (formatter.format path later).outcome = .ok second ∧
      (formatter.format path (text ++ later)).outcome = .ok whole ∧
      whole.updated = first.updated ++ second.updated ∧
      (isExecutable text.toList = isExecutable later.toList →
        whole.violations.map Violation.spot = first.violations.map Violation.spot ++
          second.violations.map (Violation.spotAfter (linesOf text.toList).length)) := by
  have formatted := @format_alike _ _ _ noTokens planned provides
  have lines : ∀ {executable : Bool} (text : List Char),
      (runLines executable formatter.customIgnore 1 (plannedAlike table (linesOf text))).1 =
        (linesOf text).map (settled table fixes formatter.customIgnore) :=
    fun text => runLines_fst settles fun _ => (isCut_linesOf text).oneLine
  refine ⟨_, _, _, formatted text, formatted later, formatted (text ++ later), ?_, ?_⟩
  · simp only [lines, String.toList_append]
    rw [linesOf_append ended apart, List.map_append, List.flatMap_append, String.ofList_append]
  · intro alike
    have tables : ∀ planned ∈ plannedAlike table (linesOf later.toList),
        ∀ each ∈ planned.2, each.Worded := by
      intro planned isPlanned each isTable
      obtain ⟨line, _, rfl⟩ := List.mem_map.mp isPlanned
      rcases List.mem_pair.mp isTable with rfl | rfl
      · exact whitespaceTable_worded
      · exact worded
    have down := (@runLines_down (isExecutable later.toList) formatter.customIgnore 1
      (linesOf text.toList).length _ tables).2
    have cut : plannedAlike table (linesOf (text.toList ++ later.toList)) =
        plannedAlike table (linesOf text.toList) ++ plannedAlike table (linesOf later.toList) := by
      rw [linesOf_append ended apart, plannedAlike, List.map_append]
      rfl
    have count : (plannedAlike table (linesOf text.toList)).length =
        (linesOf text.toList).length := List.length_map _
    simp only [String.toList_append, isExecutable_append_text ended apart, cut, runLines_append,
      List.map_append, count, alike]
    rw [map_spotAfter_violationOf path _ down]

/-- Formatting a script or a style sheet in parts, cut after the end of a line, gives the
same text; where both parts are executable scripts or neither is, it gives the same rules
in the same lines. -/
theorem format_append (language : Language) (customIgnore : Option Pattern)
    (linter : Option Linter) (path : Path) {text later : String}
    (lineWise : language = .css ∨ language = .javaScript ∧ linter = none)
    (ended : EndsLine text.toList) (apart : StaysApart text.toList later.toList) :
    let formatter : Formatter := { language, store, customIgnore, linter }
    ∃ first second whole : Formatted,
      (formatter.format path text).outcome = .ok first ∧
      (formatter.format path later).outcome = .ok second ∧
      (formatter.format path (text ++ later)).outcome = .ok whole ∧
      whole.updated = first.updated ++ second.updated ∧
      (isExecutable text.toList = isExecutable later.toList →
        whole.violations.map Violation.spot = first.violations.map Violation.spot ++
          second.violations.map (Violation.spotAfter (linesOf text.toList).length)) := by
  intro formatter
  rcases lineWise with rfl | ⟨rfl, rfl⟩
  · exact @format_alike_append formatter path _ _ _ (fun _ => rfl) (fun _ => rfl)
      ⟨whitespaceTable_provided, styleTable_provided⟩ styleTable_settlesLine styleTable_worded _ _
      ended apart
  · exact @format_alike_append formatter path _ _ _ (Formatter.lint_of_no_linter path rfl)
      (fun _ => rfl) ⟨whitespaceTable_provided, scriptTable_provided⟩ scriptTable_settlesLine
      scriptTable_worded _ _ ended apart

/-- A script in two parts, with something to change and to report in both. -/
theorem format_append_sampleScript :
    let formatter : Formatter := { language := .javaScript, store }
    let path : Path := ⟨.relative, ["a.js"]⟩
    let text := "if(a)\x7b \r\ndebugger\n"
    let later := "x ;\nconsole.log(1)"
    EndsLine text.toList ∧ StaysApart text.toList later.toList ∧
      ∃ first second whole : Formatted,
        (formatter.format path text).outcome = .ok first ∧
        (formatter.format path later).outcome = .ok second ∧
        (formatter.format path (text ++ later)).outcome = .ok whole ∧
        whole.updated = first.updated ++ second.updated ∧
        (isExecutable text.toList = isExecutable later.toList →
          whole.violations.map Violation.spot = first.violations.map Violation.spot ++
            second.violations.map (Violation.spotAfter (linesOf text.toList).length)) := by
  intro formatter path text later
  have ended : EndsLine text.toList := by decide
  have apart : StaysApart text.toList later.toList := by decide
  exact ⟨ended, apart, format_append .javaScript none none path (.inr ⟨rfl, rfl⟩) ended apart⟩

end Format

end LineRules
