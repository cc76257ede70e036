import LineRules.Proofs.Report.Flags
import LineRules.Report.Terminal
import Mathlib.Data.List.Count
import Mathlib.Data.List.Perm.Subperm

/-!
# The marks in both reports

The report for the terminal marks a violation as fixed if none like it remains; the report
as JSON uses the remaining violations up one by one. Whatever the terminal marks is marked in
JSON too, and both mark the same number exactly if no violation was found more often than it
remains and still has one like it among the remaining ones
(`checkedCount_eq_markedCount_iff`). A rule that is violated twice in a line and once
afterwards sets them apart (`checkedCount_ne_markedCount`).
-/

namespace LineRules.Report

/-! ## Counting marks -/

/-- Whether a line begins with the mark of a violation that is fixed. -/
def StyledText.isChecked (line : StyledText) : Bool :=
  line.spans.head? = some ⟨0, 4, .green⟩

/-- The number of violations that lines for the terminal mark as fixed. -/
def checkedCount (lines : List TerminalLine) : Nat :=
  lines.countP fun line => line.any StyledText.isChecked

/-- Whether the JSON of a violation marks it as fixed. -/
def isMarked (violation : Value) : Bool :=
  match (violation.table?).bind fun entries => Keyed.get? entries "fixed" with
  | some (.bool fixed) => fixed
  | _ => false

/-- The number of violations that the JSON of a file marks as fixed. -/
def markedCount (file : Value) : Nat :=
  match (file.table?).bind fun entries => Keyed.get? entries "violations" with
  | some (.list violations) => violations.countP isMarked
  | _ => 0

variable {report : Report}

theorem isChecked_violationLine (violation : Violation) (fixed : Bool) :
    (violationLine violation fixed).isChecked = fixed := by
  cases fixed with
  | true => simp [violationLine, StyledText.isChecked, StyledText.append, StyledText.ofString,
      isTerminalControl]
  | false =>
      cases severity : violation.severity <;>
        simp [violationLine, severityMark, severity, StyledText.isChecked, StyledText.append,
          StyledText.ofString, isTerminalControl]

theorem isChecked_ofString (text : String) (style : Style) :
    (StyledText.ofString text style).isChecked = false := rfl

theorem isChecked_title (shown : String) (style : Style) :
    ((StyledText.ofString shown style).append "  (fixed)" .green).isChecked = false := by
  simp [StyledText.isChecked, StyledText.append, StyledText.ofString, isTerminalControl]

theorem checkedCount_lines (lines : List StyledText) :
    checkedCount (lines.map some ++ [none]) = lines.countP StyledText.isChecked := by
  simp only [checkedCount, List.countP_append, List.countP_map, List.countP_singleton]
  rfl

/-- In the lines of a file, just the violations that are fixed carry the mark. -/
theorem checkedCount_fileLines (shown : String) (report : Report) :
    checkedCount (fileLines shown report) = report.violations.countP (isFixed report) := by
  have listed : ((report.violations.mergeSort listedBefore).map fun violation =>
      violationLine violation (isFixed report violation)).countP StyledText.isChecked =
      report.violations.countP (isFixed report) := by
    rw [List.countP_map, ← (List.mergeSort_perm report.violations listedBefore).countP_eq]
    simp only [Function.comp_def, isChecked_violationLine]
  rw [fileLines, checkedCount_lines, List.countP_append, List.countP_append, List.countP_cons,
    listed]
  -- the other lines of a file are plain texts, or the title with its own mark at its end
  cases report.error <;> cases report.violations.isEmpty <;> cases report.writeError <;>
    cases report.written <;> simp [isChecked_ofString, isChecked_title]

theorem isMarked_violationValue (violation : Violation) (fixed : Bool) :
    isMarked (violationValue violation fixed) = fixed := by
  simp [isMarked, violationValue, Value.table?, Keyed.get?]

theorem markedCount_fileValue (shown : String) (report : Report) :
    markedCount (fileValue shown report) = (fixedFlags report).count true := by
  have marks : (report.violations.zip (fixedFlags report)).map Prod.snd = fixedFlags report :=
    List.map_snd_zip (length_fixedFlags report).le
  simp only [markedCount, fileValue, Value.table?, Keyed.get?, Option.bind_some]
  conv_rhs => rw [← marks]
  simp [List.count, List.countP_map, Function.comp_def, isMarked_violationValue]

/-! ## Comparing marks -/

/-- What is left of the key of a violation in the report for the terminal. -/
def shownKey (key : JsonKey) : String × Int × String :=
  (key.1, key.2.1.getD 0, key.2.2)

theorem shownKey_jsonKey (violation : Violation) :
    shownKey (jsonKey violation) = terminalKey violation := rfl

/-- The violations that JSON marks as gone are the ones found without those that remain. -/
theorem count_true_goneFlags (remaining : List JsonKey) (violations : List Violation) :
    (goneFlags remaining violations).count true =
      ((violations.map jsonKey).diff remaining).length := by
  induction violations generalizing remaining with
  | nil => simp [goneFlags]
  | cons violation violations hyp =>
      rw [goneFlags, List.map_cons, List.cons_diff]
      by_cases left : jsonKey violation ∈ remaining
      · simp [left, hyp]
      · simp [left, hyp]

/-- The keys of the violations that the terminal marks as fixed, if fixes were written. -/
def unlikeRemaining (report : Report) : List JsonKey :=
  (report.violations.map jsonKey).filter fun key =>
    !(report.remaining.map terminalKey).contains (shownKey key)

theorem countP_isFixed (written : report.written = true) :
    report.violations.countP (isFixed report) = (unlikeRemaining report).length := by
  rw [unlikeRemaining, List.filter_map, List.length_map, ← List.countP_eq_length_filter]
  refine List.countP_congr fun violation _ => ?_
  rw [isFixed, written, Bool.true_and, Function.comp_apply, shownKey_jsonKey]

theorem count_unlikeRemaining (report : Report) (key : JsonKey) :
    (unlikeRemaining report).count key =
      if shownKey key ∈ report.remaining.map terminalKey then 0
      else (report.violations.map jsonKey).count key := by
  split
  case isTrue like =>
    refine List.count_eq_zero_of_not_mem fun isMember => ?_
    simp only [unlikeRemaining, List.mem_filter] at isMember
    simp [like] at isMember
  case isFalse unlike =>
    exact List.count_filter (by simpa using unlike)

/-- A violation unlike all remaining ones is not among them. -/
theorem count_remaining_of_unlike {key : JsonKey}
    (unlike : shownKey key ∉ report.remaining.map terminalKey) :
    (report.remaining.map jsonKey).count key = 0 := by
  refine List.count_eq_zero_of_not_mem fun isMember => unlike ?_
  obtain ⟨violation, isLeft, rfl⟩ := List.mem_map.mp isMember
  exact List.mem_map.mpr ⟨violation, isLeft, rfl⟩

/-- What the terminal marks, JSON marks too. -/
theorem unlikeRemaining_subperm (report : Report) :
    (unlikeRemaining report).Subperm
      ((report.violations.map jsonKey).diff (report.remaining.map jsonKey)) := by
  rw [List.subperm_ext_iff]
  intro key _
  rw [count_unlikeRemaining, List.count_diff]
  split
  case isTrue => omega
  case isFalse unlike =>
    rw [count_remaining_of_unlike unlike]
    omega

/-- Both mark the same violations, up to their order, if none was found more often than it
remains and still has one like it among the remaining ones. -/
theorem unlikeRemaining_perm_iff (report : Report) :
    (unlikeRemaining report).Perm
        ((report.violations.map jsonKey).diff (report.remaining.map jsonKey)) ↔
      ∀ violation ∈ report.violations,
        terminalKey violation ∈ report.remaining.map terminalKey →
        (report.violations.map jsonKey).count (jsonKey violation) ≤
          (report.remaining.map jsonKey).count (jsonKey violation) := by
  simp only [List.perm_iff_count, count_unlikeRemaining, List.count_diff]
  constructor
  · intro same violation _ like
    have here := same (jsonKey violation)
    rw [shownKey_jsonKey, if_pos like] at here
    omega
  · intro bounded key
    split
    case isFalse unlike =>
      rw [count_remaining_of_unlike unlike]
      omega
    case isTrue like =>
      by_cases isFound : key ∈ report.violations.map jsonKey
      · obtain ⟨violation, isViolation, rfl⟩ := List.mem_map.mp isFound
        have here := bounded violation isViolation like
        omega
      · rw [List.count_eq_zero_of_not_mem isFound]
        omega

/-- The report for the terminal never marks more violations as fixed than the one as JSON. It
marks as many exactly if no fixes were written, or no violation that has one like it among the
remaining ones, by rule, line and message, was found more often than it remains. -/
theorem checkedCount_eq_markedCount_iff (shown : String) (report : Report) :
    checkedCount (fileLines shown report) ≤ markedCount (fileValue shown report) ∧
      (checkedCount (fileLines shown report) = markedCount (fileValue shown report) ↔
        report.written = false ∨ ∀ violation ∈ report.violations,
          terminalKey violation ∈ report.remaining.map terminalKey →
          (report.violations.map jsonKey).count (jsonKey violation) ≤
            (report.remaining.map jsonKey).count (jsonKey violation)) := by
  rw [checkedCount_fileLines, markedCount_fileValue]
  cases written : report.written with
  | false =>
      have none : report.violations.countP (isFixed report) = 0 := by
        simp [List.countP_eq_zero, isFixed, written]
      have neither : (fixedFlags report).count true = 0 := by
        simp [fixedFlags, written, List.count_replicate]
      simp [none, neither]
  | true =>
      have among := unlikeRemaining_subperm report
      rw [countP_isFixed written, fixedFlags_of_written written, count_true_goneFlags,
        ← unlikeRemaining_perm_iff]
      refine ⟨among.length_le, ?_⟩
      constructor
      · intro same
        exact .inr (among.perm_of_length_le same.ge)
      · rintro (absurd | same)
        · contradiction
        · exact same.length_eq

/-- A report of a rule that was violated twice in a line, with one violation left. -/
def halvedReport : Report where
  path := ⟨.relative, ["a.js"]⟩
  violations := [statementIn 1 "Line 1: Twice", statementIn 1 "Line 1: Twice"]
  remaining := [statementIn 1 "Line 1: Twice"]
  changed := true
  written := true

/-- The terminal marks neither of the two violations, and JSON marks one of them. -/
theorem checkedCount_ne_markedCount :
    checkedCount (fileLines "a.js" halvedReport) = 0 ∧
      markedCount (fileValue "a.js" halvedReport) = 1 := by
  rw [checkedCount_fileLines, markedCount_fileValue]
  decide

end LineRules.Report
