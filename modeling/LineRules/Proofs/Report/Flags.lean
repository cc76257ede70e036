import LineRules.Proofs.Checker.Run
import LineRules.Report.Json
import Mathlib.Data.Bool.Count
import Mathlib.Data.List.Perm.Basic

/-!
# The marks of fixed violations

In a report as JSON each violation that was found is marked as fixed or as not fixed. The
marks account for the violations that remain exactly if each of those, by its rule, line
and message, is one that was found: `fixedFlags_account_iff`. A fix can move a violation to
another line, and then it is marked as fixed though it remains.
-/

namespace LineRules

open LineRules.Text LineRules.Format

namespace Report

variable {remaining : List JsonKey} {violations : List Violation} {report : Report}

theorem length_goneFlags (remaining : List JsonKey) (violations : List Violation) :
    (goneFlags remaining violations).length = violations.length := by
  induction violations generalizing remaining with
  | nil => rfl
  | cons violation violations hyp =>
      rw [goneFlags]
      split <;> simp [hyp]

/-- No more violations are marked as not gone than remain. -/
theorem count_false_goneFlags_le (remaining : List JsonKey) (violations : List Violation) :
    (goneFlags remaining violations).count false ≤ remaining.length := by
  induction violations generalizing remaining with
  | nil => simp [goneFlags]
  | cons violation violations hyp =>
      simp only [goneFlags]
      split
      case isTrue isLeft =>
        have left : jsonKey violation ∈ remaining := by simpa using isLeft
        have shorter := hyp (remaining.erase (jsonKey violation))
        have positive : 0 < remaining.length := List.length_pos_of_mem left
        rw [List.length_erase_of_mem left] at shorter
        rw [List.count_cons_self]
        omega
      case isFalse => simpa using hyp remaining

/-- As many violations are marked as not gone as remain, exactly if all that remain were
found. -/
theorem count_false_goneFlags_iff (remaining : List JsonKey) (violations : List Violation) :
    (goneFlags remaining violations).count false = remaining.length ↔
      remaining.Subperm (violations.map jsonKey) := by
  induction violations generalizing remaining with
  | nil => simp [goneFlags, eq_comm]
  | cons violation violations hyp =>
      simp only [goneFlags, List.map_cons]
      split
      case isTrue isLeft =>
        have left : jsonKey violation ∈ remaining := by simpa using isLeft
        have positive : 0 < remaining.length := List.length_pos_of_mem left
        rw [(List.perm_cons_erase left).subperm_right, List.subperm_cons, ← hyp,
          List.count_cons_self, List.length_erase_of_mem left]
        omega
      case isFalse notLeft =>
        have new : jsonKey violation ∉ remaining := by simpa using notLeft
        rw [List.count_cons_of_ne (by simp), hyp]
        refine ⟨List.Subperm.cons_right _, fun all => ?_⟩
        rw [List.subperm_ext_iff] at all ⊢
        intro key isLeft
        have other : jsonKey violation ≠ key := by
          rintro rfl
          exact new isLeft
        simpa [List.count_cons_of_ne other] using all key isLeft

/-- There is a mark for each violation. -/
theorem length_fixedFlags (report : Report) :
    (fixedFlags report).length = report.violations.length := by
  simp [fixedFlags, length_goneFlags]

theorem fixedFlags_of_written (written : report.written = true) :
    fixedFlags report = goneFlags (report.remaining.map jsonKey) report.violations := by
  simp [fixedFlags, written]

theorem count_false_fixedFlags_of_not_written (written : report.written = false) :
    (fixedFlags report).count false = report.violations.length := by
  simp [fixedFlags, written, length_goneFlags]

/-- Whether the marks of a report say how many violations are gone and how many remain. -/
def Accounts (report : Report) : Prop :=
  (fixedFlags report).count true = report.goneCount ∧
    (fixedFlags report).count false = report.remaining.length

/-- Where all violations remain if nothing was written, the marks account for them exactly
if those that remain were found. They never promise fewer fixes than there are. -/
theorem accounts_iff (kept : report.written = false → report.remaining = report.violations) :
    (report.Accounts ↔
        (report.remaining.map jsonKey).Subperm (report.violations.map jsonKey)) ∧
      report.goneCount ≤ (fixedFlags report).count true ∧
      (fixedFlags report).count false ≤ report.remaining.length := by
  have total := List.count_true_add_count_false (fixedFlags report)
  rw [length_fixedFlags] at total
  unfold Accounts goneCount
  cases written : report.written with
  | false =>
      rw [count_false_fixedFlags_of_not_written written] at total ⊢
      rw [kept written]
      exact ⟨⟨fun _ => .refl _, fun _ => ⟨by omega, rfl⟩⟩, by omega, by omega⟩
  | true =>
      have most := count_false_goneFlags_le (report.remaining.map jsonKey) report.violations
      have all := count_false_goneFlags_iff (report.remaining.map jsonKey) report.violations
      rw [← fixedFlags_of_written written, List.length_map] at most all
      rw [← all]
      exact ⟨⟨fun both => both.2, fun same => ⟨by omega, same⟩⟩, by omega, most⟩

end Report

/-- The marks of each report of a run account for its violations exactly if those that
remain were found, by their rules, lines and messages. They never promise fewer fixes than
there are. -/
theorem fixedFlags_account_iff {disk : Disk} {arguments : List String} {config : Config}
    {modules : Token.Modules} {grammar : Token.Grammar} {inlineEdit : Bool} {summary : Summary}
    (finished : (checkArguments disk arguments config modules grammar inlineEdit).2.outcome =
      .ok summary) :
    ∀ report ∈ summary.files,
      (report.Accounts ↔
        (report.remaining.map Report.jsonKey).Subperm (report.violations.map Report.jsonKey)) ∧
      report.goneCount ≤ (Report.fixedFlags report).count true ∧
      (Report.fixedFlags report).count false ≤ report.remaining.length := by
  intro report isReport
  obtain ⟨checker, paths, _, _, done⟩ := exists_of_checkArguments_eq finished
  obtain ⟨here, path, _, gives⟩ := Checker.exists_gives_of_report done isReport
  exact Report.accounts_iff (gives.remaining_of_not_written report rfl)

/-! ## Violations that move -/

/-- A disk with a script in which a blank line ends up in the ending of the line before. -/
def shiftedDisk : Disk where
  nodes := [(["a.js"], .file (Utf8.encode "x;\r  \ndebugger\n".toList))]

/-- A statement without a remedy, found in a line. -/
def statementIn (line : Int) (message : String) : Violation where
  ruleId := "js.debugger_statement"
  severity := .warn
  message := message
  location := some { path := some ⟨.relative, ["a.js"]⟩, line := some line }
  origin := .line

/-- What a run that writes fixes says about the script. -/
def shiftedReport : Report where
  path := ⟨.relative, ["a.js"]⟩
  violations :=
    [{ ruleId := "common.trailing_whitespace"
       severity := .warn
       message := "Line 2: Trailing whitespace"
       location := some { path := some ⟨.relative, ["a.js"]⟩, line := some 2 }
       origin := .line },
     statementIn 3 "Line 3: Unexpected debugger statement"]
  remaining := [statementIn 2 "Line 2: Unexpected debugger statement"]
  changed := true
  written := true

theorem checkArguments_shiftedDisk :
    (checkArguments shiftedDisk ["a.js"] {} [] .missing true).2.outcome =
      .ok ⟨[shiftedReport]⟩ := by
  decide +kernel

/-- The statement moves from the third line to the second one, and so the report does not
account for it. -/
theorem not_accounts_shiftedReport :
    ¬shiftedReport.Accounts ∧
      shiftedReport.goneCount ≤ (Report.fixedFlags shiftedReport).count true ∧
      (Report.fixedFlags shiftedReport).count false ≤ shiftedReport.remaining.length := by
  obtain ⟨accounts, bounds⟩ :=
    fixedFlags_account_iff checkArguments_shiftedDisk shiftedReport (by simp)
  exact ⟨accounts.not.mpr (by decide), bounds⟩

/-- It is marked as fixed, though it makes the run end with violations that remain. -/
theorem fixedFlags_shiftedDisk :
    (checkArguments shiftedDisk ["a.js"] {} [] .missing true).2.outcome = .ok ⟨[shiftedReport]⟩ ∧
      Report.fixedFlags shiftedReport = [true, true] ∧ shiftedReport.goneCount = 1 ∧
      shiftedReport.remaining.length = 1 ∧ (Summary.mk [shiftedReport]).leavesViolations = true :=
  ⟨checkArguments_shiftedDisk, by decide, by decide, by decide, by decide⟩

end LineRules
