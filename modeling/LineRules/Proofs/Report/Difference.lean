import LineRules.Proofs.Report.Marks

/-!
# The marks of each key

The report as JSON compares violations by their keys: rule, line and message. Among the
violations of a key, the first ones are marked as not fixed, as many as remain of it
(`marksOf_goneFlags`). So what is marked as fixed is what was found without what remains, up to
order (`fileValue_difference`).
-/

namespace LineRules.Report

variable {violations : List Violation} {marks : List Bool} {report : Report}

/-- The violations that the JSON of a file lists. -/
def listedIn (file : Value) : List Value :=
  match (file.table?).bind fun entries => Keyed.get? entries "violations" with
  | some (.list listed) => listed
  | _ => []

/-- The marks of the violations of a key, in their order. -/
def marksOf (key : JsonKey) (violations : List Violation) (marks : List Bool) : List Bool :=
  ((violations.zip marks).filter fun entry => jsonKey entry.1 = key).map Prod.snd

/-- The keys of the violations that are marked as fixed. -/
def fixedKeys (report : Report) : List JsonKey :=
  ((report.violations.zip (fixedFlags report)).filter Prod.snd).map fun entry => jsonKey entry.1

/-- A violation is listed with its mark. -/
theorem listedIn_fileValue (shown : String) (report : Report) :
    listedIn (fileValue shown report) =
      List.zipWith violationValue report.violations (fixedFlags report) := by
  simp only [listedIn, fileValue, Value.table?, Keyed.get?, Option.bind_some]
  exact List.map_zip_eq_zipWith

theorem marksOf_cons (key : JsonKey) (violation : Violation) (mark : Bool) :
    marksOf key (violation :: violations) (mark :: marks) =
      if jsonKey violation = key then mark :: marksOf key violations marks
      else marksOf key violations marks := by
  by_cases same : jsonKey violation = key <;> simp [marksOf, same]

/-- Of the violations of a key, those that remain are taken to be the first ones. -/
theorem marksOf_goneFlags (remaining : List JsonKey) (violations : List Violation)
    (key : JsonKey) : marksOf key violations (goneFlags remaining violations) =
      List.replicate (min ((violations.map jsonKey).count key) (remaining.count key)) false ++
        List.replicate ((violations.map jsonKey).count key - remaining.count key) true := by
  induction violations generalizing remaining with
  | nil => simp [marksOf, goneFlags]
  | cons violation violations hyp =>
      rw [goneFlags, List.map_cons]
      by_cases left : jsonKey violation ∈ remaining
      · rw [if_pos (List.contains_iff_mem.mpr left), marksOf_cons, hyp]
        by_cases same : jsonKey violation = key
        · -- one of the remaining violations of the key is used up
          subst same
          have positive := List.count_pos_iff.mpr left
          obtain ⟨fewer, isLeft⟩ : ∃ fewer, remaining.count (jsonKey violation) = fewer + 1 :=
            ⟨_, (Nat.sub_add_cancel positive).symm⟩
          rw [if_pos rfl, List.count_erase_self, List.count_cons_self, isLeft,
            Nat.add_sub_cancel, Nat.add_min_add_right, Nat.add_sub_add_right,
            List.replicate_succ, List.cons_append]
        · rw [if_neg same, List.count_erase_of_ne (Ne.symm same), List.count_cons_of_ne same]
      · rw [if_neg (by simpa using left), marksOf_cons, hyp]
        by_cases same : jsonKey violation = key
        · subst same
          rw [if_pos rfl, List.count_eq_zero_of_not_mem left]
          simp [List.replicate_succ]
        · rw [if_neg same, List.count_cons_of_ne same]

theorem count_fixedKeys (report : Report) (key : JsonKey) :
    (fixedKeys report).count key =
      (marksOf key report.violations (fixedFlags report)).count true := by
  rw [fixedKeys, marksOf, List.count, List.countP_map, List.countP_filter, List.count,
    List.countP_map, List.countP_filter]
  refine List.countP_congr fun entry _ => ?_
  simp [and_comm]

/-- Where fixes were written, what is marked as fixed is what was found without what remains. -/
theorem fixedKeys_perm (written : report.written = true) : (fixedKeys report).Perm
    ((report.violations.map jsonKey).diff (report.remaining.map jsonKey)) := by
  rw [List.perm_iff_count]
  intro key
  rw [count_fixedKeys, fixedFlags_of_written written, marksOf_goneFlags, List.count_diff]
  simp [List.count_replicate]

theorem markedCount_of_not_written (shown : String) (written : report.written = false) :
    markedCount (fileValue shown report) = 0 := by
  rw [markedCount_fileValue]
  have total := List.count_true_add_count_false (fixedFlags report)
  rw [length_fixedFlags, count_false_fixedFlags_of_not_written written] at total
  omega

/-- As many violations are marked as fixed as the report counts as gone, if those that remain were
found. -/
theorem markedCount_eq_goneCount (shown : String)
    (kept : report.written = false → report.remaining = report.violations)
    (among : (report.remaining.map jsonKey).Subperm (report.violations.map jsonKey)) :
    markedCount (fileValue shown report) = report.goneCount := by
  rw [markedCount_fileValue]
  exact ((accounts_iff kept).1.mpr among).1

/-- **Fixed violations.** The JSON of a file lists its violations in order. Where fixes were
written, the violations of each rule, line and message that are marked as not fixed are the first
ones, as many as remain but no more than there are, and all others are marked as fixed. So those
marked as fixed are, up to order, the violations found without those that remain, and if all that
remain were found, there are as many as the report counts as gone. Where nothing was written,
nothing is marked as fixed, and where all violations still remain, nothing counts as gone. -/
theorem fileValue_difference (shown : String) (report : Report) :
    listedIn (fileValue shown report) =
        List.zipWith violationValue report.violations (fixedFlags report) ∧
      (fixedFlags report).length = report.violations.length ∧
      (report.written = true →
        (∀ key, marksOf key report.violations (fixedFlags report) =
          List.replicate (min ((report.violations.map jsonKey).count key)
            ((report.remaining.map jsonKey).count key)) false ++
          List.replicate ((report.violations.map jsonKey).count key -
            (report.remaining.map jsonKey).count key) true) ∧
        (fixedKeys report).Perm
          ((report.violations.map jsonKey).diff (report.remaining.map jsonKey)) ∧
        ((report.remaining.map jsonKey).Subperm (report.violations.map jsonKey) →
          markedCount (fileValue shown report) = report.goneCount)) ∧
      (report.written = false → markedCount (fileValue shown report) = 0 ∧
        (report.remaining = report.violations →
          markedCount (fileValue shown report) = report.goneCount)) := by
  refine ⟨listedIn_fileValue shown report, length_fixedFlags report, fun written => ?written,
    fun written => ⟨markedCount_of_not_written shown written, fun kept => ?kept⟩⟩
  case written =>
    refine ⟨fun key => ?ofKey, fixedKeys_perm written, ?total⟩
    case ofKey => rw [fixedFlags_of_written written, marksOf_goneFlags]
    case total =>
      refine markedCount_eq_goneCount shown fun notWritten => ?_
      simp [written] at notWritten
  case kept => exact markedCount_eq_goneCount shown (fun _ => kept) (by rw [kept])

/-- Of two violations alike of which one remains, the second one is marked as fixed. -/
theorem fileValue_difference_halvedReport :
    halvedReport.written = true ∧
      (halvedReport.remaining.map jsonKey).Subperm (halvedReport.violations.map jsonKey) ∧
      marksOf ("js.debugger_statement", some 1, "Line 1: Twice") halvedReport.violations
        (fixedFlags halvedReport) = [false, true] ∧
      markedCount (fileValue "a.js" halvedReport) = 1 := by
  have written : halvedReport.written = true := rfl
  have among : (halvedReport.remaining.map jsonKey).Subperm
      (halvedReport.violations.map jsonKey) := by decide
  obtain ⟨_, _, whenWritten, _⟩ := fileValue_difference "a.js" halvedReport
  obtain ⟨ofKey, _, total⟩ := whenWritten written
  exact ⟨written, among, ofKey _, total among⟩

end LineRules.Report
