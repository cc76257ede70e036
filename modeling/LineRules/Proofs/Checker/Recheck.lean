import LineRules.Proofs.Checker.Run

/-!
# Checking again after fixes were written

The violations that a run reports as remaining after it has written its fixes are those
that the next run finds: `recheck_finds_remaining`. The next run reads back the very text
that the second pass of the first one was run on, and no other file gets in the way.
-/

namespace LineRules

open LineRules.Text LineRules.Format

/-- The report of a file that is checked again says what remained of the first one. -/
structure Report.Rechecks (first second : Report) : Prop where
  path : second.path = first.path
  violations : second.violations = first.remaining
  remaining : second.remaining = first.remaining
  error : second.error = first.error

theorem leftCount_of_rechecks {first second : List Report}
    (rechecks : List.Forall₂ Report.Rechecks first second) :
    (Summary.mk second).leftCount = (Summary.mk first).leftCount := by
  induction rechecks with
  | nil => rfl
  | cons here _ hyp =>
      simp only [Summary.leftCount, List.foldr_cons, here.remaining] at hyp ⊢
      rw [hyp]

namespace Checker

variable {checker : Checker} {disk : Disk} {path : Path} {paths : List Path}
  {formatter : Formatter} {text : String} {result : Formatted}

/-- A file that is only read is reported as it is formatted. -/
theorem gives_of_read (supported : checker.formatter? path = some formatter)
    (isRead : disk.readText path = .ok (.ok text))
    (formatted : (formatter.format path text).outcome = .ok result) :
    checker.Gives disk false path (some (reportOf path result)) := by
  constructor
  simp [checkOne, checkText, supported, isRead, formatted, Except.map]

/-- The next check of a file finds what remained after its fixes were written. -/
theorem exists_gives_again {report : Option Report} (gives : checker.Gives disk true path report)
    (noError : ∀ told ∈ report, told.writeError = none) :
    ∃ again, checker.Gives (checker.checkOne disk path true).1 false path again ∧
      Option.Rel Report.Rechecks report again := by
  have ends := checker.checkOne_ends disk path true
  rw [gives.outcome] at ends
  generalize (checker.checkOne disk path true).1 = later at ends ⊢
  generalize ended : (Except.ok report : Except Fault (Option Report)) = outcome at ends
  cases ends with
  | unsupported noFormatter =>
      obtain rfl : report = none := by simpa using ended
      exact ⟨none, ⟨by simp [checkOne, noFormatter]⟩, .none⟩
  | skipped supported notRead silent =>
      obtain rfl : report = none := by simpa using ended
      exact ⟨none, ⟨by simp [checkOne, supported, notRead, silent]⟩, .none⟩
  | @unread formatter error message supported notRead told =>
      obtain rfl : report = some { path, error := some message } := by simpa using ended
      refine ⟨_, ⟨?_⟩, .some ⟨rfl, rfl, rfl, rfl⟩⟩
      simp [checkOne, supported, notRead, told]
  | @kept formatter text result supported isRead formatted =>
      obtain rfl : report = some (reportOf path result) := by simpa using ended
      exact ⟨_, gives_of_read supported isRead formatted, .some ⟨rfl, rfl, rfl, rfl⟩⟩
  | @refused place formatter text result error =>
      obtain rfl : report = some (reportOf path result (some error.message)) := by simpa using ended
      simp [reportOf] at noError
  | @written place formatter text result rewrites =>
      cases passed : (formatter.format path result.updated).outcome with
      | error fault => simp [passed, Except.map] at ended
      | ok again =>
          obtain rfl : report = some (writtenReport path result again) := by
            simpa [passed, Except.map] using ended
          obtain ⟨same, stands⟩ := rewrites.put (Utf8.encode result.updated.toList)
          have isRead := Disk.readText_of_file ((same.walk path).trans rewrites.walked)
            (by rw [stands, if_pos rfl])
          exact ⟨_, gives_of_read rewrites.supported isRead passed, .some ⟨rfl, rfl, rfl, rfl⟩⟩
  | lost | stopped => contradiction

/-- The next run gives for each file what the next check of it alone gives. -/
theorem exists_checkEach_again (apart : disk.Apart paths) {first : List Report}
    (done : (checker.checkEach disk true paths).2.outcome = .ok first)
    (noError : ∀ report ∈ first, report.writeError = none) :
    ∃ second, (checker.checkEach (checker.checkEach disk true paths).1 false paths).2.outcome =
        .ok second ∧
      List.Forall₂ Report.Rechecks first second := by
  have same := checker.sameNames_checkEach disk true paths
  have stands := fun path isPath place walked =>
    @nodeAt_checkEach checker disk path paths place true apart first done isPath walked
  obtain ⟨found, all, rfl⟩ := (checkEach_outcome_iff apart).mp done
  generalize (checker.checkEach disk true paths).1 = later at same stands ⊢
  have again : ∃ others, List.Forall₂ (checker.Gives later false) paths others ∧
      List.Forall₂ (Option.Rel Report.Rechecks) found others := by
    clear apart done
    induction all with
    | nil => exact ⟨[], .nil, .nil⟩
    | @cons path report paths found gives _ hyp =>
        obtain ⟨others, givesOthers, rechecksOthers⟩ := hyp
          (fun told isTold => noError told (by cases report <;> simp_all))
          (fun path isPath => stands path (by simp [isPath]))
        obtain ⟨other, givesOther, rechecks⟩ := exists_gives_again gives fun told isTold =>
          noError told (by simp_all)
        have kept := checker.sameNames_checkOne disk path true
        have alike : (checker.checkOne disk path true).1.AlikeFor [path] later := by
          refine ⟨kept.symm.trans same, ?_⟩
          rintro named isNamed place walked
          obtain rfl : named = path := by simpa using isNamed
          exact stands named (by simp) place (by rw [← kept.walk, walked])
        exact ⟨other :: others, .cons ((gives_alike alike).mpr givesOther) givesOthers,
          .cons rechecks rechecksOthers⟩
  obtain ⟨others, givesOthers, rechecks⟩ := again
  refine ⟨others.reduceOption, (checkEach_outcome_iff (same.apart.mpr apart)).mpr
    ⟨others, givesOthers, rfl⟩, ?_⟩
  exact List.rel_filterMap (fun _ _ rel => rel) rechecks

end Checker

/-- What remains after fixes were written is what the next run finds, file by file, if the
paths lead to different files and all fixes could be written. -/
theorem recheck_finds_remaining (disk : Disk) (arguments : List String) (config : Config)
    (modules : Token.Modules) (grammar : Token.Grammar)
    (apart : ∀ paths, disk.selectPaths arguments = .ok paths → disk.Apart paths)
    {first : Summary}
    (finished : (checkArguments disk arguments config modules grammar true).2.outcome = .ok first)
    (noError : ∀ report ∈ first.files, report.writeError = none) :
    let later := (checkArguments disk arguments config modules grammar true).1
    ∃ second : Summary,
      (checkArguments later arguments config modules grammar false).2.outcome = .ok second ∧
      List.Forall₂ Report.Rechecks first.files second.files ∧
      second.leavesViolations = first.leavesViolations := by
  obtain ⟨checker, paths, built, selected, done⟩ := exists_of_checkArguments_eq finished
  obtain ⟨second, doneAgain, rechecks⟩ :=
    Checker.exists_checkEach_again (apart paths selected) done noError
  intro later
  have isLater : later = (checker.checkEach disk true paths).1 :=
    (checkArguments_of_selected built selected).1
  have selectedAgain : later.selectPaths arguments = .ok paths := by
    rw [isLater, (checker.sameNames_checkEach disk true paths).selectPaths, selected]
  refine ⟨⟨second⟩, ?_, rechecks, ?_⟩
  · rw [(checkArguments_of_selected built selectedAgain).2, isLater, doneAgain]
    rfl
  · rw [Summary.leavesViolations, Summary.leavesViolations, leftCount_of_rechecks rechecks]

/-- On the example the next run finds the statement that has no remedy, and nothing else. -/
theorem recheck_sampleDisk :
    let later := (checkArguments sampleDisk ["a.js", "b.css"] {} [] .missing true).1
    ∃ second : Summary,
      (checkArguments later ["a.js", "b.css"] {} [] .missing false).2.outcome = .ok second ∧
      List.Forall₂ Report.Rechecks sampleSummary.files second.files ∧
      second.leavesViolations = true :=
  recheck_finds_remaining sampleDisk ["a.js", "b.css"] {} [] .missing apart_sampleDisk
    checkArguments_sampleDisk (by decide)

end LineRules
