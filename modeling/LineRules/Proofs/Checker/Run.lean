import LineRules.Proofs.Checker.Step
import Mathlib.Data.List.Forall2
import Mathlib.Data.List.ReduceOption

/-!
# The check of many files

Where paths lead to different places, each file is checked as if it were the only one: the
reports of a run are those of the files alone (`checkEach_outcome_iff`), and after the run
each file stands as its own check leaves it (`nodeAt_checkEach`). What no path leads to is
left as it was (`nodeAt_checkEach_of_ne`), whether or not a fault ends the run.
-/

namespace LineRules

open LineRules.Text LineRules.Format

namespace Disk

/-- Whether paths lead to different places, as far as they lead anywhere. -/
def Apart (disk : Disk) (paths : List Path) : Prop :=
  paths.Pairwise fun path other => ∀ place, disk.walk path = .ok place →
    disk.walk other ≠ .ok place

/-- Two disks with the same names and the same files where some paths lead. -/
structure AlikeFor (disk : Disk) (paths : List Path) (other : Disk) : Prop where
  sameNames : disk.SameNames other
  nodeAt : ∀ path ∈ paths, ∀ place, disk.walk path = .ok place →
    other.nodeAt place = disk.nodeAt place

variable {disk other : Disk} {paths : List Path} {path : Path}

instance (disk : Disk) (path other : Path) :
    Decidable (∀ place, disk.walk path = .ok place → disk.walk other ≠ .ok place) :=
  match disk.walk path with
  | .error _ => isTrue fun _ walked => nomatch walked
  | .ok place => decidable_of_iff (disk.walk other ≠ .ok place) (by simp)

instance (disk : Disk) (paths : List Path) : Decidable (disk.Apart paths) :=
  inferInstanceAs (Decidable (List.Pairwise _ paths))

theorem SameNames.apart (same : disk.SameNames other) : other.Apart paths ↔ disk.Apart paths := by
  simp only [Apart, same.walk]

theorem AlikeFor.refl (disk : Disk) (paths : List Path) : disk.AlikeFor paths disk :=
  ⟨.refl disk, fun _ _ _ _ => rfl⟩

end Disk

namespace Checker

variable {checker : Checker} {disk other : Disk} {path : Path} {paths : List Path}
  {place : List String} {inlineEdit : Bool}

theorem checkOne_snd_alike (alike : disk.AlikeFor [path] other) :
    (checker.checkOne other path inlineEdit).2 = (checker.checkOne disk path inlineEdit).2 := by
  have root : other.nodeAt [] = disk.nodeAt [] := rfl
  exact (checkOne_alike alike.sameNames (alike.nodeAt path (by simp)) root).2

theorem checkOne_nodeAt_alike (alike : disk.AlikeFor [path] other)
    (walked : disk.walk path = .ok place) :
    (checker.checkOne other path inlineEdit).1.nodeAt place =
      (checker.checkOne disk path inlineEdit).1.nodeAt place := by
  have here := alike.nodeAt path (by simp)
  exact (checkOne_alike alike.sameNames here (here place walked)).1

/-- The check of a file leaves the files of other paths as they were. -/
theorem alikeFor_checkOne (checker : Checker) (inlineEdit : Bool)
    (apart : disk.Apart (path :: paths))
    (alike : disk.AlikeFor (path :: paths) other) :
    disk.AlikeFor paths (checker.checkOne other path inlineEdit).1 := by
  refine ⟨alike.sameNames.trans (checker.sameNames_checkOne other path inlineEdit), ?_⟩
  intro later isLater place walked
  rw [nodeAt_checkOne_of_ne, alike.nodeAt later (by simp [isLater]) place walked]
  intro walkedHere
  rw [alike.sameNames.walk] at walkedHere
  exact (List.pairwise_cons.mp apart).1 later isLater place walkedHere walked

theorem goOn_fst (first : Disk × Noted (Option Report))
    (rest : Disk → Disk × Noted (List Report)) :
    (goOn first rest).1 = first.1 ∨ (goOn first rest).1 = (rest first.1).1 := by
  unfold goOn
  split
  · exact .inl rfl
  · exact .inr rfl

theorem goOn_ok {first : Disk × Noted (Option Report)} {report : Option Report}
    (done : first.2.outcome = .ok report) (rest : Disk → Disk × Noted (List Report)) :
    (goOn first rest).1 = (rest first.1).1 ∧
      (goOn first rest).2.outcome = (rest first.1).2.outcome.map (report.toList ++ ·) := by
  obtain ⟨disk, outcome, notices⟩ := first
  obtain rfl : outcome = .ok report := done
  exact ⟨rfl, rfl⟩

theorem goOn_ok_iff {first : Disk × Noted (Option Report)}
    {rest : Disk → Disk × Noted (List Report)} {reports : List Report} :
    (goOn first rest).2.outcome = .ok reports ↔ ∃ report others,
      first.2.outcome = .ok report ∧ (rest first.1).2.outcome = .ok others ∧
        reports = report.toList ++ others := by
  obtain ⟨disk, outcome, notices⟩ := first
  cases outcome with
  | error fault => simp [goOn]
  | ok report =>
      cases later : (rest disk).2.outcome with
      | error fault => simp [goOn, later, Except.map]
      | ok others => simp [goOn, later, Except.map, eq_comm]

/-- A run adds and removes no names. -/
theorem sameNames_checkEach (checker : Checker) (disk : Disk) (inlineEdit : Bool)
    (paths : List Path) : disk.SameNames (checker.checkEach disk inlineEdit paths).1 := by
  induction paths generalizing disk with
  | nil => exact .refl disk
  | cons path paths hyp =>
      have first := checker.sameNames_checkOne disk path inlineEdit
      rw [checkEach]
      rcases goOn_fst (checker.checkOne disk path inlineEdit) _ with here | further
      · rw [here]
        exact first
      · rw [further]
        exact first.trans (hyp _)

/-- A run changes nothing where none of its paths leads. -/
theorem nodeAt_checkEach_of_ne (away : ∀ path ∈ paths, disk.walk path ≠ .ok place) :
    (checker.checkEach disk inlineEdit paths).1.nodeAt place = disk.nodeAt place := by
  induction paths generalizing disk with
  | nil => rfl
  | cons path paths hyp =>
      have first : (checker.checkOne disk path inlineEdit).1.nodeAt place = disk.nodeAt place :=
        nodeAt_checkOne_of_ne (away path (by simp))
      rw [checkEach]
      rcases goOn_fst (checker.checkOne disk path inlineEdit) _ with here | further
      · rw [here]
        exact first
      · rw [further, hyp, first]
        intro later isLater
        rw [(checker.sameNames_checkOne disk path inlineEdit).walk]
        exact away later (by simp [isLater])

/-- What the check of a file gives if it is the only one. -/
structure Gives (checker : Checker) (disk : Disk) (inlineEdit : Bool) (path : Path)
    (report : Option Report) : Prop where
  outcome : (checker.checkOne disk path inlineEdit).2.outcome = .ok report

theorem gives_iff {report : Option Report} : checker.Gives disk inlineEdit path report ↔
    (checker.checkOne disk path inlineEdit).2.outcome = .ok report :=
  ⟨Gives.outcome, .mk⟩

/-- Where nothing was written all violations remain. -/
theorem Gives.remaining_of_not_written {report : Option Report}
    (gives : checker.Gives disk inlineEdit path report) :
    ∀ told ∈ report, told.written = false → told.remaining = told.violations := by
  have ends := checker.checkOne_ends disk path inlineEdit
  rw [gives.outcome] at ends
  generalize (checker.checkOne disk path inlineEdit).1 = later at ends
  generalize ended : (Except.ok report : Except Fault (Option Report)) = outcome at ends
  cases ends with
  | @written _ formatter _ result =>
      cases passed : (formatter.format path result.updated).outcome with
      | error fault => simp [passed, Except.map] at ended
      | ok again =>
          obtain rfl : report = some (writtenReport path result again) := by
            simpa [passed, Except.map] using ended
          simp [writtenReport]
  | lost | stopped => contradiction
  | _ =>
      obtain rfl := Except.ok.inj ended
      simp [reportOf]

theorem gives_alike (alike : disk.AlikeFor [path] other) {report : Option Report} :
    checker.Gives other inlineEdit path report ↔ checker.Gives disk inlineEdit path report := by
  rw [gives_iff, gives_iff, checkOne_snd_alike alike]

theorem exists_gives_of_mem {found : List (Option Report)}
    (all : List.Forall₂ (checker.Gives disk inlineEdit) paths found) (isPath : path ∈ paths) :
    ∃ report ∈ found, checker.Gives disk inlineEdit path report := by
  induction all with
  | nil => simp at isPath
  | cons gives _ hyp =>
      rcases List.mem_cons.mp isPath with rfl | isLater
      · exact ⟨_, by simp, gives⟩
      · obtain ⟨report, isFound, givesLater⟩ := hyp isLater
        exact ⟨report, by simp [isFound], givesLater⟩

theorem checkEach_outcome_iff_of_alike (apart : disk.Apart paths)
    (alike : disk.AlikeFor paths other) {reports : List Report} :
    (checker.checkEach other inlineEdit paths).2.outcome = .ok reports ↔
      ∃ found, List.Forall₂ (checker.Gives disk inlineEdit) paths found ∧
        reports = found.reduceOption := by
  induction paths generalizing other reports with
  | nil => simp [checkEach, eq_comm]
  | cons path paths hyp =>
      have rest := @hyp _ (List.pairwise_cons.mp apart).2
        (alikeFor_checkOne checker inlineEdit apart alike)
      have here : disk.AlikeFor [path] other :=
        ⟨alike.sameNames, fun named isNamed => alike.nodeAt named (by simp_all)⟩
      simp only [checkEach, goOn_ok_iff, checkOne_snd_alike here, rest, List.forall₂_cons_left_iff,
        gives_iff]
      constructor
      · rintro ⟨report, _, gives, ⟨found, all, rfl⟩, rfl⟩
        exact ⟨_, ⟨report, found, gives, all, rfl⟩, by cases report <;> simp⟩
      · rintro ⟨_, ⟨report, found, gives, all, rfl⟩, rfl⟩
        exact ⟨report, _, gives, ⟨found, all, rfl⟩, by cases report <;> simp⟩

/-- The reports of a run are those of its files, each of them checked alone. -/
theorem checkEach_outcome_iff (apart : disk.Apart paths) {reports : List Report} :
    (checker.checkEach disk inlineEdit paths).2.outcome = .ok reports ↔
      ∃ found, List.Forall₂ (checker.Gives disk inlineEdit) paths found ∧
        reports = found.reduceOption :=
  checkEach_outcome_iff_of_alike apart (.refl disk paths)

/-- Each report of a run is what the check of a file gave on some disk on the way. -/
theorem exists_gives_of_report {reports : List Report} {report : Report}
    (done : (checker.checkEach disk inlineEdit paths).2.outcome = .ok reports)
    (isReport : report ∈ reports) :
    ∃ here, ∃ path ∈ paths, checker.Gives here inlineEdit path (some report) := by
  induction paths generalizing disk reports with
  | nil =>
      obtain rfl : [] = reports := Except.ok.inj done
      simp at isReport
  | cons path paths hyp =>
      rw [checkEach, goOn_ok_iff] at done
      obtain ⟨first, others, given, rest, rfl⟩ := done
      rcases List.mem_append.mp isReport with isFirst | isOther
      · obtain rfl : first = some report := by simpa using isFirst
        exact ⟨disk, path, by simp, ⟨given⟩⟩
      · obtain ⟨here, later, isLater, gives⟩ := hyp rest isOther
        exact ⟨here, later, by simp [isLater], gives⟩

theorem nodeAt_checkEach_of_alike (apart : disk.Apart paths) (alike : disk.AlikeFor paths other)
    (gives : ∀ path ∈ paths, ∃ report, checker.Gives disk inlineEdit path report)
    (isPath : path ∈ paths) (walked : disk.walk path = .ok place) :
    (checker.checkEach other inlineEdit paths).1.nodeAt place =
      (checker.checkOne disk path inlineEdit).1.nodeAt place := by
  induction paths generalizing other with
  | nil => simp at isPath
  | cons head paths hyp =>
      obtain ⟨away, apartRest⟩ := List.pairwise_cons.mp apart
      obtain ⟨report, headGives⟩ := gives head (by simp)
      have here : disk.AlikeFor [head] other :=
        ⟨alike.sameNames, fun named isNamed => alike.nodeAt named (by simp_all)⟩
      rw [checkEach, (goOn_ok ((gives_alike here).mpr headGives).outcome _).1]
      rcases List.mem_cons.mp isPath with rfl | isLater
      · -- The files after it lie elsewhere.
        rw [nodeAt_checkEach_of_ne, checkOne_nodeAt_alike here walked]
        intro later isLater
        rw [(checker.sameNames_checkOne other path inlineEdit).walk, alike.sameNames.walk]
        exact away later isLater place walked
      · exact hyp apartRest (alikeFor_checkOne checker inlineEdit apart alike)
          (fun later isLater => gives later (by simp [isLater])) isLater

/-- After a run that is not stopped each file stands as its own check leaves it. -/
theorem nodeAt_checkEach (apart : disk.Apart paths) {reports : List Report}
    (done : (checker.checkEach disk inlineEdit paths).2.outcome = .ok reports)
    (isPath : path ∈ paths) (walked : disk.walk path = .ok place) :
    (checker.checkEach disk inlineEdit paths).1.nodeAt place =
      (checker.checkOne disk path inlineEdit).1.nodeAt place := by
  obtain ⟨found, all, _⟩ := (checkEach_outcome_iff apart).mp done
  refine nodeAt_checkEach_of_alike apart (.refl disk paths) ?_ isPath walked
  intro given isGiven
  obtain ⟨report, _, gives⟩ := exists_gives_of_mem all isGiven
  exact ⟨report, gives⟩

end Checker

/-! ## The whole run -/

section Arguments

variable {disk : Disk} {arguments : List String} {config : Config} {modules : Token.Modules}
  {grammar : Token.Grammar} {inlineEdit : Bool}

theorem checkArguments_of_selected {checker : Checker} {paths : List Path}
    (built : (Checker.build config modules grammar).outcome = .ok checker)
    (selected : disk.selectPaths arguments = .ok paths) :
    (checkArguments disk arguments config modules grammar inlineEdit).1 =
        (checker.checkEach disk inlineEdit paths).1 ∧
      (checkArguments disk arguments config modules grammar inlineEdit).2.outcome =
        (checker.checkEach disk inlineEdit paths).2.outcome.map Summary.mk := by
  rw [checkArguments]
  simp only [built, selected, and_self]

theorem checkArguments_of_not_built {fault : Fault}
    (notBuilt : (Checker.build config modules grammar).outcome = .error fault) :
    (checkArguments disk arguments config modules grammar inlineEdit).1 = disk ∧
      (checkArguments disk arguments config modules grammar inlineEdit).2.outcome =
        .error fault := by
  rw [checkArguments]
  simp only [notBuilt, and_self]

theorem checkArguments_of_not_selected {checker : Checker} {fault : Fault}
    (built : (Checker.build config modules grammar).outcome = .ok checker)
    (notSelected : disk.selectPaths arguments = .error fault) :
    (checkArguments disk arguments config modules grammar inlineEdit).1 = disk ∧
      (checkArguments disk arguments config modules grammar inlineEdit).2.outcome =
        .error fault := by
  rw [checkArguments]
  simp only [built, notSelected, and_self]

/-- A run that comes to an end has a check and paths. -/
theorem exists_of_checkArguments_eq {summary : Summary}
    (finished : (checkArguments disk arguments config modules grammar inlineEdit).2.outcome =
      .ok summary) :
    ∃ checker paths, (Checker.build config modules grammar).outcome = .ok checker ∧
      disk.selectPaths arguments = .ok paths ∧
      (checker.checkEach disk inlineEdit paths).2.outcome = .ok summary.files := by
  cases built : (Checker.build config modules grammar).outcome with
  | error fault => simp [(checkArguments_of_not_built built).2] at finished
  | ok checker =>
      cases selected : disk.selectPaths arguments with
      | error fault => simp [(checkArguments_of_not_selected built selected).2] at finished
      | ok paths =>
          rw [(checkArguments_of_selected built selected).2] at finished
          cases ran : (checker.checkEach disk inlineEdit paths).2.outcome with
          | error fault => simp [ran, Except.map] at finished
          | ok reports =>
              obtain rfl : Summary.mk reports = summary := by simpa [ran, Except.map] using finished
              exact ⟨checker, paths, rfl, rfl, ran⟩

end Arguments

/-! ## An example -/

/-- A disk with two files to fix. -/
def sampleDisk : Disk where
  nodes := [(["a.js"], .file (Utf8.encode "debugger; \r\n".toList)),
    (["b.css"], .file (Utf8.encode "color:#fff;\n".toList))]

/-- A violation in the first line of a file of the example. -/
def sampleViolation (name ruleId message : String) : Violation where
  ruleId := ruleId
  severity := .warn
  message := "Line 1: " ++ message
  location := some { path := some ⟨.relative, [name]⟩, line := some 1 }
  origin := .line

/-- What a run that writes fixes says about the example. -/
def sampleSummary : Summary where
  files :=
    [{ path := ⟨.relative, ["a.js"]⟩
       violations := [sampleViolation "a.js" "common.trailing_whitespace" "Trailing whitespace",
         sampleViolation "a.js" "js.debugger_statement" "Unexpected debugger statement"]
       remaining := [sampleViolation "a.js" "js.debugger_statement" "Unexpected debugger statement"]
       changed := true
       written := true },
     { path := ⟨.relative, ["b.css"]⟩
       violations :=
         [sampleViolation "b.css" "css.hex_uppercase" "Hex codes should be all uppercase",
           sampleViolation "b.css" "css.property_colon_spacing"
             "Missing space after property colon"]
       changed := true
       written := true }]

theorem selectPaths_sampleDisk : sampleDisk.selectPaths ["a.js", "b.css"] =
    .ok [⟨.relative, ["a.js"]⟩, ⟨.relative, ["b.css"]⟩] := by
  decide

theorem checkArguments_sampleDisk :
    (checkArguments sampleDisk ["a.js", "b.css"] {} [] .missing true).2.outcome =
      .ok sampleSummary := by
  decide +kernel

theorem apart_sampleDisk : ∀ paths, sampleDisk.selectPaths ["a.js", "b.css"] = .ok paths →
    sampleDisk.Apart paths := by
  intro paths selected
  obtain rfl := Except.ok.inj (selectPaths_sampleDisk.symm.trans selected)
  decide

end LineRules
