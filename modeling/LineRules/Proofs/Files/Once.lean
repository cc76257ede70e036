import LineRules.Proofs.Checker.Run
import LineRules.Proofs.Files.Selection

/-!
# Every path once

The paths that arguments stand for are those of one argument after the other (`StandsFor`), each
path where it comes first. Further arguments add the paths that are new (`selectPaths_append`), and
a run reports on no path twice (`sublist_checkEach`). The main statement is `selectPaths_once`.
-/

namespace LineRules

open LineRules.Glob

/-! ## First occurrences -/

/-- Paths that are added one by one unless they are known come last, each where it comes first. -/
theorem foldl_unless_known (paths seen : List Path) :
    paths.foldl (fun seen path => if seen.contains path then seen else seen ++ [path]) seen =
      seen ++ (paths.filter (· ∉ seen)).eraseDups := by
  induction paths generalizing seen with
  | nil => simp
  | cons path paths hyp =>
      rw [List.foldl_cons, hyp]
      by_cases known : path ∈ seen
      · simp [known]
      · have later : (paths.filter (· ∉ seen)).filter (fun other => !other == path) =
            paths.filter (· ∉ seen ++ [path]) := by
          rw [List.filter_filter]
          refine List.filter_congr fun other _ => ?_
          by_cases same : other = path <;> simp [same]
        rw [if_neg (by simpa using known), List.filter_cons_of_pos (by simpa using known),
          List.eraseDups_cons, later, List.append_assoc, List.singleton_append]

theorem foldl_unless_known_nil (paths : List Path) :
    paths.foldl (fun seen path => if seen.contains path then seen else seen ++ [path]) [] =
      paths.eraseDups := by
  rw [foldl_unless_known]
  simp

/-- What is left out does not matter for the first occurrences of the rest. -/
theorem eraseDups_filter (wanted : Path → Bool) (paths : List Path) :
    (paths.filter wanted).eraseDups = paths.eraseDups.filter wanted := by
  match paths with
  | [] => rfl
  | path :: paths =>
      have hyp := eraseDups_filter wanted (paths.filter fun other => !other == path)
      rw [List.eraseDups_cons, List.filter_cons, List.filter_cons, ← hyp]
      split
      case isTrue =>
        rw [List.eraseDups_cons, List.filter_filter, List.filter_filter]
        simp only [Bool.and_comm]
      case isFalse unwanted =>
        rw [List.filter_filter]
        refine congrArg List.eraseDups (List.filter_congr fun other _ => ?_)
        by_cases same : other = path
        · simp [same, unwanted]
        · simp [same]
termination_by paths.length
decreasing_by exact Nat.lt_succ_of_le (List.length_filter_le _ _)

/-! ## What arguments stand for -/

namespace Glob

/-- Whether an argument cannot even be looked up: it is a pattern with a null character in the
directory before its first special part. -/
def IsRefused (argument : String) : Prop :=
  isPattern argument.toList = true ∧ '\x00' ∈ (cutPattern argument.toList).1

end Glob

namespace Disk

/-- The paths that an argument stands for: its matches in order if it is a pattern and has any,
and else the path that it spells. -/
inductive StandsFor (disk : Disk) (argument : String) : List Path → Prop
  | pattern {found : List String} (special : isPattern argument.toList = true)
    (isFound : disk.glob argument = .ok found) (nonempty : found ≠ [])
    (sorted : found.Pairwise (· ≤ ·)) : StandsFor disk argument (found.map Path.ofString)
  | spelled (unmatched : isPattern argument.toList = true → disk.glob argument = .ok []) :
    StandsFor disk argument [Path.ofString argument]

variable {disk : Disk} {argument : String} {arguments others : List String} {paths : List Path}
  {fault : Fault}

/-- The matches of a pattern come in order. -/
theorem sorted_glob {pattern : String} {found : List String}
    (isFound : disk.glob pattern = .ok found) : found.Pairwise (· ≤ ·) := by
  simp only [glob] at isFound
  split at isFound
  · contradiction
  obtain rfl := Except.ok.inj isFound
  have sorted (texts : List String) :
      (texts.mergeSort fun a b => decide (a ≤ b)).Pairwise fun a b => decide (a ≤ b) = true :=
    List.pairwise_mergeSort (by simpa using fun a b c => String.le_trans)
      (by simpa using String.le_total) texts
  simpa using sorted _

/-- An argument that is not refused stands for its candidates. -/
theorem candidates_eq_ok_iff : disk.candidates argument = .ok paths ↔
    disk.StandsFor argument paths := by
  have spelled : paths = [Path.ofString argument] ↔
      Except.ok (ε := Fault) [Path.ofString argument] = .ok paths := by simp [eq_comm]
  constructor
  · intro isFound
    rw [candidates] at isFound
    split at isFound
    case isFalse plain =>
      obtain rfl : [Path.ofString argument] = paths := Except.ok.inj isFound
      exact .spelled fun special => absurd special plain
    case isTrue special =>
      cases globbed : disk.glob argument with
      | error => simp [globbed, bind, Except.bind] at isFound
      | ok found =>
          rw [globbed] at isFound
          cases found with
          | nil =>
              obtain rfl : [Path.ofString argument] = paths := Except.ok.inj isFound
              exact .spelled fun _ => globbed
          | cons first rest =>
              obtain rfl : (first :: rest).map Path.ofString = paths := Except.ok.inj isFound
              exact .pattern special globbed (List.cons_ne_nil _ _) (sorted_glob globbed)
  · rintro (⟨special, isFound, nonempty, -⟩ | unmatched)
    · rw [candidates, if_pos special, isFound]
      simp [bind, Except.bind, pure, Except.pure, nonempty]
    · rw [candidates]
      split
      case isTrue special => rw [unmatched special]; rfl
      case isFalse => rfl

/-- The only arguments that stand for nothing are those that are refused. -/
theorem isRefused_of_candidates_eq_error (stopped : disk.candidates argument = .error fault) :
    IsRefused argument := by
  rw [candidates] at stopped
  split at stopped
  case isFalse => simp [bind, Except.bind, pure, Except.pure] at stopped
  case isTrue special =>
    refine ⟨special, ?_⟩
    by_contra plain
    simp [glob, plain, bind, Except.bind, pure, Except.pure] at stopped

theorem selectPaths_eq (disk : Disk) (arguments : List String) : disk.selectPaths arguments =
    (arguments.mapM disk.candidates).map fun found => found.flatten.eraseDups := by
  simp only [selectPaths, foldl_unless_known_nil]
  cases arguments.mapM disk.candidates <;> rfl

/-- Selected paths come from arguments that stand for something, each where it comes first. -/
theorem exists_of_selectPaths_eq (selected : disk.selectPaths arguments = .ok paths) :
    paths.Nodup ∧ ∃ found, List.Forall₂ disk.StandsFor arguments found ∧
      paths = found.flatten.eraseDups := by
  obtain ⟨found, all, rfl⟩ := selectPaths_eq_ok_iff.mp selected
  exact ⟨(nodup_once found.flatten [] .nil).1, found,
    all.imp fun _ _ => candidates_eq_ok_iff.mp, foldl_unless_known_nil _⟩

/-- If paths cannot be selected, an argument is refused. -/
theorem exists_isRefused (stopped : disk.selectPaths arguments = .error fault) :
    fault = .nullInPath ∧ ∃ argument ∈ arguments, IsRefused argument := by
  refine ⟨selectPaths_error stopped, ?_⟩
  rw [selectPaths_eq] at stopped
  cases found : arguments.mapM disk.candidates with
  | ok => simp [found, Except.map] at stopped
  | error other =>
      obtain ⟨argument, isArgument, refused⟩ := exists_of_mapM_eq_error found
      exact ⟨argument, isArgument, isRefused_of_candidates_eq_error refused⟩

/-- Further arguments add those of their paths that are new. -/
theorem selectPaths_append (disk : Disk) (arguments others : List String) :
    disk.selectPaths (arguments ++ others) = do
      let paths ← disk.selectPaths arguments
      let further ← disk.selectPaths others
      return paths ++ further.filter (· ∉ paths) := by
  simp only [selectPaths_eq, List.mapM_append]
  cases arguments.mapM disk.candidates with
  | error => rfl
  | ok found =>
      cases others.mapM disk.candidates with
      | error => rfl
      | ok further =>
          have new : further.flatten.removeAll found.flatten =
              further.flatten.filter (· ∉ found.flatten.eraseDups) :=
            List.filter_congr fun path _ => by
              rw [decide_not, List.elem_eq_mem, decide_eq_decide.mpr List.mem_eraseDups]
          simp only [Except.map, bind, Except.bind, pure, Except.pure, List.flatten_append,
            List.eraseDups_append, new, eraseDups_filter]

end Disk

namespace Checker

variable {checker : Checker} {disk : Disk} {path : Path} {paths : List Path} {inlineEdit : Bool}

/-- A file is reported under its own path. -/
theorem Gives.path_eq {report : Report} (gives : checker.Gives disk inlineEdit path (some report)) :
    report.path = path := by
  have ends := checker.checkOne_ends disk path inlineEdit
  rw [gives.outcome] at ends
  generalize (checker.checkOne disk path inlineEdit).1 = later at ends
  generalize ended : (Except.ok (some report) : Except Fault (Option Report)) = outcome at ends
  cases ends with
  | @written _ formatter _ result =>
      cases passed : (formatter.format path result.updated).outcome with
      | error fault => simp [passed, Except.map] at ended
      | ok again =>
          obtain rfl : report = writtenReport path result again := by
            simpa [passed, Except.map] using ended
          rfl
  | unsupported | skipped | lost | stopped => simp at ended
  | unread | kept | refused =>
      obtain rfl := Option.some.inj (Except.ok.inj ended)
      rfl

/-- A run reports on its paths in order, on each of them once at most. -/
theorem sublist_checkEach {reports : List Report}
    (done : (checker.checkEach disk inlineEdit paths).2.outcome = .ok reports) :
    (reports.map Report.path).Sublist paths := by
  induction paths generalizing disk reports with
  | nil =>
      obtain rfl : [] = reports := Except.ok.inj done
      exact .slnil
  | cons path paths hyp =>
      rw [checkEach, goOn_ok_iff] at done
      obtain ⟨report, others, given, rest, rfl⟩ := done
      cases report with
      | none => exact (hyp rest).cons path
      | some report =>
          have named : report.path = path := Gives.path_eq ⟨given⟩
          rw [Option.toList_some, List.singleton_append, List.map_cons, named]
          exact (hyp rest).cons_cons path

end Checker

/-- **Every path once.** Arguments stand for the paths of one argument after the other, each path
where it comes first; they are refused only for a null character. Further arguments add the paths
that are new. A run reports on its paths in order and on none of them twice, and one that stops does
so before it has paths or at one of them. -/
theorem selectPaths_once (disk : Disk) (arguments : List String) :
    (match disk.selectPaths arguments with
      | .ok paths => paths.Nodup ∧ ∃ found, List.Forall₂ disk.StandsFor arguments found ∧
          paths = found.flatten.eraseDups
      | .error fault => fault = .nullInPath ∧ ∃ argument ∈ arguments, IsRefused argument) ∧
    (∀ others, disk.selectPaths (arguments ++ others) = do
      let paths ← disk.selectPaths arguments
      let further ← disk.selectPaths others
      return paths ++ further.filter (· ∉ paths)) ∧
    ∀ config modules grammar inlineEdit,
      match (checkArguments disk arguments config modules grammar inlineEdit).2.outcome with
      | .ok summary => (summary.files.map Report.path).Nodup ∧
          ∃ paths, disk.selectPaths arguments = .ok paths ∧
            (summary.files.map Report.path).Sublist paths
      | .error fault => (Checker.build config modules grammar).outcome = .error fault ∨
          disk.selectPaths arguments = .error fault ∨
          ∃ (checker : Checker) (paths : List Path), disk.selectPaths arguments = .ok paths ∧
            (checker.checkEach disk inlineEdit paths).2.outcome = .error fault := by
  refine ⟨?_, disk.selectPaths_append arguments, fun config modules grammar inlineEdit => ?_⟩
  · split
    case h_1 paths selected => exact Disk.exists_of_selectPaths_eq selected
    case h_2 fault stopped => exact Disk.exists_isRefused stopped
  · split
    case h_1 summary finished =>
      obtain ⟨checker, paths, -, selected, done⟩ := exists_of_checkArguments_eq finished
      have sublist := Checker.sublist_checkEach done
      exact ⟨sublist.nodup (Disk.exists_of_selectPaths_eq selected).1, paths, selected, sublist⟩
    case h_2 fault stopped =>
      cases built : (Checker.build config modules grammar).outcome with
      | error other =>
          rw [(checkArguments_of_not_built built).2] at stopped
          exact .inl (congrArg Except.error (Except.error.inj stopped))
      | ok checker =>
          cases selected : disk.selectPaths arguments with
          | error other =>
              rw [(checkArguments_of_not_selected built selected).2] at stopped
              exact .inr (.inl (congrArg Except.error (Except.error.inj stopped)))
          | ok paths =>
              rw [(checkArguments_of_selected built selected).2] at stopped
              refine .inr (.inr ⟨checker, paths, rfl, ?_⟩)
              cases ran : (checker.checkEach disk inlineEdit paths).2.outcome with
              | error other => simpa [ran, Except.map] using stopped
              | ok reports => simp [ran, Except.map] at stopped

/-- Three spellings of one path, the last one as a pattern. -/
example : sampleDisk.selectPaths ["./a.js", "b.css", "a.js", "*.js"] =
    .ok [⟨.relative, ["a.js"]⟩, ⟨.relative, ["b.css"]⟩] := by
  decide +kernel

end LineRules
