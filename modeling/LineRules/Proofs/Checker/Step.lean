import LineRules.Checker
import LineRules.Proofs.Files.Names
import LineRules.Proofs.Text.Utf8

/-!
# The check of one file

The check of a file reads and writes what its path leads to and nothing else.
`Checker.Ends` lists how it can end, and `checkOne_ends` says that it ends so. It keeps the
names on the disk (`sameNames_checkOne`) and whatever stands elsewhere
(`nodeAt_checkOne_of_ne`), and it goes the same way on every disk that has the same names and
the same file where the path leads to (`checkOne_alike`).
-/

namespace LineRules

open LineRules.Text LineRules.Format

namespace Disk

variable {disk other : Disk} {path : Path} {place : List String}

theorem SameNames.look (same : disk.SameNames other)
    (alike : ∀ place, disk.walk path = .ok place → other.nodeAt place = disk.nodeAt place) :
    other.look path = disk.look path := by
  rw [Disk.look, Disk.look, same.walk]
  cases walked : disk.walk path with
  | ok place => simp only [alike place walked]
  | error problem => cases problem <;> rfl

/-- A text is read from a file that is there. -/
theorem exists_of_readText_eq {text : String} (isRead : disk.readText path = .ok (.ok text)) :
    ∃ place bytes, disk.walk path = .ok place ∧ disk.nodeAt place = some (.file bytes) ∧
      Utf8.decode bytes = .ok text.toList := by
  cases walked : disk.walk path with
  | error problem => cases problem <;> simp [readText, look, walked, textOf, Except.map] at isRead
  | ok place =>
      simp only [readText, look, walked, Except.map, Except.ok.injEq] at isRead
      cases here : disk.nodeAt place with
      | none => simp [here, textOf] at isRead
      | some node =>
          cases node with
          | directory => simp [here, textOf] at isRead
          | file bytes =>
              simp only [here, textOf] at isRead
              split at isRead
              case h_1 chars decoded =>
                obtain rfl : String.ofList chars = text := Except.ok.inj isRead
                exact ⟨place, bytes, rfl, here, by simpa using decoded⟩
              case h_2 => contradiction

theorem readText_of_file {text : String} (walked : disk.walk path = .ok place)
    (isFile : disk.nodeAt place = some (.file (Utf8.encode text.toList))) :
    disk.readText path = .ok (.ok text) := by
  simp [readText, look, walked, isFile, Except.map, textOf, Utf8.decode_encode]

theorem holdsNull_of_walk_eq (walked : disk.walk path = .ok place) : path.holdsNull = false := by
  unfold walk at walked
  split at walked
  case isTrue => contradiction
  case isFalse noNull => simpa using noNull

theorem exists_of_writeText_eq {later : Disk} {text : String}
    (isWritten : disk.writeText path text = .ok (.ok later)) :
    ∃ place, disk.target path = .ok place ∧
      later = disk.put place (.file (Utf8.encode text.toList)) := by
  simp only [writeText, write] at isWritten
  split at isWritten
  · contradiction
  split at isWritten
  · cases isWritten
  cases aimed : disk.target path with
  | error problem =>
      rw [aimed] at isWritten
      cases isWritten
  | ok place =>
      rw [aimed] at isWritten
      cases isWritten
      exact ⟨place, rfl, rfl⟩

end Disk

namespace Checker

/-- A file that formatting changes: what it holds, where it stands and what it is
formatted to. -/
structure Rewrites (checker : Checker) (disk : Disk) (path : Path) (place : List String)
    (formatter : Formatter) (text : String) (result : Formatted) : Prop where
  supported : checker.formatter? path = some formatter
  walked : disk.walk path = .ok place
  isFile : ∃ bytes, disk.nodeAt place = some (.file bytes) ∧ Utf8.decode bytes = .ok text.toList
  formatted : (formatter.format path text).outcome = .ok result
  changed : result.changed = true

/-- The report of a file whose fixes are written. -/
def writtenReport (path : Path) (result again : Formatted) : Report :=
  { path, violations := result.violations, remaining := again.violations
    changed := true, written := true }

/-- How the check of a file ends: the disk and the outcome that it leaves. -/
inductive Ends (checker : Checker) (disk : Disk) (path : Path) (inlineEdit : Bool) :
    Disk → Except Fault (Option Report) → Prop
  | unsupported (noFormatter : checker.formatter? path = none) :
    Ends checker disk path inlineEdit disk (.ok none)
  | lost {formatter : Formatter} {fault : Fault}
    (supported : checker.formatter? path = some formatter)
    (notLooked : disk.look path = .error fault) :
    Ends checker disk path inlineEdit disk (.error fault)
  | skipped {formatter : Formatter} {error : ReadError}
    (supported : checker.formatter? path = some formatter)
    (notRead : disk.readText path = .ok (.error error)) (silent : error.describe = none) :
    Ends checker disk path inlineEdit disk (.ok none)
  | unread {formatter : Formatter} {error : ReadError} {message : String}
    (supported : checker.formatter? path = some formatter)
    (notRead : disk.readText path = .ok (.error error)) (told : error.describe = some message) :
    Ends checker disk path inlineEdit disk (.ok (some { path, error := some message }))
  | stopped {formatter : Formatter} {text : String} {fault : Fault}
    (supported : checker.formatter? path = some formatter)
    (isRead : disk.readText path = .ok (.ok text))
    (raised : (formatter.format path text).outcome = .error fault) :
    Ends checker disk path inlineEdit disk (.error fault)
  | kept {formatter : Formatter} {text : String} {result : Formatted}
    (supported : checker.formatter? path = some formatter)
    (isRead : disk.readText path = .ok (.ok text))
    (formatted : (formatter.format path text).outcome = .ok result)
    (unwanted : (inlineEdit && result.changed) = false) :
    Ends checker disk path inlineEdit disk (.ok (some (reportOf path result)))
  | refused {place : List String} {formatter : Formatter} {text : String} {result : Formatted}
    {error : WriteError} (rewrites : checker.Rewrites disk path place formatter text result)
    (wanted : inlineEdit = true)
    (notWritten : disk.writeText path result.updated = .ok (.error error)) :
    Ends checker disk path inlineEdit disk (.ok (some (reportOf path result (some error.message))))
  | written {place : List String} {formatter : Formatter} {text : String} {result : Formatted}
    (rewrites : checker.Rewrites disk path place formatter text result)
    (wanted : inlineEdit = true) :
    Ends checker disk path inlineEdit
      (disk.put place (.file (Utf8.encode result.updated.toList)))
      (((formatter.format path result.updated).outcome.map (writtenReport path result)).map some)

/-- The check of a file ends in one of the listed ways. -/
theorem checkOne_ends (checker : Checker) (disk : Disk) (path : Path) (inlineEdit : Bool) :
    checker.Ends disk path inlineEdit (checker.checkOne disk path inlineEdit).1
      (checker.checkOne disk path inlineEdit).2.outcome := by
  unfold checkOne
  split
  case h_1 noFormatter => exact .unsupported noFormatter
  case h_2 formatter supported =>
    split
    case h_1 fault notRead =>
      refine .lost supported ?_
      cases looked : disk.look path with
      | error other => simpa [Disk.readText, looked, Except.map] using notRead
      | ok node => simp [Disk.readText, looked, Except.map] at notRead
    case h_2 error notRead =>
      split
      case h_1 silent => exact .skipped supported notRead silent
      case h_2 message told => exact .unread supported notRead told
    case h_3 text isRead =>
      obtain ⟨place, bytes, walked, isFile, decoded⟩ := Disk.exists_of_readText_eq isRead
      simp only [checkText]
      split
      case h_1 fault raised => exact .stopped supported isRead raised
      case h_2 result formatted =>
        split
        case isFalse unwanted => exact .kept supported isRead formatted (by simpa using unwanted)
        case isTrue wanted =>
          obtain ⟨isWanted, changed⟩ : inlineEdit = true ∧ result.changed = true := by
            simpa using wanted
          have rewrites : checker.Rewrites disk path place formatter text result :=
            ⟨supported, walked, ⟨bytes, isFile, decoded⟩, formatted, changed⟩
          split
          case h_1 fault notWritable =>
            simp [Disk.writeText, Disk.holdsNull_of_walk_eq walked] at notWritable
          case h_2 error notWritten => exact .refused rewrites isWanted notWritten
          case h_3 later isWritten =>
            obtain ⟨aimed, isTarget, rfl⟩ := Disk.exists_of_writeText_eq isWritten
            obtain rfl := Disk.target_eq_of_file walked isFile isTarget
            exact .written rewrites isWanted

variable {checker : Checker} {disk other : Disk} {path : Path} {place : List String}
  {inlineEdit : Bool}

theorem Rewrites.put {formatter : Formatter} {text : String} {result : Formatted}
    (rewrites : checker.Rewrites disk path place formatter text result) (bytes : List UInt8) :
    disk.SameNames (disk.put place (.file bytes)) ∧ ∀ elsewhere,
      (disk.put place (.file bytes)).nodeAt elsewhere =
        if place = elsewhere then some (.file bytes) else disk.nodeAt elsewhere := by
  obtain ⟨old, isFile, _⟩ := rewrites.isFile
  refine ⟨.put isFile bytes, fun elsewhere => Disk.nodeAt_put _ _ _ _ ?_⟩
  rintro rfl
  simp [Disk.nodeAt] at isFile

/-- The check of a file adds and removes no names. -/
theorem sameNames_checkOne (checker : Checker) (disk : Disk) (path : Path) (inlineEdit : Bool) :
    disk.SameNames (checker.checkOne disk path inlineEdit).1 := by
  have ends := checker.checkOne_ends disk path inlineEdit
  generalize (checker.checkOne disk path inlineEdit).1 = later,
    (checker.checkOne disk path inlineEdit).2.outcome = outcome at ends ⊢
  cases ends with
  | written rewrites => exact (rewrites.put _).1
  | _ => exact .refl disk

/-- The check of a file changes nothing where the path does not lead to. -/
theorem nodeAt_checkOne_of_ne (away : disk.walk path ≠ .ok place) :
    (checker.checkOne disk path inlineEdit).1.nodeAt place = disk.nodeAt place := by
  have ends := checker.checkOne_ends disk path inlineEdit
  generalize (checker.checkOne disk path inlineEdit).1 = later,
    (checker.checkOne disk path inlineEdit).2.outcome = outcome at ends ⊢
  cases ends with
  | written rewrites =>
      rw [(rewrites.put _).2, if_neg]
      rintro rfl
      exact away rewrites.walked
  | _ => rfl

/-- What is seen of work on a disk at one place. -/
def seenAt {α : Type} (place : List String) (done : Disk × α) : Option DiskNode × α :=
  (done.1.nodeAt place, done.2)

theorem writeText_alike (same : disk.SameNames other) (path : Path) (text : String)
    (alike : other.nodeAt place = disk.nodeAt place) :
    (other.writeText path text).map (·.map (·.nodeAt place)) =
      (disk.writeText path text).map (·.map (·.nodeAt place)) := by
  simp only [Disk.writeText, Disk.write, same.readOnly, same.target]
  split
  · rfl
  split
  · rfl
  cases aimed : disk.target path with
  | error problem => rfl
  | ok goal =>
      obtain ⟨_, _, above, _, rfl⟩ := Disk.exists_of_target_eq aimed
      have named : above ++ [path.name] ≠ [] := by simp
      change Except.ok (Except.ok (Disk.nodeAt (other.put _ _) place)) =
        Except.ok (Except.ok (Disk.nodeAt (disk.put _ _) place))
      simp only [Disk.nodeAt_put _ _ _ _ named, alike]

theorem checkText_alike (same : disk.SameNames other) (path : Path) (formatter : Formatter)
    (text : String) (inlineEdit : Bool) (alike : other.nodeAt place = disk.nodeAt place) :
    seenAt place (checkText other path formatter text inlineEdit) =
      seenAt place (checkText disk path formatter text inlineEdit) := by
  simp only [checkText]
  split
  · simp [seenAt, alike]
  next result formatted =>
    split
    · have wrote := writeText_alike same path result.updated alike
      rcases here : disk.writeText path result.updated with fault | error | later <;>
        rcases there : other.writeText path result.updated with fault | error | later <;>
          simp_all [Except.map, seenAt]
    · simp [seenAt, alike]

/-- The check of a file depends on the disk through its names and what the path leads to. -/
theorem checkOne_alike (same : disk.SameNames other)
    (looked : ∀ place, disk.walk path = .ok place → other.nodeAt place = disk.nodeAt place)
    (alike : other.nodeAt place = disk.nodeAt place) :
    (checker.checkOne other path inlineEdit).1.nodeAt place =
        (checker.checkOne disk path inlineEdit).1.nodeAt place ∧
      (checker.checkOne other path inlineEdit).2 = (checker.checkOne disk path inlineEdit).2 := by
  have sameRead : other.readText path = disk.readText path := by
    rw [Disk.readText, Disk.readText, same.look looked]
  unfold checkOne
  rw [sameRead]
  split
  · simp [alike]
  split
  · simp [alike]
  · split <;> simp [alike]
  next formatter _ _ text _ =>
    have both := checkText_alike same path formatter text inlineEdit alike
    simp_all [seenAt]

end Checker

end LineRules
