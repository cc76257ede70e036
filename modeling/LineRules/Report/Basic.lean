import LineRules.Violation

/-!
# Reports

What a check says about a file, and about all files together.
-/

namespace LineRules

/-- What a check says about a file. -/
structure Report where
  path : Path
  violations : List Violation := []
  /-- The violations that are still there after fixes were written. -/
  remaining : List Violation := []
  /-- Whether fixes would change the file. -/
  changed : Bool := false
  /-- Whether fixes were written. -/
  written : Bool := false
  /-- Why the file could not be read. -/
  error : Option String := none
  /-- Why fixes could not be written. -/
  writeError : Option String := none
deriving Repr, DecidableEq

namespace Report

/-- The number of violations that are gone. -/
def goneCount (report : Report) : Nat :=
  report.violations.length - report.remaining.length

end Report

/-- What a check says about all files. -/
structure Summary where
  files : List Report
deriving Repr, DecidableEq

namespace Summary

/-- The number of files that could be read. -/
def filesRead (summary : Summary) : Nat :=
  summary.files.countP fun report => report.error.isNone

/-- The number of violations. -/
def foundCount (summary : Summary) : Nat :=
  summary.files.foldr (fun report count => report.violations.length + count) 0

/-- The number of violations that remain. -/
def leftCount (summary : Summary) : Nat :=
  summary.files.foldr (fun report count => report.remaining.length + count) 0

/-- The number of violations that are gone. -/
def goneCount (summary : Summary) : Nat :=
  summary.files.foldr (fun report count => report.goneCount + count) 0

/-- Whether violations remain. -/
def leavesViolations (summary : Summary) : Bool := 0 < summary.leftCount

end Summary

end LineRules
