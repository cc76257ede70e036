import LineRules.Files.Disk
import LineRules.Notice

/-!
# Reading and writing sources

A source is a file of UTF-8 text, whose line endings are kept as they are.
-/

namespace LineRules

open LineRules.Text

/-- Why a source cannot be read. -/
inductive ReadProblem where
  | notFound
  | isDirectory
  | permissionDenied
  | unreadable
  /-- A problem by a name of its own. -/
  | other (name : String)
deriving Repr, DecidableEq

namespace ReadProblem

/-- The name of a problem. -/
def name : ReadProblem → String
  | notFound => "not_found"
  | isDirectory => "is_directory"
  | permissionDenied => "permission_denied"
  | unreadable => "unreadable"
  | other name => name

/-- The problem with a name. -/
def ofName : String → ReadProblem
  | "not_found" => notFound
  | "is_directory" => isDirectory
  | "permission_denied" => permissionDenied
  | "unreadable" => unreadable
  | name => other name

end ReadProblem

/-- A failure to read a source. -/
structure ReadError where
  path : Path
  problem : ReadProblem
  detail : String := ""
deriving Repr, DecidableEq

namespace ReadError

/-- The wording of a failure, which falls back on the name of the problem. -/
def message (error : ReadError) : String :=
  error.path.toString ++ ": " ++
    if error.detail = "" then error.problem.name else error.detail

/-- The wording of a failure for the user; directories are passed over in silence. -/
def describe (error : ReadError) : Option String :=
  match error.problem with
  | .notFound => some "File not found"
  | .isDirectory => none
  | .permissionDenied => some "Permission denied"
  | _ => some ("Unable to read file: " ++ error.message)

end ReadError

/-- A failure to write a source. -/
structure WriteError where
  path : Path
  problem : WriteProblem
deriving Repr, DecidableEq

namespace WriteError

/-- The wording of a failure. -/
def message (error : WriteError) : String :=
  error.path.toString ++ ": " ++ error.problem.message

end WriteError

namespace Disk

/-- The text of a source that was looked up. -/
def textOf (path : Path) : Option DiskNode → Except ReadError String
  | none => .error ⟨path, .notFound, ""⟩
  | some .directory => .error ⟨path, .isDirectory, ""⟩
  | some (.file bytes) =>
    match Utf8.decode bytes with
    | .ok text => .ok (String.ofList text)
    | .error error =>
      .error ⟨path, .unreadable, "not valid UTF-8 (" ++ error.reason.message ++ ")"⟩

/-- The text of a source. A path that cannot be looked up is a fault, not a failure to
read. -/
def readText (disk : Disk) (path : Path) : Except Fault (Except ReadError String) :=
  (disk.look path).map (textOf path)

/-- The disk with the text of a source replaced. A path that no file can have is a fault,
not a failure to write. -/
def writeText (disk : Disk) (path : Path) (text : String) :
    Except Fault (Except WriteError Disk) :=
  if path.holdsNull then .error .nullInPath
  else
    .ok ((disk.write path (Utf8.encode text.toList)).mapError fun problem => ⟨path, problem⟩)

end Disk

end LineRules
