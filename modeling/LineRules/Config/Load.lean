import LineRules.Config.Read
import LineRules.Files.Disk
import LineRules.Text.Line
import LineRules.Toml.Document

/-!
# Loading configurations

A configuration is kept in a project's `pyproject.toml` under `[tool.csf]`, or in a file
of its own, where the settings may also stand at the top. The project of a file is the
nearest directory above it that has such a file.
-/

namespace LineRules

open LineRules.Text

namespace Config

/-- The name of the file that holds the settings of a project. -/
def projectFile : String := "pyproject.toml"

/-- The first of some directories that holds a project's settings. -/
def firstProject? (disk : Disk) : List Path → Except Fault (Option Path)
  | [] => .ok none
  | path :: rest => do
    let found ← disk.look (path.child projectFile)
    if found.isSome then return some path else firstProject? disk rest

/-- The nearest directory that holds a project's settings, from a path upwards; without
one the directory of the path. -/
def findProject (disk : Disk) (start : Path) : Except Fault Path := do
  let base := if (← disk.look start) = some .directory then start else start.parent
  return (← firstProject? disk (base :: base.parents)).getD base

/-- The refusal of a file that is a directory. -/
def directoryError (path : Path) : SettingError :=
  .unreadableFile path.toString ("[Errno 21] Is a directory: " ++ quote path.toString)

/-- Reads the document in what stands at a path. -/
def readDocument (path : Path) : DiskNode → Except Fault (Keyed Value)
  | .directory => .error (.config (directoryError path))
  | .file bytes =>
    match Utf8.decode bytes with
    | .error error => .error (.undecodable error)
    | .ok text =>
      match Toml.read (unifyNewlines text) with
      | .ok table => .ok table
      | .error .malformed =>
        .error (.config (.malformedFile path.toString Toml.malformedMessage))
      | .error (.tooManyDigits count) => .error (.tooManyDigits count)

/-- The settings of a project; without any the defaults hold. -/
def load (disk : Disk) (project : Path) : Except Fault Config := do
  let path := project.child projectFile
  let some node ← disk.look path | return {}
  let document ← readDocument path node
  let settings := ((document.get? "tool").bind Value.table?).bind fun tool =>
    (Keyed.get? tool "csf").bind Value.table?
  match settings with
  | none | some [] => return {}
  | some settings => ofTable settings (some path)

/-- The settings in a file that is named. -/
def loadFile (disk : Disk) (path : Path) : Except Fault Config := do
  let some (.file bytes) ← disk.look path
    | throw (.config (.fileNotFound path.toString))
  let document ← readDocument path (.file bytes)
  let settings := ((document.get? "tool").bind Value.table?).bind fun tool =>
    (Keyed.get? tool "csf").bind Value.table?
  ofTable (settings.getD document) (some path)

end Config

end LineRules
