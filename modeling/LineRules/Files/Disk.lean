import LineRules.Fault
import LineRules.Path

/-!
# Disks

A disk is a tree of directories and files. A place on it is given by the names from the
root down; the root itself is always a directory. Paths are walked name by name, so a
double point leads out of a directory that has to be there. Names have at most 255 bytes and
paths at most 4095; a longer one is refused when it is looked up.
-/

namespace LineRules

open LineRules.Text

/-- What stands at a place of a disk. -/
inductive DiskNode where
  | directory
  | file (bytes : List UInt8)
deriving Repr, DecidableEq

/-- Why a path leads to no place. -/
inductive WalkProblem where
  /-- A name on the way is missing. -/
  | missing
  /-- A name on the way belongs to a file. -/
  | notDirectory
  /-- The path, or a name that it looks for in a directory, is too long. -/
  | tooLong
deriving Repr, DecidableEq

/-- Why a file cannot be written. -/
inductive WriteProblem where
  | missing
  | notDirectory
  | isDirectory
  | tooLong
  | readOnly
deriving Repr, DecidableEq

namespace WriteProblem

/-- The wording of a problem. -/
def message : WriteProblem → String
  | missing => "No such file or directory"
  | notDirectory => "Not a directory"
  | isDirectory => "Is a directory"
  | tooLong => "File name too long"
  | readOnly => "Read-only file system"

/-- A problem on the way to a file. -/
def ofWalk : WalkProblem → WriteProblem
  | .missing => missing
  | .notDirectory => notDirectory
  | .tooLong => tooLong

end WriteProblem

/-- A tree of directories and files. -/
structure Disk where
  nodes : List (List String × DiskNode) := []
  /-- The place of the working directory. -/
  directory : List String := []
  /-- The texts of paths that refuse to be written. -/
  readOnly : List String := []
deriving Repr, DecidableEq

namespace Disk

/-- What stands at a place. -/
def nodeAt (disk : Disk) (place : List String) : Option DiskNode :=
  if place.isEmpty then some .directory
  else (disk.nodes.find? fun entry => entry.1 = place).map Prod.snd

/-- Whether a directory stands at a place. -/
def isDirectoryAt (disk : Disk) (place : List String) : Bool :=
  disk.nodeAt place = some .directory

/-- Whether a name has more bytes than a name may have. -/
def isLongName (name : String) : Bool := 255 < name.utf8ByteSize

/-- Whether the text of a path has more bytes than a path may have. -/
def isLongPath (text : String) : Bool := 4095 < text.utf8ByteSize

/-- Walks on from a place. Empty names and single points stay in a directory. -/
def walkFrom (disk : Disk) (place : List String) :
    List String → Except WalkProblem (List String)
  | [] => .ok place
  | name :: rest =>
    if disk.isDirectoryAt place then
      if name = "" || name = "." then walkFrom disk place rest
      else if name = ".." then walkFrom disk place.dropLast rest
      else if isLongName name then .error .tooLong
      else if (disk.nodeAt (place ++ [name])).isSome then walkFrom disk (place ++ [name]) rest
      else .error .missing
    else .error .notDirectory

/-- The place that a path starts from. -/
def start (disk : Disk) (path : Path) : List String :=
  if path.isAbsolute then [] else disk.directory

/-- The place that a path leads to. Nothing stands at a path with a null character. -/
def walk (disk : Disk) (path : Path) : Except WalkProblem (List String) :=
  if path.holdsNull then .error .missing
  else if isLongPath path.toString then .error .tooLong
  else disk.walkFrom (disk.start path) path.parts

/-- What a path leads to, if anything. -/
def look (disk : Disk) (path : Path) : Except Fault (Option DiskNode) :=
  match disk.walk path with
  | .ok place => .ok (disk.nodeAt place)
  | .error .tooLong => .error (.pathTooLong path.toString)
  | .error _ => .ok none

/-- The nodes with what stands at a place set. -/
def putNode (nodes : List (List String × DiskNode)) (place : List String) (node : DiskNode) :
    List (List String × DiskNode) :=
  match nodes with
  | [] => [(place, node)]
  | (known, old) :: rest =>
    if known = place then (known, node) :: rest else (known, old) :: putNode rest place node

/-- The disk with what stands at a place set. -/
def put (disk : Disk) (place : List String) (node : DiskNode) : Disk :=
  { disk with nodes := putNode disk.nodes place node }

/-- The disk with a node at a place and directories on the way to it. -/
def plant (disk : Disk) (place : List String) (node : DiskNode) : Disk :=
  let above := (List.range place.length).map fun count => place.take count
  let grown := (above.filter fun place => !place.isEmpty).foldl
    (fun disk place => if (disk.nodeAt place).isSome then disk else disk.put place .directory)
    disk
  if place.isEmpty then grown else grown.put place node

/-- The place that a file is written at: an old file, or a new name in a directory. -/
def target (disk : Disk) (path : Path) : Except WriteProblem (List String) := do
  if isLongPath path.toString then throw .tooLong
  if path.name = "" || path.name = ".." then
    let _ ← (disk.walk path).mapError WriteProblem.ofWalk
    throw .isDirectory
  let above ← (disk.walk path.parent).mapError WriteProblem.ofWalk
  if !disk.isDirectoryAt above then throw .notDirectory
  if isLongName path.name then throw .tooLong
  let place := above ++ [path.name]
  if disk.isDirectoryAt place then throw .isDirectory
  return place

/-- Writes a file. -/
def write (disk : Disk) (path : Path) (bytes : List UInt8) : Except WriteProblem Disk :=
  if disk.readOnly.contains path.toString then .error .readOnly
  else (disk.target path).map fun place => disk.put place (.file bytes)

/-- The names from a place down to everything below it, with what stands there. -/
def below (disk : Disk) (place : List String) : List (List String × DiskNode) :=
  disk.nodes.filterMap fun (known, node) =>
    if place.length < known.length && known.take place.length = place then
      some (known.drop place.length, node)
    else none

/-- The names in the directory at a place, with what stands there. -/
def children (disk : Disk) (place : List String) : List (String × DiskNode) :=
  (disk.below place).filterMap fun (names, node) =>
    match names with
    | [name] => some (name, node)
    | _ => none

/-- What was set is what stands there, and nothing else changes. -/
theorem find?_putNode (nodes : List (List String × DiskNode)) (place other : List String)
    (node : DiskNode) :
    ((putNode nodes place node).find? fun entry => entry.1 = other).map Prod.snd
      = if place = other then some node
        else (nodes.find? fun entry => entry.1 = other).map Prod.snd := by
  induction nodes with
  | nil =>
    by_cases same : place = other <;> simp [putNode, same]
  | cons entry rest hyp =>
    obtain ⟨known, old⟩ := entry
    by_cases here : known = place
    · subst here
      by_cases same : known = other <;> simp [putNode, same]
    · by_cases found : known = other
      · subst found
        simp [putNode, here, Ne.symm here]
      · simp only [putNode, here, ↓reduceIte, List.find?_cons, found, decide_false]
        exact hyp

/-- A write changes what stands at its place only. -/
theorem nodeAt_put (disk : Disk) (place other : List String) (node : DiskNode)
    (named : place ≠ []) :
    (disk.put place node).nodeAt other
      = if place = other then some node else disk.nodeAt other := by
  unfold nodeAt put
  by_cases root : other = []
  · subst root
    simp [named]
  · simp only [List.isEmpty_iff, root, ↓reduceIte]
    exact find?_putNode disk.nodes place other node

end Disk

end LineRules
