import LineRules.Cli.Run

/-!
# The program

Reads the files that a command line can reach, runs it, writes the files that have
changed, and prints. Everything else is done by `Cli.run`.
-/

namespace LineRules.Program

open LineRules.Cli

/-- The place of an absolute path. -/
def placeOf (path : String) : List String := (Path.ofString path).absoluteParts []

/-- The path of a place. -/
def pathOf (place : List String) : String := "/" ++ "/".intercalate place

/-- Whether the bytes of a file can matter: it is in a supported language or holds
settings. -/
def matters (place : List String) : Bool :=
  let path : Path := ⟨.slash, place⟩
  (Language.ofPath? path).isSome || path.suffix = ".toml"

/-- Adds a file or directory and everything below it. -/
partial def load (disk : Disk) (place : List String) : IO Disk := do
  if (disk.nodeAt place).isSome && !place.isEmpty && !disk.isDirectoryAt place then return disk
  let path := pathOf place
  try
    let entries ← (← IO.FS.realPath path).readDir
    entries.foldlM (fun disk entry => load disk (place ++ [entry.fileName]))
      (disk.plant place .directory)
  catch _ =>
    try
      let bytes ← if matters place then IO.FS.readBinFile path else pure .empty
      return disk.plant place (.file bytes.toList)
    catch _ => return disk

/-- Adds the settings of a directory's project, if there is a file of them. -/
def loadSettings (disk : Disk) (directory : List String) : IO Disk := do
  let place := directory ++ [Config.projectFile]
  try
    let bytes ← IO.FS.readBinFile (pathOf place)
    return disk.plant place (.file bytes.toList)
  catch _ => return disk

/-- The place that an argument begins at, up to its first special part. -/
def startOf (directory : List String) (argument : String) : List String :=
  let (above, parts) := Glob.cutPattern argument.toList
  let text := if parts.isEmpty then argument else String.ofList above
  (Path.ofString text).absoluteParts directory

/-- The files that a command line can reach. -/
def reachable (directory : List String) (words : List String) : IO Disk := do
  let starts := directory :: (words.filter fun word => !isOption word.toList).map
    (startOf directory)
  let disk ← starts.foldlM load { directory }
  let above := starts.flatMap fun place => (List.range (place.length + 1)).map place.take
  above.foldlM loadSettings disk

/-- Writes the files that differ. -/
def store (before after : Disk) : IO Unit :=
  after.nodes.forM fun (place, node) =>
    match node with
    | .directory => pure ()
    | .file bytes => do
      if before.nodeAt place ≠ some (.file bytes) then
        IO.FS.writeBinFile (pathOf place) ⟨bytes.toArray⟩

end LineRules.Program

open LineRules LineRules.Program in
/-- Runs a command line. -/
def main (words : List String) : IO UInt32 := do
  let directory := placeOf (← IO.currentDir).toString
  let disk ← reachable directory words
  let (after, outcome) := Cli.run {} disk words
  store disk after
  IO.print (String.ofList outcome.output)
  IO.eprint (String.ofList outcome.errors)
  match outcome.ending with
  | .exit code => return UInt32.ofNat code
  | .usage => do
    IO.eprintln "Usage: csf [OPTIONS] COMMAND [ARGS]..."
    return 2
  | .crash fault => do
    IO.eprintln fault.message
    return 1
