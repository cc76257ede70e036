import LineRules.Files.Glob
import LineRules.Files.Source

/-!
# What depends on names only

Where paths lead and which paths a pattern stands for depends on the names on a disk and
on nothing that files hold. `Disk.emptied` forgets the latter; two disks have the same
names if they are the same without it. Writing a file that is there keeps the names
(`SameNames.put`), so it changes neither where paths lead nor what patterns stand for.
-/

namespace LineRules

open LineRules.Glob

/-- A node without what the file there holds. -/
def DiskNode.emptied : DiskNode → DiskNode
  | directory => directory
  | file _ => file []

theorem DiskNode.emptied_eq_directory_iff {node : DiskNode} :
    node.emptied = .directory ↔ node = .directory := by
  cases node <;> simp [emptied]

namespace Disk

/-- A disk without what its files hold. -/
def emptied (disk : Disk) : Disk :=
  { disk with nodes := disk.nodes.map fun entry => (entry.1, entry.2.emptied) }

variable (disk : Disk)

theorem nodeAt_emptied (place : List String) :
    disk.emptied.nodeAt place = (disk.nodeAt place).map DiskNode.emptied := by
  unfold nodeAt
  split
  · rfl
  · simp [emptied, List.find?_map, Function.comp_def]

theorem isDirectoryAt_emptied (place : List String) :
    disk.emptied.isDirectoryAt place = disk.isDirectoryAt place := by
  rw [isDirectoryAt, isDirectoryAt, nodeAt_emptied, decide_eq_decide]
  cases disk.nodeAt place with
  | none => simp
  | some node => simp [DiskNode.emptied_eq_directory_iff]

theorem walkFrom_emptied (place names : List String) :
    disk.emptied.walkFrom place names = disk.walkFrom place names := by
  induction names generalizing place with
  | nil => rfl
  | cons name names hyp =>
      simp only [walkFrom, isDirectoryAt_emptied, nodeAt_emptied, Option.isSome_map, hyp]

theorem walk_emptied (path : Path) : disk.emptied.walk path = disk.walk path := by
  rw [walk, walk, walkFrom_emptied]
  rfl

theorem target_emptied (path : Path) : disk.emptied.target path = disk.target path := by
  simp only [target, walk_emptied, isDirectoryAt_emptied]

theorem below_emptied (place : List String) : disk.emptied.below place =
    (disk.below place).map fun entry => (entry.1, entry.2.emptied) := by
  simp only [below, emptied, List.filterMap_map, List.map_filterMap, Function.comp_def]
  congr 1
  funext entry
  split <;> rfl

theorem children_emptied (place : List String) : disk.emptied.children place =
    (disk.children place).map fun entry => (entry.1, entry.2.emptied) := by
  rw [children, children, below_emptied, List.filterMap_map, List.map_filterMap]
  congr 1
  funext ⟨names, node⟩
  match names with
  | [] => rfl
  | [_] => rfl
  | _ :: _ :: _ => rfl

theorem walkText_emptied (text : List Char) : disk.emptied.walkText text = disk.walkText text := by
  rw [walkText, walkText, walkFrom_emptied]
  rfl

theorem directoryText_emptied (text : List Char) :
    disk.emptied.directoryText text = disk.directoryText text := by
  rw [directoryText, directoryText, walkText_emptied, funext disk.isDirectoryAt_emptied]

theorem globIn_emptied (onlyDirectories : Bool) (part above : List Char) :
    disk.emptied.globIn onlyDirectories part above = disk.globIn onlyDirectories part above := by
  simp only [globIn, directoryText_emptied, walkText_emptied, below_emptied, children_emptied,
    List.filterMap_map, Function.comp_def, DiskNode.emptied_eq_directory_iff]

theorem globBelow_emptied (above parts : List (List Char)) :
    disk.emptied.globBelow above parts = disk.globBelow above parts := by
  induction parts generalizing above with
  | nil => rfl
  | cons part parts hyp =>
      have same : disk.emptied.globIn (!parts.isEmpty) part = disk.globIn (!parts.isEmpty) part :=
        funext fun above => disk.globIn_emptied _ _ above
      rw [globBelow, globBelow, same, hyp]

theorem candidates_emptied (argument : String) :
    disk.emptied.candidates argument = disk.candidates argument := by
  simp only [candidates, glob, globBelow_emptied]

theorem selectPaths_emptied (arguments : List String) :
    disk.emptied.selectPaths arguments = disk.selectPaths arguments := by
  rw [selectPaths, selectPaths, funext disk.candidates_emptied]

/-- Two disks with the same names, which differ at most in what files hold. -/
def SameNames (disk other : Disk) : Prop :=
  other.emptied = disk.emptied

namespace SameNames

variable {disk other : Disk}

theorem refl (disk : Disk) : disk.SameNames disk := rfl

theorem symm (same : disk.SameNames other) : other.SameNames disk :=
  Eq.symm same

theorem trans {third : Disk} (first : disk.SameNames other) (second : other.SameNames third) :
    disk.SameNames third :=
  Eq.trans second first

theorem walk (same : disk.SameNames other) (path : Path) : other.walk path = disk.walk path := by
  rw [← walk_emptied, same, walk_emptied]

theorem target (same : disk.SameNames other) (path : Path) :
    other.target path = disk.target path := by
  rw [← target_emptied, same, target_emptied]

theorem readOnly (same : disk.SameNames other) : other.readOnly = disk.readOnly :=
  (congrArg Disk.readOnly same : other.emptied.readOnly = disk.emptied.readOnly)

theorem selectPaths (same : disk.SameNames other) (arguments : List String) :
    other.selectPaths arguments = disk.selectPaths arguments := by
  rw [← selectPaths_emptied, same, selectPaths_emptied]

end SameNames

/-- A file that is there can be written without a change of names. -/
theorem SameNames.put {disk : Disk} {place : List String} {old : List UInt8}
    (isFile : disk.nodeAt place = some (.file old)) (bytes : List UInt8) :
    disk.SameNames (disk.put place (.file bytes)) := by
  have named : place ≠ [] := by
    rintro rfl
    simp [nodeAt] at isFile
  have kept : ∀ {nodes : List (List String × DiskNode)},
      (nodes.find? fun entry => entry.1 = place).map Prod.snd = some (.file old) →
      (putNode nodes place (.file bytes)).map (fun entry => (entry.1, entry.2.emptied)) =
        nodes.map fun entry => (entry.1, entry.2.emptied) := by
    intro nodes found
    induction nodes with
    | nil => simp at found
    | cons entry nodes hyp =>
        obtain ⟨known, node⟩ := entry
        by_cases here : known = place
        · obtain rfl : node = .file old := by simpa [here] using found
          simp [putNode, here, DiskNode.emptied]
        · simp only [List.find?_cons, here, decide_false] at found
          simp [putNode, here, hyp found]
  have entry : (disk.nodes.find? fun entry => entry.1 = place).map Prod.snd = some (.file old) := by
    simpa [nodeAt, named] using isFile
  simp only [SameNames, emptied, Disk.put, kept entry]

/-! ## Where a file is written -/

theorem walkFrom_append (place above names : List String) :
    disk.walkFrom place (above ++ names) =
      (disk.walkFrom place above).bind fun middle => disk.walkFrom middle names := by
  induction above generalizing place with
  | nil => rfl
  | cons name above hyp =>
      rw [List.cons_append, walkFrom, walkFrom]
      split
      · split
        · exact hyp _
        · split
          · exact hyp _
          · split
            · rfl
            · split
              · exact hyp _
              · rfl
      · rfl

theorem exists_of_target_eq {disk : Disk} {path : Path} {place : List String}
    (isTarget : disk.target path = .ok place) : path.name ≠ "" ∧ path.name ≠ ".." ∧
      ∃ above, disk.walk path.parent = .ok above ∧ place = above ++ [path.name] := by
  simp only [target] at isTarget
  split at isTarget
  · contradiction
  split at isTarget
  case isTrue =>
    cases walked : (disk.walk path).mapError WriteProblem.ofWalk <;>
      simp [walked, bind, Except.bind] at isTarget
  case isFalse named =>
    cases walked : disk.walk path.parent with
    | error problem =>
        rw [walked] at isTarget
        cases isTarget
    | ok above =>
        obtain ⟨notEmpty, notUp⟩ : path.name ≠ "" ∧ path.name ≠ ".." := by simpa using named
        refine ⟨notEmpty, notUp, above, rfl, ?_⟩
        rw [walked] at isTarget
        simp only [bind, Except.bind, throw, throwThe, MonadExceptOf.throw, pure, Except.pure]
          at isTarget
        split at isTarget
        · cases isTarget
        next reached =>
        obtain rfl := Except.ok.inj reached
        split at isTarget
        · cases isTarget
        split at isTarget
        · cases isTarget
        split at isTarget
        · cases isTarget
        exact (Except.ok.inj isTarget).symm

theorem walkFrom_of_walk_eq {disk : Disk} {path : Path} {place : List String}
    (walked : disk.walk path = .ok place) :
    disk.walkFrom (disk.start path) path.parts = .ok place := by
  unfold walk at walked
  split at walked
  · contradiction
  split at walked
  · contradiction
  exact walked

/-- A file is written where it was read. -/
theorem target_eq_of_file {disk : Disk} {path : Path} {place other : List String}
    {bytes : List UInt8} (walked : disk.walk path = .ok place)
    (isFile : disk.nodeAt place = some (.file bytes)) (isTarget : disk.target path = .ok other) :
    other = place := by
  obtain ⟨notEmpty, notUp, above, walkedAbove, rfl⟩ := exists_of_target_eq isTarget
  have parts : path.parts = path.parent.parts ++ [path.name] := by
    have named : path.parts ≠ [] := by
      intro none
      simp [Path.name, none] at notEmpty
    simp [Path.parent, Path.name, List.getLast?_eq_some_getLast named,
      List.dropLast_concat_getLast]
  have last : disk.walkFrom above [path.name] = .ok place := by
    have whole := walkFrom_of_walk_eq walked
    rw [parts, walkFrom_append] at whole
    have upTo : disk.walkFrom (disk.start path) path.parent.parts = .ok above :=
      walkFrom_of_walk_eq walkedAbove
    rwa [upTo] at whole
  rw [walkFrom] at last
  split at last
  case isFalse => contradiction
  case isTrue isDirectory =>
    split at last
    case isTrue =>
      obtain rfl : above = place := Except.ok.inj last
      simp [isDirectoryAt, isFile] at isDirectory
    case isFalse =>
      split at last
      · contradiction
      split at last
      · exact Except.ok.inj last
      · contradiction

end Disk

end LineRules
