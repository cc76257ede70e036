import LineRules.Files.Glob
import LineRules.Files.Source
import LineRules.Format.File
import LineRules.Report.Basic

/-!
# Checking files

A check is put together from a configuration: the built-in rule-sets with the configured
ones laid over them, and the token rules with those of the plugins. Its files are then
formatted one by one, and fixes are written back if that is wanted; after that the rules
are run again, to see what remains.
-/

namespace LineRules

open LineRules.Format

/-- What files are checked with. -/
structure Checker where
  store : Store
  customIgnore : Option Pattern := none
  linter : Linter

namespace Checker

/-- Puts a check together. Token rules that are configured and unknown are noted. -/
def build (config : Config) (modules : Token.Modules) (grammar : Token.Grammar) :
    Noted Checker := do
  let store ← Builtin.storeWith config.ruleSets
  let loading := Token.Registry.load {} modules config.plugins
  let registry ← show Noted Token.Registry from
    ⟨match loading.fault with
      | some fault => .error fault
      | none => .ok loading.registry, loading.notices⟩
  let unknown := Token.unregistered config registry
  (⟨.ok (), unknown.map .unknownTokenRule⟩ : Noted Unit)
  return { store, customIgnore := config.ignore, linter := ⟨registry, config, grammar⟩ }

/-- The formatter of a file, if its language is supported. -/
def formatter? (checker : Checker) (path : Path) : Option Formatter :=
  Formatter.ofPath? path checker.store checker.customIgnore (some checker.linter)

/-- The report of a file whose fixes are not written. -/
def reportOf (path : Path) (result : Formatted) (writeError : Option String := none) :
    Report :=
  { path, violations := result.violations, remaining := result.violations
    changed := result.changed, writeError }

/-- Formats the text of a file, and writes fixes if that is wanted and there are any. -/
def checkText (disk : Disk) (path : Path) (formatter : Formatter) (text : String)
    (inlineEdit : Bool) : Disk × Noted Report :=
  let first := formatter.format path text
  match first.outcome with
  | .error fault => (disk, ⟨.error fault, first.notices⟩)
  | .ok result =>
    if inlineEdit && result.changed then
      match disk.writeText path result.updated with
      | .error fault => (disk, ⟨.error fault, first.notices⟩)
      | .ok (.error error) =>
        (disk, ⟨.ok (reportOf path result (some error.message)), first.notices⟩)
      | .ok (.ok disk) =>
        let second := formatter.format path result.updated
        (disk,
          ⟨second.outcome.map fun again =>
              { path, violations := result.violations, remaining := again.violations
                changed := true, written := true },
            first.notices ++ .wrote path :: second.notices⟩)
    else (disk, ⟨.ok (reportOf path result), first.notices⟩)

/-- Checks a file. Files in other languages and directories are passed over. -/
def checkOne (checker : Checker) (disk : Disk) (path : Path) (inlineEdit : Bool) :
    Disk × Noted (Option Report) :=
  match checker.formatter? path with
  | none => (disk, ⟨.ok none, [.unsupportedFile path]⟩)
  | some formatter =>
    match disk.readText path with
    | .error fault => (disk, ⟨.error fault, []⟩)
    | .ok (.error error) =>
      match error.describe with
      | none => (disk, ⟨.ok none, [.directorySkipped path]⟩)
      | some message => (disk, ⟨.ok (some { path, error := some message }), []⟩)
    | .ok (.ok text) =>
      let (disk, report) := checkText disk path formatter text inlineEdit
      (disk, ⟨report.outcome.map some, report.notices⟩)

/-- Goes on with other files after the check of one, unless a fault has stopped it. -/
def goOn (first : Disk × Noted (Option Report)) (rest : Disk → Disk × Noted (List Report)) :
    Disk × Noted (List Report) :=
  match first.2.outcome with
  | .error fault => (first.1, ⟨.error fault, first.2.notices⟩)
  | .ok report =>
    let (disk, others) := rest first.1
    (disk, ⟨others.outcome.map (report.toList ++ ·), first.2.notices ++ others.notices⟩)

/-- Checks files one after another; a fault ends the check. -/
def checkEach (checker : Checker) (disk : Disk) (inlineEdit : Bool) :
    List Path → Disk × Noted (List Report)
  | [] => (disk, ⟨.ok [], []⟩)
  | path :: rest =>
    goOn (checker.checkOne disk path inlineEdit) fun disk => checkEach checker disk inlineEdit rest

end Checker

/-- Checks the files that arguments stand for. -/
def checkArguments (disk : Disk) (arguments : List String) (config : Config)
    (modules : Token.Modules) (grammar : Token.Grammar) (inlineEdit : Bool) :
    Disk × Noted Summary :=
  let built := Checker.build config modules grammar
  match built.outcome with
  | .error fault => (disk, ⟨.error fault, built.notices⟩)
  | .ok checker =>
    match disk.selectPaths arguments with
    | .error fault => (disk, ⟨.error fault, built.notices⟩)
    | .ok paths =>
      let (disk, reports) := checker.checkEach disk inlineEdit paths
      (disk,
        ⟨reports.outcome.map Summary.mk,
          built.notices ++ .checking paths.length :: reports.notices⟩)

end LineRules
