import LineRules.Proofs.Format.Changes
import LineRules.Proofs.RuleSet.Turns

/-!
# Which rules violations come from

A violation in a line comes from one rule that had its turn there, and its identifier names this
rule and the reference that led to it. Formatting reports line by line, under each line in the
order of the plan, and under each reference in the order of its rules; no rule reports twice from
one site. What the token rules find comes last (`Formatter.format_attributes`).
-/

namespace LineRules.Format

open LineRules.Text

/-- A site that a violation can come from: a line, a reference in the plan of the line, and a rule
among the entries that the reference leads to. -/
structure Site where
  line : Nat
  ref : Nat
  entry : Nat
deriving Repr, DecidableEq

namespace Site

/-- The order of sites: by the line, then by the reference, then by the rule. -/
def Before (site later : Site) : Prop :=
  site.line < later.line ∨ site.line = later.line ∧
    (site.ref < later.ref ∨ site.ref = later.ref ∧ site.entry < later.entry)

end Site

namespace Formatter

variable {formatter : Formatter} {path : Path} {shebang : Bool} {number : Nat}
  {line : List Char} {refs : List String}

/-- The work on a line at its start. -/
def startLine (formatter : Formatter) (shebang : Bool) (number : Nat) (line : List Char) : Run where
  context := Context.ofLine (String.ofList line) number shebang formatter.customIgnore

/-- The turns on a line. -/
def lineTurns (formatter : Formatter) (shebang : Bool) (number : Nat) (line : List Char)
    (refs : List String) : List Turn :=
  formatter.store.turns {} 0 (refs.map .named) (formatter.startLine shebang number line)

/-- The violations in a line, with the sites that they come from. -/
def lineMarks (formatter : Formatter) (path : Path) (shebang : Bool) (number : Nat)
    (line : List Char) (refs : List String) : List (Site × Violation) :=
  (formatter.lineTurns shebang number line refs).flatMap fun turn =>
    (turn.noted {}).map fun entry => (⟨number, turn.ref, turn.entry⟩, violationOf path entry)

/-- The violations in planned lines, with the sites that they come from. -/
def marks (formatter : Formatter) (path : Path) (shebang : Bool) :
    Nat → List (Line × List String) → List (Site × Violation)
  | _, [] => []
  | number, (line, refs) :: rest =>
    formatter.lineMarks path shebang number line.content refs ++
      marks formatter path shebang (number + 1) rest

end Formatter

end LineRules.Format
