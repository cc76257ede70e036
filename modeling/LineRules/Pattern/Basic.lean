import LineRules.Pattern.Parser
import LineRules.Pattern.Residue
import LineRules.Pattern.Template

/-!
# Compiled patterns

A pattern as rules hold it: its text, its tree, and its groups. Searching, listing all
matches, and replacing them by a function or a template.
-/

namespace LineRules

open LineRules.Pattern

/-- A compiled pattern. -/
structure Pattern where
  /-- The text that the pattern was written as. -/
  source : String
  /-- Whether the whole pattern disregards case. -/
  ignoreCase : Bool
  node : Node
  groups : Nat
  names : List (List Char × Nat)
  /-- Whether some condition asks for a group that is open where it stands. -/
  asksOpen : Bool := false
deriving Repr, DecidableEq

namespace Pattern

/-- Compiles a pattern text. -/
def compile (source : String) (ignoreCase : Bool := false) : Except PatternError Pattern := do
  let result ← readPattern { Flags.none with ignoreCase } source.toList
  return ⟨source, result.flags.ignoreCase, result.node, result.groups, result.names,
    result.asksOpen⟩

/-- How the pattern looks for a match at a place. -/
def matcher (pattern : Pattern) : Matcher :=
  if pattern.asksOpen then pattern.node.matchAtWithResidue else pattern.node.matchAt

/-- The leftmost match in a text. -/
def search? (pattern : Pattern) (text : List Char) : Option Match :=
  pattern.matcher.find? false (.ofText text)

/-- Whether the pattern matches somewhere in a text. -/
def matchesIn (pattern : Pattern) (text : List Char) : Bool :=
  (pattern.search? text).isSome

/-- All matches in a text, from left to right. -/
def findAll (pattern : Pattern) (text : List Char) : List Match :=
  pattern.matcher.findAll text

/-- The text with every match replaced. -/
def replaceBy (pattern : Pattern) (replacement : Match → List Char) (text : List Char) :
    List Char :=
  stitch replacement (.ofText text) (pattern.findAll text)

/-- Reads a template for the pattern. -/
def template (pattern : Pattern) (text : String) : Except PatternError (List Piece) :=
  readTemplate ⟨pattern.groups, pattern.names⟩ text.toList

/-- The text with its first `count` matches replaced by the template; a count of zero
means all of them and a negative one none. -/
def replacePieces (pattern : Pattern) (pieces : List Piece) (count : Int) (text : List Char) :
    List Char :=
  let found := pattern.findAll text
  let chosen := if count = 0 then found else found.take count.toNat
  stitch (fun found => pieces.flatMap (Piece.expand found)) (.ofText text) chosen

end Pattern

end LineRules
