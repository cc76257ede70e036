import LineRules.Pattern.Matching
import LineRules.Pattern.Parser

/-!
# Replacement templates

A template is text with references to captured groups. A template without a backslash
stands for itself; in any other one, escapes name groups or characters.
-/

namespace LineRules.Pattern

open LineRules.Text

/-- A piece of a template. -/
inductive Piece where
  | literal (text : List Char)
  | group (index : Nat)
deriving Repr, DecidableEq

namespace Piece

/-- What a piece stands for in a match; a group without a capture stands for the empty
text. -/
def expand (found : Match) : Piece → List Char
  | literal text => text
  | group index => found.group index

end Piece

/-- The groups of the pattern that a template is for. -/
structure GroupNames where
  count : Nat
  names : List (List Char × Nat)

/-- A reference to a group, refused if the pattern has fewer groups. `offset` is the
distance back to the place that is blamed. -/
def templateGroup (groups : GroupNames) (scanner : Scanner) (index offset : Nat) :
    Except PatternError Piece :=
  if groups.count < index then scanner.refuse (.invalidReference index) offset
  else .ok (.group index)

/-- Reads a group in angle brackets. -/
def readTemplateName (groups : GroupNames) (scanner : Scanner) :
    Except PatternError (Piece × Scanner) := do
  let (opens, scanner) ← scanner.accept '<'
  if !opens then scanner.refuse (.missing "<")
  else
    let (name, scanner) ← scanner.name '>' "group name"
    if isIdentifier name then
      match groups.names.lookup name with
      | some index =>
        let piece ← templateGroup groups scanner index (name.length + 1)
        return (piece, scanner)
      | none => throw (.noSuchGroup name)
    else
      match readInteger? name with
      | some (.ofNat index) =>
        let piece ← templateGroup groups scanner index (name.length + 1)
        return (piece, scanner)
      | _ => scanner.refuse (.badGroupName name) (name.length + 1)

/-- Reads the digits of a group number or octal escape that begins with `c`. -/
def readTemplateDigits (groups : GroupNames) (scanner : Scanner) (c : Char) :
    Except PatternError (Piece × Scanner) := do
  match scanner.seesAny Char.isDigit with
  | none => return (← templateGroup groups scanner (numberIn 10 [c]) 1, scanner)
  | some d =>
    let scanner ← scanner.advance
    match scanner.seesAny isOctalDigit with
    | some e =>
      if isOctalDigit c && isOctalDigit d then
        let scanner ← scanner.advance
        let code := numberIn 8 [c, d, e]
        if 0o377 < code then scanner.refuse (.octalTooLarge ['\\', c, d, e]) 4
        else return (.literal [Char.ofNat code], scanner)
      else return (← templateGroup groups scanner (numberIn 10 [c, d]) 2, scanner)
    | none => return (← templateGroup groups scanner (numberIn 10 [c, d]) 2, scanner)

/-- Reads an escape of a template; `c` follows the backslash. -/
def readTemplateEscape (groups : GroupNames) (scanner : Scanner) (c : Char) :
    Except PatternError (Piece × Scanner) := do
  if c == 'g' then readTemplateName groups scanner
  else if c == '0' then
    let (digits, scanner) ← scanner.readWhile isOctalDigit 2
    return (.literal [Char.ofNat (numberIn 8 digits)], scanner)
  else if c.isDigit then readTemplateDigits groups scanner c
  else
    match controlEscape? c with
    | some code => return (.literal [Char.ofNat code], scanner)
    | none =>
      if c.isAlpha then scanner.refuse (.badEscape ['\\', c]) 2
      else return (.literal ['\\', c], scanner)

/-- Reads the pieces of a template to its end. -/
def readPieces (groups : GroupNames) : (fuel : Nat) → Scanner → Except PatternError (List Piece)
  | 0, scanner => scanner.refuse .outOfSteps
  | fuel + 1, scanner =>
    match scanner.next with
    | none => .ok []
    | some (.plain c) => do
      let pieces ← readPieces groups fuel (← scanner.advance)
      return .literal [c] :: pieces
    | some (.escaped c) => do
      let (piece, scanner) ← readTemplateEscape groups (← scanner.advance) c
      let pieces ← readPieces groups fuel scanner
      return piece :: pieces

/-- Reads a template. -/
def readTemplate (groups : GroupNames) (text : List Char) :
    Except PatternError (List Piece) := do
  if text.contains '\\' then
    readPieces groups (text.length + 1) (← Scanner.ofText text)
  else return [.literal text]

end LineRules.Pattern
