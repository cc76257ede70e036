import LineRules.Language
import LineRules.Pattern.Build
import LineRules.Fault

/-!
# Which rule-sets a line gets

Lines of scripts and styles get the rule-sets of their language. In a page, the lines
inside a block of script or style get the rule-sets of that block, from the line after
the opening tag up to the line before the closing one.
-/

namespace LineRules.Format

open LineRules.Pattern LineRules.Pattern.Node LineRules.Text

/-- A block of code in a page. -/
inductive Block where
  | script
  | style
deriving Repr, DecidableEq

namespace Block

/-- The name of a block's tags. -/
def tag : Block → String
  | script => "script"
  | style => "style"

/-- The block with tags of a name. -/
def ofTag? (name : String) : Option Block :=
  if name = "script" then some script else if name = "style" then some style else none

end Block

/-- An opening tag of a block. The two names share their first letter. -/
def openingTag : Pattern where
  source := "<(script|style)\\b([^>]*)>"
  ignoreCase := true
  node := sequence
    [lit '<' .folded,
      group 1 (sequence [lit 's' .folded, words ["cript", "tyle"] .folded]), boundary,
      group 2 (star (noneOf [.ofChar '>'] .folded)), lit '>' .folded]
  groups := 2
  names := []

/-- The closing tag of a block. -/
def closingTag (block : Block) : Pattern where
  source := "</" ++ block.tag ++ "\\s*>"
  ignoreCase := true
  node := sequence (("</" ++ block.tag).toList.map (fun c => lit c .folded) ++
    [star (blank .folded), lit '>' .folded])
  groups := 0
  names := []

/-- The attribute of a script that holds markup and no code. -/
def markupType : Pattern where
  source := "\\btype\\s*=\\s*[\"']?text/(?:template|html|x-[\\w-]*template)"
  ignoreCase := true
  node := sequence ([boundary] ++ "type".toList.map (fun c => lit c .folded) ++
    [star (blank .folded), lit '=' .folded, star (blank .folded),
      optional (oneOf [.ofChar '"', .ofChar '\''] .folded)] ++
    "text/".toList.map (fun c => lit c .folded) ++
    [choice
      [lits "template" .folded, lits "html" .folded,
        sequence ("x-".toList.map (fun c => lit c .folded) ++
          [star (oneOf [.anyWord, .ofChar '-'] .folded)] ++
          "template".toList.map (fun c => lit c .folded))]])
  groups := 0
  names := []

/-- The block that the last opening tag of a line opens, if it holds code. A tag name
that is one only up to the case of letters outside ASCII has no closing tag. -/
def blockOpened (line : List Char) : Except Fault (Option Block) :=
  match (openingTag.findAll line).getLast? with
  | none => .ok none
  | some found =>
    let name := String.ofList (lower (found.group 1))
    match Block.ofTag? name with
    | some .script =>
      if markupType.matchesIn (found.group 2) then .ok none else .ok (some .script)
    | some .style => .ok (some .style)
    | none => .error (.unknownBlock name)

/-- The rule-sets of the lines of a page, given the block that is open before them. -/
def planPage (block : Option Block) : List (List Char) → Except Fault (List (List String))
  | [] => .ok []
  | line :: rest =>
    match block with
    | some block =>
      if (closingTag block).matchesIn line then do
        let plan ← planPage none rest
        return Language.html.ruleSets :: plan
      else do
        let plan ← planPage (some block) rest
        return ["common", "html." ++ block.tag] :: plan
    | none => do
      let block ← match ← blockOpened line with
        | some opened => pure (if (closingTag opened).matchesIn line then none else some opened)
        | none => pure none
      let plan ← planPage block rest
      return Language.html.ruleSets :: plan

/-- The rule-sets of the lines of a file. -/
def plan (language : Language) (lines : List (List Char)) : Except Fault (List (List String)) :=
  match language with
  | .html => planPage none lines
  | language => .ok (lines.map fun _ => language.ruleSets)

end LineRules.Format
