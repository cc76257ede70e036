import LineRules.Pattern.Build
import LineRules.RuleSet.Basic

/-!
# Rules for style sheets

Hex colours in the values of declarations, the space after a property's colon, and
units of zero lengths. Lengths inside mathematical functions need their units, so those
are left alone.
-/

namespace LineRules.Builtin

open LineRules.Pattern LineRules.Pattern.Node LineRules.Text

/-- A declaration: the property with its colon, and the value up to a semicolon, a brace
or the end of the line. Lines of selectors do not match, so ids keep their case. -/
def declaration : Pattern where
  source :=
    "(?<![\\w#.:-])([a-z-]+\\s*:)([^;\x7b\x7d]*)(?<!,)(?=[;\x7d]|$)"
  ignoreCase := true
  node := sequence
    [behind false 1 (oneOf [.anyWord, .ofChar '#', .ofChar '.', .ofChar ':', .ofChar '-'] .folded),
      group 1 (sequence
        [plus (oneOf [.chars 'a' 'z', .ofChar '-'] .folded), star (blank .folded),
          lit ':' .folded]),
      group 2 (star (noneOf [.ofChar ';', .ofChar '\x7b', .ofChar '\x7d'] .folded)),
      behind false 1 (lit ',' .folded),
      ahead true (choice [oneOf [.ofChar ';', .ofChar '\x7d'] .folded, lineEnd])]
  groups := 2
  names := []

/-- The name of a mathematical function at the end of a text. -/
def mathFunction : Pattern where
  source := "\\b(?:calc|min|max|clamp)\\s*$"
  ignoreCase := true
  node := sequence
    [boundary, words ["calc", "min", "max", "clamp"] .folded, star (blank .folded), lineEnd]
  groups := 0
  names := []

/-- Lines of comments. -/
def styleComment : Pattern where
  source := "^\\s*(?:/\\*|\\*|//)"
  ignoreCase := false
  node := sequence [textStart, star blank, words ["/*", "*", "//"]]
  groups := 0
  names := []

/-- The items of a hexadecimal digit. -/
def hexItems : List ClassItem := [.chars '0' '9', .chars 'A' 'F', .chars 'a' 'f']

/-- A hex colour with a digit in lower case. -/
def lowerHex : Pattern where
  source := "(?<!\\()#(?=[0-9A-Fa-f]*[a-f])[0-9A-Fa-f]\x7b3,8\x7d\\b"
  ignoreCase := false
  node := sequence
    [behind false 1 (lit '('), lit '#',
      ahead true (sequence [star (oneOf hexItems), oneOf [.chars 'a' 'f']]),
      iterate .greedy 3 (some 8) (oneOf hexItems), boundary]
  groups := 0
  names := []

/-- A hex colour that three digits can write. -/
def doubledHex : Pattern where
  source := "(?<!\\()#([0-9A-F])\\1([0-9A-F])\\2([0-9A-F])\\3\\b"
  ignoreCase := false
  node :=
    let digit := oneOf [.chars '0' '9', .chars 'A' 'F']
    sequence
      [behind false 1 (lit '('), lit '#', group 1 digit, backref 1 .exact, group 2 digit,
        backref 2 .exact, group 3 digit, backref 3 .exact, boundary]
  groups := 3
  names := []

/-- A property at the start of a line with no space after its colon. -/
def tightColon : Pattern where
  source := "^(\\s*[a-z-]+):(?=[^\\s:])(?=[^;\x7b]*;\\s*$)"
  ignoreCase := false
  node := sequence
    [textStart, group 1 (sequence [star blank, plus (oneOf [.chars 'a' 'z', .ofChar '-'])]),
      lit ':', ahead true (noneOf [.anyBlank, .ofChar ':']),
      ahead true (sequence
        [star (noneOf [.ofChar ';', .ofChar '\x7b']), lit ';', star blank, lineEnd])]
  groups := 1
  names := []

/-- A zero with a unit of length. -/
def zeroUnit : Pattern where
  source := "(?<![\\w.#-])0(?:px|em|rem|pt|ex|ch|vh|vw)\\b"
  ignoreCase := false
  node := sequence
    [behind false 1 (oneOf [.anyWord, .ofChar '.', .ofChar '#', .ofChar '-']), lit '0',
      words ["px", "em", "rem", "pt", "ex", "ch", "vh", "vw"], boundary]
  groups := 0
  names := []

/-- The pattern of a rule that is known to have one. -/
def requireOwn (regex : Option Pattern) : Except Fault Pattern :=
  match regex with
  | some pattern => .ok pattern
  | none => .error .patternMissing

/-- The first match of the rule's pattern in the value of a declaration. -/
def testDeclarationValues : TestCallback := fun item regex _ => do
  let pattern ← requireOwn regex
  let text ← item.asText
  match (declaration.findAll text).findSome? fun found => pattern.search? (found.group 2) with
  | some found => return .found found
  | none => return .value .null

/-- Changes the values of all declarations of a line. -/
def mapDeclarationValues (change : List Char → List Char) (text : List Char) : List Char :=
  declaration.replaceBy (fun found => found.group 1 ++ change (found.group 2)) text

/-- Puts hex colours into upper case. -/
def writeHexUpper : ReplaceCallback := fun fullItem _ regex _ => do
  let pattern ← requireOwn regex
  let text ← fullItem.asText
  let change := pattern.replaceBy fun found => upper found.text
  return .text (String.ofList (mapDeclarationValues change text))

/-- Writes hex colours of three doubled digits with three digits. -/
def writeHexShort : ReplaceCallback := fun fullItem _ regex _ => do
  let pattern ← requireOwn regex
  let text ← fullItem.asText
  let change := pattern.replaceBy fun found =>
    '#' :: found.group 1 ++ found.group 2 ++ found.group 3
  return .text (String.ofList (mapDeclarationValues change text))

/-- The brackets still open after a text, innermost first; each is marked by whether a
mathematical function's name stands before it. `before` is the text so far, last
character first. -/
def openBrackets (before : List Char) (opened : List Bool) : List Char → List Bool
  | [] => opened
  | c :: rest =>
    let opened :=
      if c = '(' then mathFunction.matchesIn before.reverse :: opened
      else if c = ')' then opened.tail
      else opened
    openBrackets (c :: before) opened rest

/-- Whether the end of a text lies inside a call of a mathematical function, at any
depth. -/
def insideMathCall (text : List Char) : Bool :=
  (openBrackets [] [] text).any id

/-- The part of a text before a position; a negative position counts from the end. -/
def takeBefore (text : List Char) (position : Int) : List Char :=
  if 0 ≤ position then text.take position.toNat
  else text.take (text.length - position.natAbs)

/-- The first zero length outside of mathematical functions. -/
def testZeroUnits : TestCallback := fun item regex _ => do
  let pattern ← requireOwn regex
  let text ← item.asText
  match (pattern.findAll text).find? fun found => !insideMathCall found.start.before.reverse with
  | some found => return .found found
  | none => return .value .null

/-- Drops the units of zero lengths outside of mathematical functions. -/
def dropZeroUnits : ReplaceCallback := fun fullItem _ regex _ => do
  let pattern ← requireOwn regex
  let text ← fullItem.asText
  let replaced := pattern.replaceBy (fun found =>
    if insideMathCall found.start.before.reverse then found.text else ['0']) text
  return .text (String.ofList replaced)

/-- The rules for style sheets. -/
def styleRules : RuleSet :=
  [(ignoreName, .pattern styleComment),
    ("hex_uppercase", .rule {
      regex := some lowerHex
      test := .callback testDeclarationValues
      message := .template "Line \x7b0\x7d: Hex codes should be all uppercase"
      replacer := some (.callback writeHexUpper) }),
    ("hex_shorthand", .rule {
      regex := some doubledHex
      test := .callback testDeclarationValues
      message := .template "Line \x7b0\x7d: Hex code can be shortened"
      replacer := some (.callback writeHexShort) }),
    ("property_colon_spacing", .rule {
      regex := some tightColon
      message := .template "Line \x7b0\x7d: Missing space after property colon"
      replacer := some (.template "\\1: ") }),
    ("zero_units", .rule {
      regex := some zeroUnit
      test := .callback testZeroUnits
      message := .template "Line \x7b0\x7d: Zero values do not need units"
      replacer := some (.callback dropZeroUnits) })]

end LineRules.Builtin
