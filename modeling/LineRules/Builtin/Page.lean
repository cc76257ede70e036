import LineRules.Pattern.Build
import LineRules.RuleSet.Basic

/-!
# Rules for pages

The order of class names and the slash in tags of void elements. Lines with directives
of server-side templates are left alone, because their values cannot be told.
-/

namespace LineRules.Builtin

open LineRules.Pattern LineRules.Pattern.Node LineRules.Text

/-- Directives of server-side templates. -/
def templateDirective : Pattern where
  source := "<%|\\$\\\x7b|<#|\\\x7b\\\x7b"
  ignoreCase := false
  node := words ["<%", "$\x7b", "<#", "\x7b\x7b"]
  groups := 0
  names := []

/-- A class attribute in double quotes. -/
def classAttribute : Pattern where
  source := "\\bclass=\"([^\"]*)\""
  ignoreCase := false
  node := sequence ([boundary] ++ "class=\"".toList.map lit ++
    [group 1 (star (noneOf [.ofChar '"'])), lit '"'])
  groups := 1
  names := []

/-- A void element whose tag closes itself. -/
def selfClosedVoid : Pattern where
  source := "<(br|hr|img|input|link|meta)\\b([^>]*?)\\s*/>"
  ignoreCase := false
  node := sequence
    [lit '<', group 1 (words ["br", "hr", "img", "input", "link", "meta"]), boundary,
      group 2 (iterate .lazy 0 none (noneOf [.ofChar '>'])), star blank, lit '/', lit '>']
  groups := 2
  names := []

/-- The order of names by code points. -/
def nameLe (a b : List Char) : Bool :=
  !(b.map Char.toNat < a.map Char.toNat : Bool)

/-- Class names in order, one space apart. -/
def orderNames (value : List Char) : List Char :=
  [' '].intercalate ((Text.words value).mergeSort nameLe)

/-- The first class attribute whose names are out of order or not one space apart. -/
def testClassNames : TestCallback := fun item regex _ =>
  match regex with
  | none => .error (.missingMember Value.null.kindName "finditer")
  | some pattern => do
    let text ← item.asText
    match (pattern.findAll text).find? fun found =>
        orderNames (found.group 1) ≠ found.group 1 with
    | some found => return .found found
    | none => return .value .null

/-- The message for an attribute shows its value and the value in order. -/
def classNamesMessage : MessageCallback := fun lineNumber _ evidence _ =>
  match evidence with
  | .found found =>
    let value := found.group 1
    .ok (.text ("Line " ++ toString lineNumber ++ ": Sort attribute values: \""
      ++ String.ofList value ++ "\" should be \"" ++ String.ofList (orderNames value)
      ++ "\""))
  | .value _ => .ok .null

/-- Puts the names of all class attributes in order. -/
def orderClassNames : ReplaceCallback := fun fullItem _ regex _ =>
  match regex with
  | none => .error .patternMissing
  | some pattern => do
    let text ← fullItem.asText
    let replaced := pattern.replaceBy (fun found =>
      "class=\"".toList ++ orderNames (found.group 1) ++ ['"']) text
    return .text (String.ofList replaced)

/-- The rules for pages; code inside blocks of scripts and styles gets the rules of its
own language. -/
def pageRules : RuleSet :=
  [(ignoreName, .pattern templateDirective),
    ("sorted_class_names", .rule {
      regex := some classAttribute
      test := .callback testClassNames
      message := .callback classNamesMessage
      replacer := some (.callback orderClassNames) }),
    ("self_closing_void_tag", .rule {
      regex := some selfClosedVoid
      message := .template "Line \x7b0\x7d: Void elements should not be self-closed"
      replacer := some (.template "<\\1\\2>") }),
    ("script", .value (.text "js")),
    ("style", .value (.text "css"))]

end LineRules.Builtin
