import LineRules.Fault
import LineRules.Path
import LineRules.Token.Tree
import LineRules.Value

/-!
# Token rules

A token rule checks a whole file by its syntax tree. Three rules are built in: names of
caught errors, several variables in one declaration, and the keyword `var`.
-/

namespace LineRules.Token

open LineRules.Text

/-- What a token rule found, by line and column counted from one. -/
structure Finding where
  line : Int
  column : Int
  message : String
deriving Repr, DecidableEq

/-- What a token rule is run on. -/
structure Subject where
  path : Path
  text : String
  tree : Option SyntaxNode
  options : Keyed Value := []

namespace Subject

/-- The bytes of the file. -/
def source (context : Subject) : List UInt8 :=
  Utf8.encode context.text.toList

end Subject

/-- A check of a file by its syntax tree. -/
abbrev Check := Subject → Except Fault (List Finding)

/-- A token rule. -/
structure TokenRule where
  id : String
  description : String
  check : Check

/-- A finding at the start of a node. -/
def Finding.ofNode (node : SyntaxNode) (message : String) : Finding :=
  ⟨node.start.1 + 1, node.start.2 + 1, message⟩

/-- The name that caught errors get unless the options name another. -/
def defaultCatchName : String := "err"

/-- Caught errors whose name is not the expected one. -/
def catchNameFindings (expected : String) (source : List UInt8) (root : SyntaxNode) :
    List Finding :=
  root.nodes.filterMap fun (node, _) =>
    if node.isKind "catch_clause" then
      match node.childrenOfKind "identifier" with
      | [] => none
      | identifier :: _ =>
        let name := String.ofList (identifier.text source)
        if name ≠ expected then
          some (Finding.ofNode identifier
            ("Catch statement param should be \"" ++ expected ++ "\", not \"" ++ name ++ "\""))
        else none
    else none

/-- Caught errors get a fixed name. -/
def catchArgName : TokenRule where
  id := "csf-catch-arg-name"
  description := "Require the parameter of a `catch` clause to be named `err`."
  check context :=
    match context.tree with
    | none => .ok []
    | some root =>
      match context.options.get? "name" with
      | some value =>
        if value.hasLongNumber then .error .numberTooLong
        else .ok (catchNameFindings value.shown context.source root)
      | none => .ok (catchNameFindings defaultCatchName context.source root)

/-- Whether a node declares variables. -/
def isDeclaration (node : SyntaxNode) : Bool :=
  node.isKind "variable_declaration" || node.isKind "lexical_declaration"

/-- Whether a node is a loop with a head of its own. -/
def isLoop (node : SyntaxNode) : Bool :=
  node.isKind "for_statement" || node.isKind "for_in_statement"

/-- Declarations of several variables outside of the heads of loops. -/
def multipleVarsFindings (root : SyntaxNode) : List Finding :=
  root.nodes.filterMap fun (node, parent) =>
    if isDeclaration node && !parent.any isLoop
        && 1 < (node.childrenOfKind "variable_declarator").length then
      some (Finding.ofNode node "Each variable should have its own declaration")
    else none

/-- Every variable gets a declaration of its own. -/
def noMultipleVars : TokenRule where
  id := "csf-no-multiple-vars"
  description := "Disallow declaring more than one variable per declaration statement."
  check context := .ok ((context.tree.map multipleVarsFindings).getD [])

/-- Declarations with `var`. -/
def varFindings (root : SyntaxNode) : List Finding :=
  root.nodes.filterMap fun (node, _) =>
    if node.isKind "variable_declaration" then
      some (Finding.ofNode node "Use let or const instead of var")
    else none

/-- Variables are declared with newer keywords. -/
def noVar : TokenRule where
  id := "csf-no-var"
  description := "Prefer `let`/`const` over `var` once ES2015 syntax is enabled."
  check context := .ok ((context.tree.map varFindings).getD [])

/-- The built-in token rules, in the order of their ids. -/
def builtinRules : List TokenRule := [catchArgName, noMultipleVars, noVar]

end LineRules.Token
