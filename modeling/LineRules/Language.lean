import LineRules.Path

/-!
# Languages

The languages that files are checked as, told by the ending of a file's name.
-/

namespace LineRules

open LineRules.Text

/-- A supported language. -/
inductive Language where
  | javaScript
  | css
  | html
deriving Repr, DecidableEq

namespace Language

/-- The name of a language in answers. -/
def name : Language → String
  | javaScript => "javascript"
  | css => "css"
  | html => "html"

/-- The endings of file names in a language. -/
def suffixes : Language → List String
  | javaScript => [".js", ".jsx", ".mjs", ".cjs"]
  | css => [".css", ".scss", ".less"]
  | html => [".html", ".htm", ".jsp", ".jspf", ".vm", ".ftl"]

/-- All languages. -/
def all : List Language := [javaScript, css, html]

/-- The language of a file, by the ending of its name in lower case. -/
@[irreducible]
def ofPath? (path : Path) : Option Language :=
  let ending := String.ofList (lower path.suffix.toList)
  all.find? fun language => language.suffixes.contains ending

/-- The rule-sets that every line of a file gets, unless it is routed elsewhere. -/
def ruleSets : Language → List String
  | javaScript => ["common", "js"]
  | css => ["common", "css"]
  | html => ["common", "html"]

end Language

end LineRules
