import LineRules.Pattern.Basic

/-!
# Writing patterns as trees

Short forms for the trees of the built-in patterns, which are written beside their
texts so that nothing has to be read at run time.
-/

namespace LineRules.Pattern

namespace ClassItem

/-- A character. -/
def ofChar (c : Char) : ClassItem := one c.toNat

/-- The characters from one to another. -/
def chars (low high : Char) : ClassItem := range low.toNat high.toNat

/-- Word characters of all scripts. -/
def anyWord : ClassItem := word false false

/-- Blank characters of all scripts. -/
def anyBlank : ClassItem := blank false false

end ClassItem

namespace Node

/-- One character of a class. -/
def oneOf (items : List ClassItem) (mode : CaseMode := .exact) : Node :=
  char ⟨false, mode, items⟩

/-- One character outside of a class. -/
def noneOf (items : List ClassItem) (mode : CaseMode := .exact) : Node :=
  char ⟨true, mode, items⟩

/-- A character. -/
def lit (c : Char) (mode : CaseMode := .exact) : Node := oneOf [.ofChar c] mode

/-- A text. -/
def lits (text : String) (mode : CaseMode := .exact) : Node :=
  sequence (text.toList.map fun c => lit c mode)

/-- One of several texts. -/
def words (texts : List String) (mode : CaseMode := .exact) : Node :=
  choice (texts.map fun text => lits text mode)

/-- A blank character. -/
def blank (mode : CaseMode := .exact) : Node := oneOf [.anyBlank] mode

/-- Any number of times, as many as possible. -/
def star (body : Node) : Node := iterate .greedy 0 none body

/-- At least once, as often as possible. -/
def plus (body : Node) : Node := iterate .greedy 1 none body

/-- At most once, if possible. -/
def optional (body : Node) : Node := iterate .greedy 0 (some 1) body

/-- A word boundary. -/
def boundary : Node := anchor (.wordBoundary false)

/-- The start of the text. -/
def textStart : Node := anchor .textStart

/-- The end of the text, or before a line feed that ends it. -/
def lineEnd : Node := anchor .lastLineEnd

end Node

end LineRules.Pattern
