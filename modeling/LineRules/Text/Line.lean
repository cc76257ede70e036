/-!
# Lines

A text is cut into lines at carriage return, line feed, or the two together; each
line keeps its ending. Other separators, such as form feeds, belong to the line.

A remark (such as a module's documentation) is cut at every line boundary that
Unicode knows; only its first line is ever shown.
-/

namespace LineRules.Text

/-- A line of a text: what it holds and the terminator that ends it, empty for an
unterminated last line. -/
structure Line where
  content : List Char
  ending : List Char
deriving Repr, DecidableEq

namespace Line

/-- The line as it stands in the text. -/
def chars (line : Line) : List Char :=
  line.content ++ line.ending

end Line

/-- Cuts a text into lines; `content` is the line being read, reversed. -/
def linesFrom (content : List Char) : List Char → List Line
  | [] => if content.isEmpty then [] else [⟨content.reverse, []⟩]
  | '\r' :: '\n' :: rest => ⟨content.reverse, ['\r', '\n']⟩ :: linesFrom [] rest
  | '\r' :: rest => ⟨content.reverse, ['\r']⟩ :: linesFrom [] rest
  | '\n' :: rest => ⟨content.reverse, ['\n']⟩ :: linesFrom [] rest
  | c :: rest => linesFrom (c :: content) rest

/-- The lines of a text with their endings. -/
def linesOf (text : List Char) : List Line :=
  linesFrom [] text

/-- Cutting on from a line being read loses nothing. -/
theorem flatMap_chars_linesFrom (content text : List Char) :
    (linesFrom content text).flatMap Line.chars = content.reverse ++ text := by
  fun_induction linesFrom content text with
  | case1 content empty => simp [List.isEmpty_iff.mp empty]
  | case2 content nonempty => simp [Line.chars]
  | case3 content rest hyp => simp [Line.chars, hyp]
  | case4 content rest _ hyp => simp [Line.chars, hyp]
  | case5 content rest hyp => simp [Line.chars, hyp]
  | case6 content c rest _ _ _ hyp => simp [hyp]

/-- The lines of a text with their endings make up the text. -/
theorem flatMap_chars_linesOf (text : List Char) :
    (linesOf text).flatMap Line.chars = text := by
  simp [linesOf, flatMap_chars_linesFrom]

/-- A text read with every line terminator as a line feed. -/
def unifyNewlines : List Char → List Char
  | [] => []
  | '\r' :: '\n' :: rest => '\n' :: unifyNewlines rest
  | '\r' :: rest => '\n' :: unifyNewlines rest
  | c :: rest => c :: unifyNewlines rest

/-- The characters that end a line of a remark. -/
def isLineBoundary (c : Char) : Bool :=
  let code := c.toNat
  (0x0A ≤ code && code ≤ 0x0D) || (0x1C ≤ code && code ≤ 0x1E) || code == 0x85
    || code == 0x2028 || code == 0x2029

/-- The first line of a remark. -/
def firstLine (text : List Char) : List Char :=
  text.takeWhile fun c => !isLineBoundary c

end LineRules.Text
