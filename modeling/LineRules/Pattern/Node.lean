import LineRules.Pattern.CharClass

/-!
# Patterns as trees

The tree of a pattern, with every flag already resolved into the places it acts on,
and the range of lengths of the texts that a tree can match.
-/

namespace LineRules.Pattern

/-- A condition on a place between characters. -/
inductive Anchor where
  /-- The start of the text. -/
  | textStart
  /-- The start of a line. -/
  | lineStart
  /-- The end of the text. -/
  | textEnd
  /-- The end of the text, or before a line feed that ends it. -/
  | lastLineEnd
  /-- The end of a line. -/
  | lineEnd
  /-- Between a word character and another place. -/
  | wordBoundary (ascii : Bool)
  /-- Inside or outside of words on both sides. -/
  | notWordBoundary (ascii : Bool)
deriving Repr, DecidableEq

/-- In which order the numbers of repetitions are tried. -/
inductive Appetite where
  /-- As many as possible first. -/
  | greedy
  /-- As few as possible first. -/
  | lazy
  /-- As many as possible, and no other number. -/
  | possessive
deriving Repr, DecidableEq

/-- A pattern. -/
inductive Node where
  /-- The empty text. -/
  | empty
  /-- One character of a class. -/
  | char (cls : CharClass)
  | anchor (place : Anchor)
  /-- One pattern after another. -/
  | cat (first second : Node)
  /-- Either pattern, the first one preferred. -/
  | alt (first second : Node)
  /-- A pattern whose text is captured under a number. -/
  | group (index : Nat) (body : Node)
  /-- The text captured under a number once more. -/
  | backref (index : Nat) (mode : CaseMode)
  /-- One pattern if something was captured under the number, else the other. -/
  | conditional (index : Nat) (present absent : Node)
  /-- A condition on the text that follows. -/
  | ahead (wanted : Bool) (body : Node)
  /-- A condition on the `width` characters that precede. -/
  | behind (wanted : Bool) (width : Nat) (body : Node)
  /-- A pattern of which only the first way to match counts. -/
  | atomic (body : Node)
  /-- A pattern at least `least` and at most `most` times. -/
  | iterate (appetite : Appetite) (least : Nat) (most : Option Nat) (body : Node)
deriving Repr, DecidableEq

namespace Node

/-- Several patterns one after another. -/
def sequence : List Node → Node
  | [] => empty
  | [node] => node
  | node :: rest => cat node (sequence rest)

/-- The first of several patterns that matches. -/
def choice : List Node → Node
  | [] => empty
  | [node] => node
  | node :: rest => alt node (choice rest)

/-- Counts of repetitions and lengths are kept below this bound. -/
def countLimit : Nat := 4294967295

/-- The least and greatest length of a text that a pattern matches, each capped at the
count limit. -/
structure Width where
  least : Nat
  greatest : Nat
deriving Repr, DecidableEq

namespace Width

/-- Caps a width. -/
def cap (width : Width) : Width :=
  ⟨min width.least (countLimit - 1), min width.greatest countLimit⟩

/-- The width of one pattern after another. -/
def add (a b : Width) : Width := cap ⟨a.least + b.least, a.greatest + b.greatest⟩

/-- The width of either of two patterns. -/
def join (a b : Width) : Width := ⟨min a.least b.least, max a.greatest b.greatest⟩

end Width

/-- The width of a pattern, given the widths of the groups that it refers to. -/
def width (groups : Nat → Width) : Node → Width
  | empty => ⟨0, 0⟩
  | char _ => ⟨1, 1⟩
  | anchor _ => ⟨0, 0⟩
  | cat first second => (width groups first).add (width groups second)
  | alt first second => (width groups first).join (width groups second)
  | group _ body => width groups body
  | backref index _ => groups index
  | conditional _ present absent => (width groups present).join (width groups absent)
  | ahead _ _ => ⟨0, 0⟩
  | behind _ _ _ => ⟨0, 0⟩
  | atomic body => width groups body
  | iterate _ least most body =>
    let inner := width groups body
    Width.cap ⟨inner.least * least, inner.greatest * most.getD countLimit⟩

end Node

end LineRules.Pattern
