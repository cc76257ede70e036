import LineRules.Pattern.Error
import LineRules.Pattern.Node

/-!
# Putting pattern trees together

How the parts of a pattern are joined while it is read. Alternatives share the parts
that all of them begin with, and alternatives of one character each become one class,
which is tried once. A group that only sets flags is kept apart from the parts around
it by an empty part in front.

Two questions about a finished tree are answered here too: which class a match has to
begin with, and why a tree that can be read cannot be used.
-/

namespace LineRules.Pattern

namespace Node

/-- The parts that a sequence joins. -/
def parts : Node → List Node
  | empty => []
  | cat first second => first :: parts second
  | node => [node]

/-- The body of a group that sets flags, marked off by an empty part. -/
def flagged (body : Node) : Node := cat empty body

/-- Whether a part is one that alternatives can share: a class, an anchor or a
reference. -/
def isShareable : Node → Bool
  | char _ => true
  | anchor _ => true
  | backref _ _ => true
  | _ => false

/-- The parts that a sequence and all other alternatives begin with. -/
def sharedParts : List Node → (others : List (List Node)) → List Node
  | [], _ => []
  | part :: rest, others =>
    if part.isShareable && others.all (·.head? == some part) then
      part :: sharedParts rest (others.map List.tail)
    else []

/-- The items and mode of an alternative that is one class and does not stand for all
other characters. -/
def plainClass? : List Node → Option CharClass
  | [char cls] => if cls.negated then none else some cls
  | _ => none

/-- Alternatives that share no part: one class if all of them are one, else tried in
order. -/
def distinctChoice (alternatives : List (List Node)) : Node :=
  match alternatives.mapM plainClass? with
  | some (cls :: rest) =>
    char { cls with items := (cls.items ++ rest.flatMap (·.items)).eraseDups }
  | _ => choice (alternatives.map sequence)

/-- One or more alternatives, given by their nodes. -/
def alternatives : List Node → Node
  | [] => empty
  | [node] => node
  | node :: rest =>
    let shared := sharedParts node.parts (rest.map parts)
    let remaining := (node :: rest).map fun other => other.parts.drop shared.length
    sequence (shared ++ [distinctChoice remaining])

end Node

namespace ClassItem

/-- The item with its named class taken from ASCII or from every script. -/
def rescoped (ascii : Bool) : ClassItem → ClassItem
  | digit negated _ => digit negated ascii
  | blank negated _ => blank negated ascii
  | word negated _ => word negated ascii
  | item => item

/-- Whether the item means the same where case counts. -/
def isUncased (mode : CaseMode) : ClassItem → Bool
  | one code => !mode.isCased code
  | range low high =>
    mode == .exact
      || (high < planeLimit
        && (List.range (high + 1 - low)).all fun step => !mode.isCased (low + step))
  | _ => true

end ClassItem

namespace Node

/-- The class of the first character of every match, if the tree begins with one. -/
def openingClass? : Node → Option CharClass
  | char cls => some cls
  | group _ body => openingClass? body
  | cat empty body => openingClass? body
  | cat first _ => openingClass? first
  | _ => none

/-- The tree with the condition that a match begins with a character of its opening
class as the flags of the whole pattern read that class, whatever flags a group sets
around it. Only named classes can differ, and a class that depends on case adds no
condition. -/
def withOpening (ascii : Bool) (node : Node) : Node :=
  match node.openingClass? with
  | some cls =>
    let opening : CharClass := ⟨cls.negated, .exact, cls.items.map (·.rescoped ascii)⟩
    if opening.items ≠ cls.items && cls.items.all (·.isUncased cls.mode) then
      cat (ahead true (char opening)) node
    else node
  | none => node

/-- Why a tree cannot be used, by the first part at fault: a look-behind without a fixed
width, or where repetitions are ruled out a repetition. -/
def refusal? (plainTemplate : Bool) (groups : Nat → Width) : Node → Option Complaint
  | cat first second =>
    (refusal? plainTemplate groups first).orElse fun _ =>
      refusal? plainTemplate groups second
  | alt first second =>
    (refusal? plainTemplate groups first).orElse fun _ =>
      refusal? plainTemplate groups second
  | group _ body => refusal? plainTemplate groups body
  | conditional _ present absent =>
    (refusal? plainTemplate groups present).orElse fun _ =>
      refusal? plainTemplate groups absent
  | ahead _ body => refusal? plainTemplate groups body
  | behind _ _ body =>
    let width := body.width groups
    if width.least = width.greatest then refusal? plainTemplate groups body
    else some .variableBehind
  | atomic body => refusal? plainTemplate groups body
  | iterate appetite _ _ body =>
    if plainTemplate then some (.repeatInTemplate appetite)
    else refusal? plainTemplate groups body
  | _ => none

end Node

end LineRules.Pattern
