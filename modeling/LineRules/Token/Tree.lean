import LineRules.Text.Utf8

/-!
# Syntax trees

The trees that token rules look at. A node may lack its type, its place, or its
children. Places and byte ranges are passed through as the parser gives them.
-/

namespace LineRules.Token

/-- A node of a syntax tree. -/
inductive SyntaxNode where
  | mk (kind : Option String) (start : Option (Int × Int)) (bytes : Int × Int)
      (children : Option (List SyntaxNode))
deriving Repr, Inhabited

namespace SyntaxNode

/-- The type of a node. -/
def kind : SyntaxNode → Option String
  | mk kind _ _ _ => kind

/-- The row and column where a node starts, both counted from zero. -/
def start : SyntaxNode → Int × Int
  | mk _ start _ _ => start.getD (0, 0)

/-- The byte range of a node. -/
def bytes : SyntaxNode → Int × Int
  | mk _ _ bytes _ => bytes

/-- The children of a node; none if it lacks them. -/
def children : SyntaxNode → List SyntaxNode
  | mk _ _ _ children => children.getD []

/-- Whether a node has a type. -/
def isKind (node : SyntaxNode) (kind : String) : Bool := node.kind = some kind

/-- The children of a type. -/
def childrenOfKind (node : SyntaxNode) (kind : String) : List SyntaxNode :=
  node.children.filter (·.isKind kind)

/-- Nodes to visit, the next one first, each with its parent. -/
abbrev Pending := List (SyntaxNode × Option SyntaxNode)

/-- A stack with the children of a node pushed on it from the last to the first. -/
def push (node : SyntaxNode) (stack : Pending) : Pending :=
  node.children.reverse.foldl (fun stack child => (child, some node) :: stack) stack

/-- The nodes that come off a stack, where each one leaves its children on it. -/
def visit : Nat → Pending → Pending
  | 0, _ => []
  | _ + 1, [] => []
  | steps + 1, (node, parent) :: stack => (node, parent) :: visit steps (node.push stack)

mutual

/-- The number of nodes in a tree. -/
def size : SyntaxNode → Nat
  | mk _ _ _ none => 1
  | mk _ _ _ (some children) => 1 + sizes children

/-- The number of nodes in several trees. -/
def sizes : List SyntaxNode → Nat
  | [] => 0
  | tree :: rest => tree.size + sizes rest

end

/-- All nodes of a tree in the order of the document, each with its parent. No node comes off the
stack twice, so there are as many steps as nodes. -/
def nodes (root : SyntaxNode) : Pending := visit root.size [(root, none)]

end SyntaxNode

/-- The bound of a slice: a negative one counts from the end. -/
def sliceBound (length : Nat) (bound : Int) : Nat :=
  if 0 ≤ bound then min bound.toNat length else length - bound.natAbs

/-- The bytes between two bounds. -/
def sliceBytes (bytes : List UInt8) (start stop : Int) : List UInt8 :=
  let low := sliceBound bytes.length start
  let high := sliceBound bytes.length stop
  (bytes.drop low).take (high - low)

/-- The text of a node. -/
def SyntaxNode.text (node : SyntaxNode) (source : List UInt8) : List Char :=
  Text.Utf8.decodeLossy (sliceBytes source node.bytes.1 node.bytes.2)

end LineRules.Token
