/-
Module: Synopsis.Tree.Basic
Purpose: Syntax trees as values.
Main exports:
  Row, Node, Node.ofRows?, Node.preorder, Place, Node.places
-/
namespace Synopsis

/-- What one node of a syntax tree says about itself. -/
structure Row where
  /-- The grammar symbol. -/
  kind : String
  /-- Named nodes are grammar rules; the others are tokens spelled by their kind. -/
  named : Bool
  /-- The field a traversal reports for the node. -/
  field : Option String
  /-- First byte of the node in the UTF-8 encoding of the source. -/
  start : Nat
  /-- First byte after the node. -/
  stop : Nat
  /-- The fields under which looking up a child of the parent finds this node.  They need not
  agree with `field`. -/
  lookups : List String
deriving DecidableEq, Repr

/-- A syntax tree: a node and its children in source order. -/
inductive Node where
  | mk (row : Row) (children : List Node)

namespace Node

/-- The node's own row. -/
def row : Node → Row
  | mk row _ => row

/-- The children in source order. -/
def children : Node → List Node
  | mk _ children => children

/-- The grammar symbol of the node. -/
def kind (node : Node) : String :=
  node.row.kind

/-- Whether the node is a grammar rule rather than a token. -/
def named (node : Node) : Bool :=
  node.row.named

/-- The field a traversal reports for the node. -/
def field (node : Node) : Option String :=
  node.row.field

/-! ### Trees from rows

A tree is exchanged as its rows in pre-order, each with its depth.  Reading the rows from the last
to the first keeps a list of finished trees that still wait for a parent; a row takes those that
are deeper than itself as its children.
-/

/-- Put one row in front of the trees to its right. -/
def attach (entry : Nat × Row) (waiting : List (Nat × Node)) : List (Nat × Node) :=
  let deeper := waiting.takeWhile fun tree => entry.1 < tree.1
  let others := waiting.dropWhile fun tree => entry.1 < tree.1
  (entry.1, mk entry.2 (deeper.map (·.2))) :: others

/-- The tree whose rows in pre-order are given, if they form exactly one tree. -/
def ofRows? (rows : List (Nat × Row)) : Option Node :=
  match rows.foldr attach [] with
  | [(0, root)] => some root
  | _ => none

/-! ### Pre-order -/

mutual

/-- The number of nodes of a tree. -/
def weight : Node → Nat
  | mk _ children => weightAll children + 1

/-- The number of nodes of several trees. -/
def weightAll : List Node → Nat
  | [] => 0
  | node :: nodes => weight node + weightAll nodes

end

/-- A tree has one node more than all its children together. -/
theorem weight_eq (node : Node) : node.weight = weightAll node.children + 1 := by
  cases node with
  | mk row children => rfl

/-- The nodes of several trees are those of the first and those of the others. -/
theorem weightAll_cons (node : Node) (nodes : List Node) :
    weightAll (node :: nodes) = node.weight + weightAll nodes := by
  rw [weightAll]

/-- No tree is empty. -/
theorem weight_pos (node : Node) : 0 < node.weight := by
  rw [weight_eq]
  exact Nat.succ_pos _

mutual

/-- The node and everything below it, each node before its children. -/
def preorder : Node → List Node
  | mk row children => mk row children :: preorderAll children

/-- The nodes of several trees, tree after tree. -/
def preorderAll : List Node → List Node
  | [] => []
  | node :: nodes => preorder node ++ preorderAll nodes

end

end Node

/-- A node together with what surrounds it: its parent and the siblings that follow it. -/
structure Place where
  node : Node
  /-- The root of a tree has no parent. -/
  parent : Option Node
  /-- The siblings to the right, nearest first. -/
  following : List Node

namespace Node

/-- The children as places. -/
def childPlaces (parent : Node) : List Place :=
  go parent.children
where
  /-- The places of the given children of `parent`, each followed by the rest. -/
  go : List Node → List Place
    | [] => []
    | child :: rest => ⟨child, some parent, rest⟩ :: go rest

mutual

/-- The places of a tree in pre-order, for a root with the given surroundings. -/
def placesFrom (parent : Option Node) (following : List Node) : Node → List Place
  | mk row children =>
      ⟨mk row children, parent, following⟩ :: placesBelow (mk row children) children

/-- The places of some last children of `parent` and everything below them. -/
def placesBelow (parent : Node) : List Node → List Place
  | [] => []
  | child :: rest => placesFrom (some parent) rest child ++ placesBelow parent rest

end

/-- The places of a whole tree in pre-order. -/
def places (root : Node) : List Place :=
  placesFrom none [] root

end Node

end Synopsis
