/-
Module: Synopsis.Tree.Query
Purpose: Finding children by kind, by token and by field.
Main exports:
  Node.isComment, Node.isToken, Node.lookup?, Node.lookupText?, Node.childOfKind?,
  Node.childrenOfKind, Node.namedChildren, Node.firstToken?, Node.after, Node.namedAfter?,
  Node.childAfter?
-/
import Synopsis.Tree.Text

namespace Synopsis.Node

/-- Comments may stand between any two children. -/
def isComment (node : Node) : Bool :=
  node.kind == "comment" || node.kind == "multiline_comment"

/-- Whether the node is the token spelled `spelling`. -/
def isToken (spelling : String) (node : Node) : Bool :=
  !node.named && node.kind == spelling

/-- Whether the node is a named one that is no comment. -/
def isPart (node : Node) : Bool :=
  node.named && !node.isComment

/-- The child found by looking up a field. -/
def lookup? (name : String) (node : Node) : Option Node :=
  node.children.find? fun child => child.row.lookups.contains name

/-- The text of the child found by looking up a field, unless it is empty. -/
def lookupText? (source : String) (name : String) (node : Node) : Option String :=
  ((node.lookup? name).bind (text? source)).filter (!·.isEmpty)

/-- The first child of a kind. -/
def childOfKind? (kind : String) (node : Node) : Option Node :=
  node.children.find? (·.kind == kind)

/-- The children of a kind, in order. -/
def childrenOfKind (kind : String) (node : Node) : List Node :=
  node.children.filter (·.kind == kind)

/-- The named children, comments left out, in order. -/
def namedChildren (node : Node) : List Node :=
  node.children.filter isPart

/-- The spelling of the first token among the children that is one of the given ones. -/
def firstToken? (spellings : List String) (node : Node) : Option String :=
  (node.children.find? fun child => !child.named && spellings.contains child.kind).map kind

/-- Whether a token stands among the children. -/
def hasToken (spelling : String) (node : Node) : Bool :=
  node.children.any (isToken spelling)

/-- The children after the first occurrence of a token. -/
def after (spelling : String) (node : Node) : List Node :=
  (node.children.dropWhile (!isToken spelling ·)).drop 1

/-- The first named child after a token, comments left out. -/
def namedAfter? (spelling : String) (node : Node) : Option Node :=
  (node.after spelling).find? isPart

/-- The first child after a token, named or not, comments left out. -/
def childAfter? (spelling : String) (node : Node) : Option Node :=
  (node.after spelling).find? (!isComment ·)

end Synopsis.Node
