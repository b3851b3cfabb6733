/-
Module: Synopsis.Reading.Operators
Purpose: Operators, precedence groups and imports.
Main exports:
  OperatorDeclaration.ofNode, Precedence, PrecedenceGroup.ofNode, importPath,
  ModuleImport.ofNode
-/
import Synopsis.Reading.Elements

namespace Synopsis

/-! ### Operators -/

/-- Decorators of an operator declaration, with a fixity that stands outside the modifier list. -/
def operatorDecorators (source : String) (node : Node) : Decorators :=
  (Decorators.ofNode source node).withToken (node.firstToken? Fixity.allWords)

/-- The fixity that the first modifier with a fixity's name spells. -/
def Decorators.fixity? (decorators : Decorators) : Option Fixity :=
  decorators.modifiers.findSome? fun modifier => Fixity.ofWord? modifier.name

/-- Read an operator declaration node.  A missing fixity is reported before a missing name. -/
def OperatorDeclaration.ofNode (source : String) (node : Node) :
    Except Fault OperatorDeclaration := do
  let decorators := operatorDecorators source node
  let fixity ←
    match decorators.fixity? with
    | some fixity => .ok fixity
    | none => .error (.noFixity node.kind)
  let name ← requireName node "operator"
    ((node.childAfter? "operator").bind (Node.text? source))
  .ok
    { decorators with
      keyword := "operator",
      name,
      fixity,
      precedenceGroup := (node.namedAfter? ":").bind (Node.text? source) }

/-! ### Precedence groups -/

/-- What the entries of a precedence group say. -/
structure Precedence where
  higherThan : List String
  lowerThan : List String
  associativity : Option Associativity
  assignment : Option Bool
deriving DecidableEq, Repr

namespace Precedence

/-- A precedence group without entries. -/
def unspecified : Precedence :=
  { higherThan := [], lowerThan := [], associativity := none, assignment := none }

/-- Take one entry, a key and its values, into account.  Neighbours add up; for associativity and
assignment the entry replaces what was said before. -/
def add (precedence : Precedence) (entry : List String) : Precedence :=
  match entry with
  | "higherThan" :: values =>
      { precedence with higherThan := precedence.higherThan ++ values }
  | "lowerThan" :: values =>
      { precedence with lowerThan := precedence.lowerThan ++ values }
  | "associativity" :: values =>
      { precedence with associativity := values.head?.bind Associativity.ofWord? }
  | "assignment" :: values =>
      { precedence with assignment := values.head?.map (· == "true") }
  | _ => precedence

end Precedence

/-- The entries of a precedence group node, each as the texts of its named children. -/
def precedenceEntries (source : String) (node : Node) : List (List String) :=
  match node.childOfKind? "precedence_group_attributes" with
  | none => []
  | some list =>
      (list.childrenOfKind "precedence_group_attribute").map fun entry =>
        entry.namedChildren.filterMap (Node.text? source)

/-- Read a precedence group node. -/
def PrecedenceGroup.ofNode (source : String) (node : Node) : Except Fault PrecedenceGroup := do
  let name ← requireName node "precedence group"
    ((node.childOfKind? "simple_identifier").bind (Node.text? source))
  let precedence := (precedenceEntries source node).foldl Precedence.add Precedence.unspecified
  .ok
    { Decorators.ofNode source node with
      keyword := "precedencegroup",
      name,
      higherThan := precedence.higherThan,
      lowerThan := precedence.lowerThan,
      associativity := precedence.associativity,
      assignment := precedence.assignment }

/-! ### Imports -/

/-- Tokens that say what an import takes from a module. -/
def importKinds : List String :=
  ["typealias", "struct", "class", "enum", "protocol", "let", "var", "func"]

/-- The path components that one child of an import node contributes.  A dotted identifier without
readable parts counts as a whole. -/
def importComponents (source : String) (child : Node) : List String :=
  if child.kind == "identifier" then
    let parts := (child.childrenOfKind "simple_identifier").filterMap (Node.text? source)
    if parts.isEmpty then (child.text? source).toList else parts
  else if child.kind == "simple_identifier" then (child.text? source).toList
  else []

/-- The module path of an import node. -/
def importPath (source : String) (node : Node) : List String :=
  node.children.flatMap (importComponents source)

/-- Read an import node. -/
def ModuleImport.ofNode (source : String) (node : Node) : Except Fault ModuleImport :=
  let path := importPath source node
  if path.isEmpty then .error (.noModulePath node.kind)
  else
    .ok
      { Decorators.ofNode source node with
        keyword := "import",
        name := String.intercalate "." path,
        importKind := node.firstToken? importKinds,
        pathComponents := path }

end Synopsis
