/-
Module: Synopsis.Reading.Types
Purpose: Declarations of types: classes, structures, enumerations, protocols, extensions,
  associated types and type aliases.
Main exports:
  inheritanceOf, TypeDeclaration.ofNode, Enumeration.ofNode, Extension.ofNode,
  AssociatedType.ofNode, TypeAlias.ofNode
-/
import Synopsis.Reading.Elements
import Synopsis.Reading.Generics

namespace Synopsis

/-! ### Inheritance clauses -/

/-- Node kinds that end an inheritance clause. -/
def clauseEnds : List String :=
  ["class_body", "enum_class_body", "protocol_body", "type_constraints"]

/-- Node kinds that are entries of an inheritance clause. -/
def inheritedKinds : List String :=
  ["inheritance_specifier", "user_type", "type_identifier", "function_type",
   "protocol_composition_type", "suppressed_constraint"]

/-- The inherited types of a declaration node, between its colon and its body, in order. -/
def inheritanceOf (source : String) (node : Node) : List String :=
  let front := node.children.takeWhile (!Node.isToken "\x7b" ·)
  let clause := ((front.dropWhile (!Node.isToken ":" ·)).drop 1).takeWhile
    (!clauseEnds.contains ·.kind)
  (clause.filter (inheritedKinds.contains ·.kind)).filterMap fun entry =>
    (entry.text? source).filter (!·.isEmpty)

/-! ### Types -/

/-- Read a type declaration with a known keyword; `what` says what has to have a name. -/
def TypeDeclaration.ofNode (source keyword what : String) (decorators : Decorators)
    (node : Node) : Except Fault TypeDeclaration := do
  let name ← requireName node what (node.lookupText? source "name")
  .ok
    { decorators with
      keyword,
      name,
      inheritance := inheritanceOf source node,
      genericParameters := genericParametersOf source node,
      genericRequirements := genericRequirementsOf source node }

/-- Read a class, structure or extension node, whose keyword is in the tree unless the tree is
damaged. -/
def nominalType (source fallback : String) (node : Node) : Except Fault TypeDeclaration :=
  let keyword := (typeKeyword? source node).getD fallback
  TypeDeclaration.ofNode source keyword keyword (Decorators.ofNode source node) node

/-- Read a protocol node. -/
def protocolType (source : String) (node : Node) : Except Fault TypeDeclaration :=
  TypeDeclaration.ofNode source ((node.lookupText? source "declaration_kind").getD "protocol")
    "protocol" (Decorators.ofNode source node) node

/-- Read an extension node. -/
def Extension.ofNode (source : String) (node : Node) : Except Fault Extension := do
  let declaration ← nominalType source "extension" node
  .ok
    { declaration.toNamedHeading with
      inheritance := declaration.inheritance,
      genericRequirements := declaration.genericRequirements }

/-! ### Enumerations -/

/-- The body of an enumeration node. -/
def enumerationBody? (node : Node) : Option Node :=
  ((node.lookup? "body").or (node.childOfKind? "enum_class_body")).or
    (node.childOfKind? "class_body")

/-- The case declarations directly in the body of an enumeration node. -/
def enumerationEntries (node : Node) : List Node :=
  match enumerationBody? node with
  | none => []
  | some body => body.childrenOfKind "enum_entry"

/-- Read an enumeration node with the cases of its own body. -/
def Enumeration.ofNode (source : String) (node : Node) : Except Fault Enumeration := do
  let decorators :=
    (Decorators.ofNode source node).withToken (node.firstToken? ["indirect"])
  let declaration ← TypeDeclaration.ofNode source ((typeKeyword? source node).getD "enum")
    "enum" decorators node
  let cases ← (enumerationEntries node).mapM (EnumCase.ofEntry source)
  .ok { declaration with cases := cases.flatten }

/-! ### Associated types and aliases -/

/-- Read an associated type node. -/
def AssociatedType.ofNode (source : String) (node : Node) : Except Fault AssociatedType := do
  let name ← requireName node "associated type" (node.lookupText? source "name")
  let inherited := (node.lookupText? source "must_inherit").or
    ((node.namedAfter? ":").bind (Node.text? source))
  .ok
    { Decorators.ofNode source node with
      keyword := "associatedtype",
      name,
      inheritance := inherited.toList,
      genericRequirements := genericRequirementsOf source node,
      defaultType := (node.lookupText? source "default_value").or
        ((node.namedAfter? "=").bind (Node.text? source)) }

/-- Read a type alias node. -/
def TypeAlias.ofNode (source : String) (node : Node) : Except Fault TypeAlias := do
  let name ← requireName node "typealias" (node.lookupText? source "name")
  .ok
    { Decorators.ofNode source node with
      keyword := "typealias",
      name,
      genericParameters := genericParametersOf source node,
      initializedType := node.lookupText? source "value" }

end Synopsis
