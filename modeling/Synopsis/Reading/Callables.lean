/-
Module: Synopsis.Reading.Callables
Purpose: Functions, initializers, deinitializers and subscripts.
Main exports:
  returnType?, throwsKeyword?, Signature.ofNode, Function.ofNode, Initializer.ofNode,
  Deinitializer.ofNode, Subscript.ofNode
-/
import Synopsis.Reading.Elements
import Synopsis.Reading.Generics

namespace Synopsis

/-- Node kinds after an arrow that are no return type. -/
def arrowStops : List String :=
  ["function_body", "type_constraints", "computed_property"]

/-- The return type under its field, else the first named child after the arrow. -/
def returnType? (source : String) (node : Node) : Option String :=
  (node.lookupText? source "return_type").or
    (((node.after "->").find? Node.named).bind fun child =>
      if arrowStops.contains child.kind then none else child.text? source)

/-- The text of the throwing clause, else its bare keyword. -/
def throwsKeyword? (source : String) (node : Node) : Option String :=
  ((node.childOfKind? "throws").bind (Node.text? source)).or
    (node.firstToken? ["throws", "rethrows"])

/-- The signature of a function-like node. -/
def Signature.ofNode (source : String) (node : Node) : Signature :=
  { input := parametersOf source node,
    output := returnType? source node,
    throwsKeyword := throwsKeyword? source node,
    isAsync := node.hasToken "async" }

/-- Decorators of a member, with the `class` of a class member. -/
def memberDecorators (source : String) (node : Node) : Decorators :=
  (Decorators.ofNode source node).withToken (node.firstToken? ["class"])

/-- The name of a function node: the text under its field, else the child after `func`, which may
be an operator. -/
def functionName? (source : String) (node : Node) : Option String :=
  (node.lookupText? source "name").or ((node.childAfter? "func").bind (Node.text? source))

/-- Read a function node. -/
def Function.ofNode (source : String) (node : Node) : Except Fault Function := do
  let name ← requireName node "function" (functionName? source node)
  .ok
    { memberDecorators source node with
      keyword := "func",
      name,
      genericParameters := genericParametersOf source node,
      signature := Signature.ofNode source node,
      genericRequirements := genericRequirementsOf source node }

/-- Read an initializer node. -/
def Initializer.ofNode (source : String) (node : Node) : Initializer :=
  { memberDecorators source node with
    keyword := (node.lookupText? source "name").getD "init",
    optional := node.firstToken? ["?", "!"],
    genericParameters := genericParametersOf source node,
    parameters := parametersOf source node,
    throwsKeyword := throwsKeyword? source node,
    isAsync := node.hasToken "async",
    genericRequirements := genericRequirementsOf source node }

/-- Read a deinitializer node. -/
def Deinitializer.ofNode (source : String) (node : Node) : Deinitializer :=
  { Decorators.ofNode source node with keyword := "deinit" }

/-- Read a subscript node. -/
def Subscript.ofNode (source : String) (node : Node) : Subscript :=
  { Decorators.ofNode source node with
    keyword := "subscript",
    genericParameters := genericParametersOf source node,
    parameters := parametersOf source node,
    returnType := returnType? source node,
    genericRequirements := genericRequirementsOf source node }

end Synopsis
