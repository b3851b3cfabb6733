/-
Module: Synopsis.Fault
Purpose: Why reading a declaration, or the name of a kind, can fail.
Main exports:
  Fault, Fault.message
-/
namespace Synopsis

/-- The causes of a failed reading.  All but the last say that a tree has a shape the grammar never
produces. -/
inductive Fault where
  /-- A declaration node of the given grammar symbol has no name; `what` says of what. -/
  | unnamed (node what : String)
  /-- An operator declaration does not say where the operator stands. -/
  | noFixity (node : String)
  /-- An import names no module. -/
  | noModulePath (node : String)
  /-- A case element stands outside a case declaration, under the given parent. -/
  | strayElement (parent : Option String)
  /-- A binding pattern stands outside a property declaration, under the given parent. -/
  | strayBinding (parent : Option String)
  /-- A text names no declaration kind. -/
  | unknownKind (text : String)
deriving DecidableEq, Repr

namespace Fault

/-- The sentence for a node that lacks what the grammar promises. -/
def violation (node expected found : String) : String :=
  s!"Grammar invariant violated: {node} requires {expected}, found {found}"

/-- How a message names the parent of a misplaced node. -/
def parentName (parent : Option String) : String :=
  parent.getD "<root>"

/-- The message for each cause. -/
def message : Fault → String
  | unnamed node what => violation node s!"a {what} name" "none"
  | noFixity node => violation node "a fixity" "none"
  | noModulePath node => violation node "a module path" "none"
  | strayElement parent =>
      violation "enum case element" "an `enum_entry` parent" (parentName parent)
  | strayBinding parent =>
      violation "variable binding" "a `property_declaration` parent" (parentName parent)
  | unknownKind text => s!"Unknown declaration kind: {text}"

end Fault

end Synopsis
