/-
Module: Synopsis.Reading
Purpose: The records of a declaration node of a known kind.
Main exports:
  Kind.read, Declaration.read
-/
import Synopsis.Reading.Callables
import Synopsis.Reading.Operators
import Synopsis.Reading.Types

namespace Synopsis

/-- Read a node as a declaration of the given kind, whatever its grammar symbol.  Cases and
variables give one record for each element, all other kinds exactly one. -/
def Kind.read (source : String) (node : Node) : (kind : Kind) → Except Fault (List kind.Record)
  | .associatedType => (AssociatedType.ofNode source node).map ([·])
  | .enumCase => EnumCase.ofEntry source node
  | .classType => (nominalType source "class" node).map ([·])
  | .deinitializer => .ok [Deinitializer.ofNode source node]
  | .enumeration => (Enumeration.ofNode source node).map ([·])
  | .extension => (Extension.ofNode source node).map ([·])
  | .function => (Function.ofNode source node).map ([·])
  | .moduleImport => (ModuleImport.ofNode source node).map ([·])
  | .initializer => .ok [Initializer.ofNode source node]
  | .operator => (OperatorDeclaration.ofNode source node).map ([·])
  | .precedenceGroup => (PrecedenceGroup.ofNode source node).map ([·])
  | .protocol => (protocolType source node).map ([·])
  | .structType => (nominalType source "struct" node).map ([·])
  | .subscript => .ok [Subscript.ofNode source node]
  | .typeAlias => (TypeAlias.ofNode source node).map ([·])
  | .variableBinding => VariableBinding.ofDeclaration source node

/-- Read a node as declarations of the given kind. -/
def Declaration.read (source : String) (kind : Kind) (node : Node) :
    Except Fault (List Declaration) :=
  (kind.read source node).map (List.map (Declaration.of kind))

end Synopsis
