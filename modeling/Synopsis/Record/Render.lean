/-
Module: Synopsis.Record.Render
Purpose: The canonical text of every record.
Main exports:
  render of every part and record, Declaration.render
-/
import Synopsis.Record.Declaration

namespace Synopsis

/-!
Texts are built from the fields of a record alone, so records that are equal have equal texts
however their declarations were laid out.
-/

universe u

/-! ### Parts -/

/-- Texts with a comma and a space between them. -/
def commaJoined {α : Type u} (render : α → String) (items : List α) : String :=
  String.intercalate ", " (items.map render)

/-- A text after a mark, or nothing when it is absent. -/
def marked (mark : String) : Option String → String
  | none => ""
  | some text => mark ++ text

/-- `label: value`, or the value alone. -/
def Argument.render (argument : Argument) : String :=
  match argument.name with
  | none => argument.value
  | some name => name ++ ": " ++ argument.value

/-- `@name(arguments)`, without parentheses when there are no arguments. -/
def Attribute.render (attr : Attribute) : String :=
  "@" ++ attr.name ++
    if attr.arguments.isEmpty then ""
    else "(" ++ commaJoined Argument.render attr.arguments ++ ")"

/-- `name(detail)`, or the name alone. -/
def Modifier.render (modifier : Modifier) : String :=
  match modifier.detail with
  | none => modifier.name
  | some detail => modifier.name ++ "(" ++ detail ++ ")"

/-- `name: constraint`, or the name alone. -/
def GenericParameter.render (parameter : GenericParameter) : String :=
  parameter.name ++ marked ": " parameter.constraint

/-- `T: Protocol` or `T == U`. -/
def GenericRequirement.render : GenericRequirement → String
  | conformance typeName proto => typeName ++ ": " ++ proto
  | sameType left right => left ++ " == " ++ right

/-- The names of a parameter with a space between them. -/
def Parameter.names (parameter : Parameter) : String :=
  String.intercalate " " (parameter.firstName.toList ++ parameter.secondName.toList)

/-- `first second: Type... = default`, each piece only where it is present. -/
def Parameter.render (parameter : Parameter) : String :=
  (match parameter.typeName with
    | none => parameter.names
    | some typeName =>
        if parameter.names.isEmpty then typeName else parameter.names ++ ": " ++ typeName) ++
    (if parameter.variadic then "..." else "") ++
    marked " = " parameter.defaultArgument

/-! ### Clauses -/

/-- `<T, U>`, or nothing when there are no generic parameters. -/
def genericParameterClause (parameters : List GenericParameter) : String :=
  if parameters.isEmpty then "" else "<" ++ commaJoined GenericParameter.render parameters ++ ">"

/-- ` where T: P`, or nothing when there are no requirements. -/
def whereClause (requirements : List GenericRequirement) : String :=
  if requirements.isEmpty then ""
  else " where " ++ commaJoined GenericRequirement.render requirements

/-- `(a: Int, b: Int)`, also when there are no parameters. -/
def parameterClause (parameters : List Parameter) : String :=
  "(" ++ commaJoined Parameter.render parameters ++ ")"

/-- ` async`, or nothing. -/
def asyncMark (isAsync : Bool) : String :=
  if isAsync then " async" else ""

/-- Attributes, then modifiers, each followed by a space. -/
def Decorators.render (decorators : Decorators) : String :=
  String.join (decorators.attributes.map (·.render ++ " ")) ++
    String.join (decorators.modifiers.map (·.render ++ " "))

/-- Decorators and keyword. -/
def Heading.render (heading : Heading) : String :=
  heading.toDecorators.render ++ heading.keyword

/-- Decorators, keyword and name. -/
def NamedHeading.render (heading : NamedHeading) : String :=
  heading.toHeading.render ++ " " ++ heading.name

/-! ### Records -/

/-- The text of an associated type leaves out what it inherits and its default. -/
def AssociatedType.render (record : AssociatedType) : String :=
  record.toNamedHeading.render ++ whereClause record.genericRequirements

/-- The text of a case shows an empty payload and nothing for an absent one. -/
def EnumCase.render (record : EnumCase) : String :=
  record.toNamedHeading.render ++
    (match record.associatedValue with
      | none => ""
      | some values => parameterClause values) ++
    marked " = " record.rawValue

/-- The text of a type declaration leaves out what it inherits. -/
def TypeDeclaration.render (record : TypeDeclaration) : String :=
  record.toNamedHeading.render ++ genericParameterClause record.genericParameters ++
    whereClause record.genericRequirements

/-- The text of an extension leaves out what it inherits. -/
def Extension.render (record : Extension) : String :=
  record.toNamedHeading.render ++ whereClause record.genericRequirements

/-- The text of a function shows its full signature. -/
def Function.render (record : Function) : String :=
  record.toNamedHeading.render ++ genericParameterClause record.genericParameters ++
    parameterClause record.signature.input ++ asyncMark record.signature.isAsync ++
    marked " " record.signature.throwsKeyword ++ marked " -> " record.signature.output ++
    whereClause record.genericRequirements

/-- The text of an import shows what is imported between the keyword and the path. -/
def ModuleImport.render (record : ModuleImport) : String :=
  record.toHeading.render ++ marked " " record.importKind ++ " " ++ record.name

/-- The text of an initializer shows its failure mark directly after the keyword. -/
def Initializer.render (record : Initializer) : String :=
  record.toHeading.render ++ record.optional.getD "" ++
    genericParameterClause record.genericParameters ++ parameterClause record.parameters ++
    asyncMark record.isAsync ++ marked " " record.throwsKeyword ++
    whereClause record.genericRequirements

/-- The text of an operator declaration; its fixity is among the modifiers. -/
def OperatorDeclaration.render (record : OperatorDeclaration) : String :=
  record.toNamedHeading.render ++ marked ": " record.precedenceGroup

/-- The text of a subscript. -/
def Subscript.render (record : Subscript) : String :=
  record.toHeading.render ++ genericParameterClause record.genericParameters ++
    parameterClause record.parameters ++ marked " -> " record.returnType ++
    whereClause record.genericRequirements

/-- The text of a type alias. -/
def TypeAlias.render (record : TypeAlias) : String :=
  record.toNamedHeading.render ++ genericParameterClause record.genericParameters ++
    marked " = " record.initializedType

/-- The text of a variable. -/
def VariableBinding.render (record : VariableBinding) : String :=
  record.toNamedHeading.render ++ marked ": " record.annotatedType ++
    marked " = " record.initializedValue

/-- The text of a declaration.  Deinitializers and precedence groups show their heading only, and
an enumeration is shown without its cases. -/
def Declaration.render : Declaration → String
  | associatedType record => record.render
  | enumCase record => record.render
  | classType record => record.render
  | deinitializer record => record.toHeading.render
  | enumeration record => record.toTypeDeclaration.render
  | extension record => record.render
  | function record => record.render
  | moduleImport record => record.render
  | initializer record => record.render
  | operator record => record.render
  | precedenceGroup record => record.toNamedHeading.render
  | protocol record => record.render
  | structType record => record.render
  | subscript record => record.render
  | typeAlias record => record.render
  | variableBinding record => record.render

end Synopsis
