/-
Module: Synopsis.Record.Declaration
Purpose: One record type for each kind of declaration, and their sum.
Main exports:
  Decorators, Heading, NamedHeading, Kind.Record, Declaration, Declaration.kind,
  Declaration.heading, Declaration.name
-/
import Synopsis.Kind
import Synopsis.Record.Part
import Synopsis.Text.Letter

namespace Synopsis

/-!
Records hold texts and lists of texts and no source positions, so declarations that differ only in
where they stand or how they are laid out have equal records.
-/

/-- The attributes and modifiers in front of a declaration, in source order. -/
structure Decorators where
  attributes : List Attribute
  modifiers : List Modifier
deriving DecidableEq, Repr

/-- What every declaration has: decorators and the keyword that introduces it. -/
structure Heading extends Decorators where
  keyword : String
deriving DecidableEq, Repr

/-- The heading of a declaration that gives something a name. -/
structure NamedHeading extends Heading where
  name : String
deriving DecidableEq, Repr

/-- An `associatedtype` requirement of a protocol. -/
structure AssociatedType extends NamedHeading where
  inheritance : List String
  genericRequirements : List GenericRequirement
  defaultType : Option String
deriving DecidableEq, Repr

/-- One element of a `case` declaration.  A case without a parenthesized payload and a case with an
empty one are different. -/
structure EnumCase extends NamedHeading where
  associatedValue : Option (List Parameter)
  rawValue : Option String
deriving DecidableEq, Repr

/-- A declaration of a type: a class or actor, a structure, or a protocol. -/
structure TypeDeclaration extends NamedHeading where
  inheritance : List String
  genericParameters : List GenericParameter
  genericRequirements : List GenericRequirement
deriving DecidableEq, Repr

/-- An `enum` declaration with the cases of its own body. -/
structure Enumeration extends TypeDeclaration where
  cases : List EnumCase
deriving DecidableEq, Repr

/-- An `extension`; the name is the extended type. -/
structure Extension extends NamedHeading where
  inheritance : List String
  genericRequirements : List GenericRequirement
deriving DecidableEq, Repr

/-- A `deinit` declaration has a heading and nothing more. -/
structure Deinitializer extends Heading
deriving DecidableEq, Repr

/-- The parameters, result and effects of a function. -/
structure Signature where
  input : List Parameter
  output : Option String
  throwsKeyword : Option String
  isAsync : Bool
deriving DecidableEq, Repr

/-- A `func` declaration, with or without a body. -/
structure Function extends NamedHeading where
  genericParameters : List GenericParameter
  signature : Signature
  genericRequirements : List GenericRequirement
deriving DecidableEq, Repr

/-- An `import` declaration; the name is the dotted path. -/
structure ModuleImport extends NamedHeading where
  importKind : Option String
  pathComponents : List String
deriving DecidableEq, Repr

/-- An `init` declaration; `optional` is the mark of a failable one. -/
structure Initializer extends Heading where
  optional : Option String
  genericParameters : List GenericParameter
  parameters : List Parameter
  throwsKeyword : Option String
  isAsync : Bool
  genericRequirements : List GenericRequirement
deriving DecidableEq, Repr

/-- An `operator` declaration.  The fixity is also one of its modifiers. -/
structure OperatorDeclaration extends NamedHeading where
  fixity : Fixity
  precedenceGroup : Option String
deriving DecidableEq, Repr

/-- A `precedencegroup` declaration. -/
structure PrecedenceGroup extends NamedHeading where
  higherThan : List String
  lowerThan : List String
  associativity : Option Associativity
  assignment : Option Bool
deriving DecidableEq, Repr

/-- A `subscript` declaration. -/
structure Subscript extends Heading where
  genericParameters : List GenericParameter
  parameters : List Parameter
  returnType : Option String
  genericRequirements : List GenericRequirement
deriving DecidableEq, Repr

/-- A `typealias` declaration. -/
structure TypeAlias extends NamedHeading where
  genericParameters : List GenericParameter
  initializedType : Option String
deriving DecidableEq, Repr

/-- One binding of a `let` or `var` declaration. -/
structure VariableBinding extends NamedHeading where
  annotatedType : Option String
  initializedValue : Option String
deriving DecidableEq, Repr

/-- The type of the records of a kind. -/
@[reducible] def Kind.Record : Kind → Type
  | .associatedType => AssociatedType
  | .enumCase => EnumCase
  | .classType => TypeDeclaration
  | .deinitializer => Deinitializer
  | .enumeration => Enumeration
  | .extension => Extension
  | .function => Function
  | .moduleImport => ModuleImport
  | .initializer => Initializer
  | .operator => OperatorDeclaration
  | .precedenceGroup => PrecedenceGroup
  | .protocol => TypeDeclaration
  | .structType => TypeDeclaration
  | .subscript => Subscript
  | .typeAlias => TypeAlias
  | .variableBinding => VariableBinding

/-- A record of any kind. -/
inductive Declaration where
  | associatedType (record : AssociatedType)
  | enumCase (record : EnumCase)
  | classType (record : TypeDeclaration)
  | deinitializer (record : Deinitializer)
  | enumeration (record : Enumeration)
  | extension (record : Extension)
  | function (record : Function)
  | moduleImport (record : ModuleImport)
  | initializer (record : Initializer)
  | operator (record : OperatorDeclaration)
  | precedenceGroup (record : PrecedenceGroup)
  | protocol (record : TypeDeclaration)
  | structType (record : TypeDeclaration)
  | subscript (record : Subscript)
  | typeAlias (record : TypeAlias)
  | variableBinding (record : VariableBinding)
deriving DecidableEq, Repr

namespace Declaration

/-- A record of a known kind as a declaration. -/
def of : (kind : Kind) → kind.Record → Declaration
  | .associatedType => associatedType
  | .enumCase => enumCase
  | .classType => classType
  | .deinitializer => deinitializer
  | .enumeration => enumeration
  | .extension => extension
  | .function => function
  | .moduleImport => moduleImport
  | .initializer => initializer
  | .operator => operator
  | .precedenceGroup => precedenceGroup
  | .protocol => protocol
  | .structType => structType
  | .subscript => subscript
  | .typeAlias => typeAlias
  | .variableBinding => variableBinding

/-- The kind of a declaration. -/
def kind : Declaration → Kind
  | associatedType _ => .associatedType
  | enumCase _ => .enumCase
  | classType _ => .classType
  | deinitializer _ => .deinitializer
  | enumeration _ => .enumeration
  | extension _ => .extension
  | function _ => .function
  | moduleImport _ => .moduleImport
  | initializer _ => .initializer
  | operator _ => .operator
  | precedenceGroup _ => .precedenceGroup
  | protocol _ => .protocol
  | structType _ => .structType
  | subscript _ => .subscript
  | typeAlias _ => .typeAlias
  | variableBinding _ => .variableBinding

/-- The heading of a declaration. -/
def heading : Declaration → Heading
  | associatedType record => record.toHeading
  | enumCase record => record.toHeading
  | classType record => record.toHeading
  | deinitializer record => record.toHeading
  | enumeration record => record.toHeading
  | extension record => record.toHeading
  | function record => record.toHeading
  | moduleImport record => record.toHeading
  | initializer record => record.toHeading
  | operator record => record.toHeading
  | precedenceGroup record => record.toHeading
  | protocol record => record.toHeading
  | structType record => record.toHeading
  | subscript record => record.toHeading
  | typeAlias record => record.toHeading
  | variableBinding record => record.toHeading

/-- The declared name.  Initializers, deinitializers and subscripts are called by their
keyword. -/
def name : Declaration → String
  | associatedType record => record.name
  | enumCase record => record.name
  | classType record => record.name
  | deinitializer record => record.keyword
  | enumeration record => record.name
  | extension record => record.name
  | function record => record.name
  | moduleImport record => record.name
  | initializer record => record.keyword
  | operator record => record.name
  | precedenceGroup record => record.name
  | protocol record => record.name
  | structType record => record.name
  | subscript record => record.keyword
  | typeAlias record => record.name
  | variableBinding record => record.name

/-- A declaration built from a record has the kind it was built for. -/
@[simp] theorem kind_of (kind : Kind) (record : kind.Record) : (of kind record).kind = kind := by
  cases kind <;> rfl

end Declaration

/-- Whether a function implements an operator: a fixity modifier says so, or its name does not
start like an identifier. -/
def Function.isOperator (record : Function) : Bool :=
  record.modifiers.any (fun modifier => Fixity.allWords.contains modifier.name) ||
    match record.name.toList with
    | [] => true
    | c :: _ => !(Text.isAlphabetic c || c == '_' || c == '\x60')

/-- Whether an initializer may give no value. -/
def Initializer.isFailable (record : Initializer) : Bool :=
  record.optional.isSome

end Synopsis
