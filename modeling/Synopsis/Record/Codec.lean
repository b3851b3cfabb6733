/-
Module: Synopsis.Record.Codec
Purpose: Records as JSON, in both directions.
Main exports:
  toJson and ofJson? of every part, fields, layout and ofFields? of every record,
  Declaration.fields, Declaration.toJson, Declaration.ofJson?
-/
import Synopsis.Json
import Synopsis.Record.Declaration

namespace Synopsis

open Json (Fields Layout)

/-!
Absence is written in two ways.  Most optional members are left out; a few are always written, with
`null` for absence.  Reading takes both ways for every optional member.  A declaration carries its
kind under the key `kind`, and a generic requirement its relation under the key `relation`.

A record is always written as an object.  It is also read from an array of its members, in the order
of its layout; the tag of a declaration or a requirement then comes first.
-/

/-! ### Parts -/

/-- An attribute argument as JSON. -/
def Argument.toJson (argument : Argument) : Json :=
  .obj (Fields.present "name" .str argument.name ++ [("value", .str argument.value)])

/-- The members of an attribute argument in order. -/
def Argument.layout : Layout :=
  .full ["name", "value"]

/-- Read an attribute argument. -/
def Argument.ofJson? (json : Json) : Option Argument := do
  let fields ← layout.fields? json
  let name ← fields.optional "name" Json.text?
  let value ← fields.required "value" Json.text?
  some { name, value }

/-- An attribute as JSON. -/
def Attribute.toJson (attr : Attribute) : Json :=
  .obj [("name", .str attr.name),
        ("arguments", .ofList Argument.toJson attr.arguments)]

/-- The members of an attribute in order. -/
def Attribute.layout : Layout :=
  .full ["name", "arguments"]

/-- Read an attribute. -/
def Attribute.ofJson? (json : Json) : Option Attribute := do
  let fields ← layout.fields? json
  let name ← fields.required "name" Json.text?
  let arguments ← fields.required "arguments" (Json.list? Argument.ofJson?)
  some { name, arguments }

/-- A modifier as JSON. -/
def Modifier.toJson (modifier : Modifier) : Json :=
  .obj (("name", .str modifier.name) :: Fields.present "detail" .str modifier.detail)

/-- The members of a modifier in order. -/
def Modifier.layout : Layout :=
  { keys := ["name", "detail"], least := 1 }

/-- Read a modifier. -/
def Modifier.ofJson? (json : Json) : Option Modifier := do
  let fields ← layout.fields? json
  let name ← fields.required "name" Json.text?
  let detail ← fields.optional "detail" Json.text?
  some { name, detail }

/-- A generic parameter as JSON. -/
def GenericParameter.toJson (parameter : GenericParameter) : Json :=
  .obj (("name", .str parameter.name) ::
    Fields.present "constraint" .str parameter.constraint)

/-- The members of a generic parameter in order. -/
def GenericParameter.layout : Layout :=
  { keys := ["name", "constraint"], least := 1 }

/-- Read a generic parameter. -/
def GenericParameter.ofJson? (json : Json) : Option GenericParameter := do
  let fields ← layout.fields? json
  let name ← fields.required "name" Json.text?
  let constraint ← fields.optional "constraint" Json.text?
  some { name, constraint }

/-- What a generic requirement says of its two sides, which tags the requirement. -/
inductive Relation where
  | conformance
  | sameType
deriving DecidableEq, Repr

namespace Relation

/-- The relations in the order in which they are numbered. -/
def all : List Relation :=
  [conformance, sameType]

/-- The word for a relation. -/
def word : Relation → String
  | conformance => "conformance"
  | sameType => "same_type"

/-- The two sides of a requirement in order. -/
def layout : Relation → Layout
  | conformance => .full ["type_name", "protocol"]
  | sameType => .full ["left", "right"]

/-- Read a relation from its word. -/
def ofJson? (json : Json) : Option Relation :=
  json.text?.bind fun text => all.find? (·.word == text)

/-- Read a relation from its word or its number. -/
def ofIndexed? : Json → Option Relation
  | .num (.ofNat index) 0 => all[index]?
  | json => ofJson? json

end Relation

namespace GenericRequirement

/-- A generic requirement as JSON. -/
def toJson : GenericRequirement → Json
  | conformance typeName proto =>
      .obj [("relation", .str "conformance"), ("type_name", .str typeName),
            ("protocol", .str proto)]
  | sameType left right =>
      .obj [("relation", .str "same_type"), ("left", .str left), ("right", .str right)]

/-- Read the sides of a generic requirement. -/
def ofFields? (fields : Fields) : Relation → Option GenericRequirement
  | .conformance => do
      let typeName ← fields.required "type_name" Json.text?
      let proto ← fields.required "protocol" Json.text?
      some (conformance typeName proto)
  | .sameType => do
      let left ← fields.required "left" Json.text?
      let right ← fields.required "right" Json.text?
      some (sameType left right)

/-- Read a generic requirement whose relation is read as given. -/
def readWith? (relation? : Json → Option Relation) (json : Json) :
    Option GenericRequirement := do
  let (tag, body) ← json.tagged? "relation"
  let relation ← relation? tag
  let fields ← relation.layout.fields? body
  ofFields? fields relation

/-- Read a generic requirement that stands alone. -/
def ofJson? : Json → Option GenericRequirement :=
  readWith? Relation.ofJson?

/-- Read a generic requirement of a declaration, where the relation may also be a number. -/
def ofMember? : Json → Option GenericRequirement :=
  readWith? Relation.ofIndexed?

end GenericRequirement

/-- A parameter as JSON. -/
def Parameter.toJson (parameter : Parameter) : Json :=
  .obj (Fields.present "first_name" .str parameter.firstName ++
    Fields.present "second_name" .str parameter.secondName ++
    Fields.present "type" .str parameter.typeName ++
    [("variadic", .bool parameter.variadic)] ++
    Fields.present "default_argument" .str parameter.defaultArgument)

/-- The members of a parameter in order. -/
def Parameter.layout : Layout :=
  { keys := ["first_name", "second_name", "type", "variadic", "default_argument"], least := 0 }

/-- Read a parameter. -/
def Parameter.ofJson? (json : Json) : Option Parameter := do
  let fields ← layout.fields? json
  let firstName ← fields.optional "first_name" Json.text?
  let secondName ← fields.optional "second_name" Json.text?
  let typeName ← fields.optional "type" Json.text?
  let variadic ← fields.flag "variadic"
  let defaultArgument ← fields.optional "default_argument" Json.text?
  some { firstName, secondName, typeName, variadic, defaultArgument }

/-- Read a fixity from its word. -/
def Fixity.ofJson? (json : Json) : Option Fixity :=
  (json.word? Json.isVoid).bind ofWord?

/-- Read an associativity from its word. -/
def Associativity.ofJson? (json : Json) : Option Associativity :=
  (json.word? Json.isVoid).bind ofWord?

/-! ### Headings -/

/-- The members that every declaration has. -/
def Heading.fields (heading : Heading) : Fields :=
  [("attributes", .ofList Attribute.toJson heading.attributes),
   ("modifiers", .ofList Modifier.toJson heading.modifiers),
   ("keyword", .str heading.keyword)]

/-- The keys of the members that every declaration has. -/
def Heading.keys : List String :=
  ["attributes", "modifiers", "keyword"]

/-- Read the members that every declaration has. -/
def Heading.ofFields? (fields : Fields) : Option Heading := do
  let attributes ← fields.required "attributes" (Json.list? Attribute.ofJson?)
  let modifiers ← fields.required "modifiers" (Json.list? Modifier.ofJson?)
  let keyword ← fields.required "keyword" Json.text?
  some { attributes, modifiers, keyword }

/-- The members that every declaration with a name has. -/
def NamedHeading.fields (heading : NamedHeading) : Fields :=
  heading.toHeading.fields ++ [("name", .str heading.name)]

/-- The keys of the members that every declaration with a name has. -/
def NamedHeading.keys : List String :=
  Heading.keys ++ ["name"]

/-- Read the members that every declaration with a name has. -/
def NamedHeading.ofFields? (fields : Fields) : Option NamedHeading := do
  let heading ← Heading.ofFields? fields
  let name ← fields.required "name" Json.text?
  some { heading with name }

/-- The member that lists generic parameters. -/
def genericParametersField (parameters : List GenericParameter) : String × Json :=
  ("generic_parameters", .ofList GenericParameter.toJson parameters)

/-- Read the member that lists generic parameters. -/
def genericParameters? (fields : Fields) : Option (List GenericParameter) :=
  fields.required "generic_parameters" (Json.list? GenericParameter.ofJson?)

/-- The member that lists generic requirements. -/
def genericRequirementsField (requirements : List GenericRequirement) : String × Json :=
  ("generic_requirements", .ofList GenericRequirement.toJson requirements)

/-- Read the member that lists generic requirements. -/
def genericRequirements? (fields : Fields) : Option (List GenericRequirement) :=
  fields.required "generic_requirements" (Json.list? GenericRequirement.ofMember?)

/-! ### Records -/

/-- The members of an associated type. -/
def AssociatedType.fields (record : AssociatedType) : Fields :=
  record.toNamedHeading.fields ++
    [("inheritance", .ofTexts record.inheritance),
     genericRequirementsField record.genericRequirements,
     ("default_type", .ofOption .str record.defaultType)]

/-- The members of an associated type in order. -/
def AssociatedType.layout : Layout :=
  .full (NamedHeading.keys ++ ["inheritance", "generic_requirements", "default_type"])

/-- Read an associated type. -/
def AssociatedType.ofFields? (fields : Fields) : Option AssociatedType := do
  let heading ← NamedHeading.ofFields? fields
  let inheritance ← fields.required "inheritance" Json.texts?
  let genericRequirements ← genericRequirements? fields
  let defaultType ← fields.optional "default_type" Json.text?
  some { heading with inheritance, genericRequirements, defaultType }

/-- The members of an enumeration case. -/
def EnumCase.fields (record : EnumCase) : Fields :=
  record.toNamedHeading.fields ++
    [("associated_value", .ofOption (.ofList Parameter.toJson) record.associatedValue),
     ("raw_value", .ofOption .str record.rawValue)]

/-- The members of an enumeration case in order. -/
def EnumCase.layout : Layout :=
  .full (NamedHeading.keys ++ ["associated_value", "raw_value"])

/-- Read an enumeration case. -/
def EnumCase.ofFields? (fields : Fields) : Option EnumCase := do
  let heading ← NamedHeading.ofFields? fields
  let associatedValue ←
    fields.optional "associated_value" (Json.list? Parameter.ofJson?)
  let rawValue ← fields.optional "raw_value" Json.text?
  some { heading with associatedValue, rawValue }

/-- The members of a class, structure or protocol. -/
def TypeDeclaration.fields (record : TypeDeclaration) : Fields :=
  record.toNamedHeading.fields ++
    [("inheritance", .ofTexts record.inheritance),
     genericParametersField record.genericParameters,
     genericRequirementsField record.genericRequirements]

/-- The members of a class, structure or protocol in order. -/
def TypeDeclaration.layout : Layout :=
  .full (NamedHeading.keys ++ ["inheritance", "generic_parameters", "generic_requirements"])

/-- Read a class, structure or protocol. -/
def TypeDeclaration.ofFields? (fields : Fields) : Option TypeDeclaration := do
  let heading ← NamedHeading.ofFields? fields
  let inheritance ← fields.required "inheritance" Json.texts?
  let genericParameters ← genericParameters? fields
  let genericRequirements ← genericRequirements? fields
  some { heading with inheritance, genericParameters, genericRequirements }

/-- The members of an enumeration; its cases carry no kind. -/
def Enumeration.fields (record : Enumeration) : Fields :=
  record.toTypeDeclaration.fields ++
    [("cases", .ofList (fun element => .obj element.fields) record.cases)]

/-- The members of an enumeration in order. -/
def Enumeration.layout : Layout :=
  .full (TypeDeclaration.layout.keys ++ ["cases"])

/-- Read an enumeration. -/
def Enumeration.ofFields? (fields : Fields) : Option Enumeration := do
  let declaration ← TypeDeclaration.ofFields? fields
  let cases ← fields.required "cases"
    (Json.list? fun json => (EnumCase.layout.fields? json).bind EnumCase.ofFields?)
  some { declaration with cases }

/-- The members of an extension. -/
def Extension.fields (record : Extension) : Fields :=
  record.toNamedHeading.fields ++
    [("inheritance", .ofTexts record.inheritance),
     genericRequirementsField record.genericRequirements]

/-- The members of an extension in order. -/
def Extension.layout : Layout :=
  .full (NamedHeading.keys ++ ["inheritance", "generic_requirements"])

/-- Read an extension. -/
def Extension.ofFields? (fields : Fields) : Option Extension := do
  let heading ← NamedHeading.ofFields? fields
  let inheritance ← fields.required "inheritance" Json.texts?
  let genericRequirements ← genericRequirements? fields
  some { heading with inheritance, genericRequirements }

/-- The members of a deinitializer. -/
def Deinitializer.fields (record : Deinitializer) : Fields :=
  record.toHeading.fields

/-- The members of a deinitializer in order. -/
def Deinitializer.layout : Layout :=
  .full Heading.keys

/-- Read a deinitializer. -/
def Deinitializer.ofFields? (fields : Fields) : Option Deinitializer :=
  (Heading.ofFields? fields).map Deinitializer.mk

/-- A signature as JSON. -/
def Signature.toJson (signature : Signature) : Json :=
  .obj ([("input", .ofList Parameter.toJson signature.input)] ++
    Fields.present "output" .str signature.output ++
    Fields.present "throws_keyword" .str signature.throwsKeyword ++
    [("is_async", .bool signature.isAsync)])

/-- The members of a signature in order. -/
def Signature.layout : Layout :=
  { keys := ["input", "output", "throws_keyword", "is_async"], least := 1 }

/-- Read a signature. -/
def Signature.ofJson? (json : Json) : Option Signature := do
  let fields ← layout.fields? json
  let input ← fields.required "input" (Json.list? Parameter.ofJson?)
  let output ← fields.optional "output" Json.text?
  let throwsKeyword ← fields.optional "throws_keyword" Json.text?
  let isAsync ← fields.flag "is_async"
  some { input, output, throwsKeyword, isAsync }

/-- The members of a function. -/
def Function.fields (record : Function) : Fields :=
  record.toNamedHeading.fields ++
    [genericParametersField record.genericParameters,
     ("signature", record.signature.toJson),
     genericRequirementsField record.genericRequirements]

/-- The members of a function in order. -/
def Function.layout : Layout :=
  .full (NamedHeading.keys ++ ["generic_parameters", "signature", "generic_requirements"])

/-- Read a function. -/
def Function.ofFields? (fields : Fields) : Option Function := do
  let heading ← NamedHeading.ofFields? fields
  let genericParameters ← genericParameters? fields
  let signature ← fields.required "signature" Signature.ofJson?
  let genericRequirements ← genericRequirements? fields
  some { heading with genericParameters, signature, genericRequirements }

/-- The members of an import. -/
def ModuleImport.fields (record : ModuleImport) : Fields :=
  record.toNamedHeading.fields ++
    Fields.present "import_kind" .str record.importKind ++
    [("path_components", .ofTexts record.pathComponents)]

/-- The members of an import in order. -/
def ModuleImport.layout : Layout :=
  .full (Heading.keys ++ ["import_kind", "path_components", "name"])

/-- Read an import. -/
def ModuleImport.ofFields? (fields : Fields) : Option ModuleImport := do
  let heading ← NamedHeading.ofFields? fields
  let importKind ← fields.optional "import_kind" Json.text?
  let pathComponents ← fields.required "path_components" Json.texts?
  some { heading with importKind, pathComponents }

/-- The members of an initializer. -/
def Initializer.fields (record : Initializer) : Fields :=
  record.toHeading.fields ++
    Fields.present "optional" .str record.optional ++
    [genericParametersField record.genericParameters,
     ("parameters", .ofList Parameter.toJson record.parameters)] ++
    Fields.present "throws_keyword" .str record.throwsKeyword ++
    [("is_async", .bool record.isAsync),
     genericRequirementsField record.genericRequirements]

/-- The members of an initializer in order. -/
def Initializer.layout : Layout :=
  .full (Heading.keys ++
    ["optional", "generic_parameters", "parameters", "throws_keyword", "is_async",
     "generic_requirements"])

/-- Read an initializer. -/
def Initializer.ofFields? (fields : Fields) : Option Initializer := do
  let heading ← Heading.ofFields? fields
  let optional ← fields.optional "optional" Json.text?
  let genericParameters ← genericParameters? fields
  let parameters ← fields.required "parameters" (Json.list? Parameter.ofJson?)
  let throwsKeyword ← fields.optional "throws_keyword" Json.text?
  let isAsync ← fields.flag "is_async"
  let genericRequirements ← genericRequirements? fields
  some
    { heading with
      optional, genericParameters, parameters, throwsKeyword, isAsync, genericRequirements }

/-- The members of an operator declaration. -/
def OperatorDeclaration.fields (record : OperatorDeclaration) : Fields :=
  record.toNamedHeading.fields ++
    [("fixity", .str record.fixity.word),
     ("precedence_group", .ofOption .str record.precedenceGroup)]

/-- The members of an operator declaration in order. -/
def OperatorDeclaration.layout : Layout :=
  .full (NamedHeading.keys ++ ["fixity", "precedence_group"])

/-- Read an operator declaration. -/
def OperatorDeclaration.ofFields? (fields : Fields) : Option OperatorDeclaration := do
  let heading ← NamedHeading.ofFields? fields
  let fixity ← fields.required "fixity" Fixity.ofJson?
  let precedenceGroup ← fields.optional "precedence_group" Json.text?
  some { heading with fixity, precedenceGroup }

/-- The members of a precedence group. -/
def PrecedenceGroup.fields (record : PrecedenceGroup) : Fields :=
  record.toNamedHeading.fields ++
    [("higher_than", .ofTexts record.higherThan),
     ("lower_than", .ofTexts record.lowerThan),
     ("associativity", .ofOption (fun side => .str side.word) record.associativity),
     ("assignment", .ofOption .bool record.assignment)]

/-- The members of a precedence group in order. -/
def PrecedenceGroup.layout : Layout :=
  .full (NamedHeading.keys ++ ["higher_than", "lower_than", "associativity", "assignment"])

/-- Read a precedence group. -/
def PrecedenceGroup.ofFields? (fields : Fields) : Option PrecedenceGroup := do
  let heading ← NamedHeading.ofFields? fields
  let higherThan ← fields.required "higher_than" Json.texts?
  let lowerThan ← fields.required "lower_than" Json.texts?
  let associativity ← fields.optional "associativity" Associativity.ofJson?
  let assignment ← fields.optional "assignment" Json.flag?
  some { heading with higherThan, lowerThan, associativity, assignment }

/-- The members of a subscript. -/
def Subscript.fields (record : Subscript) : Fields :=
  record.toHeading.fields ++
    [genericParametersField record.genericParameters,
     ("parameters", .ofList Parameter.toJson record.parameters)] ++
    Fields.present "return_type" .str record.returnType ++
    [genericRequirementsField record.genericRequirements]

/-- The members of a subscript in order. -/
def Subscript.layout : Layout :=
  .full (Heading.keys ++
    ["generic_parameters", "parameters", "return_type", "generic_requirements"])

/-- Read a subscript. -/
def Subscript.ofFields? (fields : Fields) : Option Subscript := do
  let heading ← Heading.ofFields? fields
  let genericParameters ← genericParameters? fields
  let parameters ← fields.required "parameters" (Json.list? Parameter.ofJson?)
  let returnType ← fields.optional "return_type" Json.text?
  let genericRequirements ← genericRequirements? fields
  some { heading with genericParameters, parameters, returnType, genericRequirements }

/-- The members of a type alias. -/
def TypeAlias.fields (record : TypeAlias) : Fields :=
  record.toNamedHeading.fields ++
    [genericParametersField record.genericParameters] ++
    Fields.present "initialized_type" .str record.initializedType

/-- The members of a type alias in order. -/
def TypeAlias.layout : Layout :=
  { keys := NamedHeading.keys ++ ["generic_parameters", "initialized_type"], least := 5 }

/-- Read a type alias. -/
def TypeAlias.ofFields? (fields : Fields) : Option TypeAlias := do
  let heading ← NamedHeading.ofFields? fields
  let genericParameters ← genericParameters? fields
  let initializedType ← fields.optional "initialized_type" Json.text?
  some { heading with genericParameters, initializedType }

/-- The members of a variable. -/
def VariableBinding.fields (record : VariableBinding) : Fields :=
  record.toNamedHeading.fields ++
    Fields.present "type_annotation" .str record.annotatedType ++
    Fields.present "initialized_value" .str record.initializedValue

/-- The members of a variable in order. -/
def VariableBinding.layout : Layout :=
  { keys := NamedHeading.keys ++ ["type_annotation", "initialized_value"], least := 4 }

/-- Read a variable. -/
def VariableBinding.ofFields? (fields : Fields) : Option VariableBinding := do
  let heading ← NamedHeading.ofFields? fields
  let annotatedType ← fields.optional "type_annotation" Json.text?
  let initializedValue ← fields.optional "initialized_value" Json.text?
  some { heading with annotatedType, initializedValue }

/-! ### Records of a known kind, and declarations -/

namespace Kind

/-- The members of a record of a known kind, the kind left out. -/
def recordFields : (kind : Kind) → kind.Record → Fields
  | associatedType => AssociatedType.fields
  | enumCase => EnumCase.fields
  | classType => TypeDeclaration.fields
  | deinitializer => Deinitializer.fields
  | enumeration => Enumeration.fields
  | extension => Extension.fields
  | function => Function.fields
  | moduleImport => ModuleImport.fields
  | initializer => Initializer.fields
  | operator => OperatorDeclaration.fields
  | precedenceGroup => PrecedenceGroup.fields
  | protocol => TypeDeclaration.fields
  | structType => TypeDeclaration.fields
  | subscript => Subscript.fields
  | typeAlias => TypeAlias.fields
  | variableBinding => VariableBinding.fields

/-- The members of a record of a known kind in order. -/
def layout : Kind → Layout
  | associatedType => AssociatedType.layout
  | enumCase => EnumCase.layout
  | classType => TypeDeclaration.layout
  | deinitializer => Deinitializer.layout
  | enumeration => Enumeration.layout
  | extension => Extension.layout
  | function => Function.layout
  | moduleImport => ModuleImport.layout
  | initializer => Initializer.layout
  | operator => OperatorDeclaration.layout
  | precedenceGroup => PrecedenceGroup.layout
  | protocol => TypeDeclaration.layout
  | structType => TypeDeclaration.layout
  | subscript => Subscript.layout
  | typeAlias => TypeAlias.layout
  | variableBinding => VariableBinding.layout

/-- Read a record of a known kind from its members. -/
def recordOfFields? : (kind : Kind) → Fields → Option kind.Record
  | associatedType => AssociatedType.ofFields?
  | enumCase => EnumCase.ofFields?
  | classType => TypeDeclaration.ofFields?
  | deinitializer => Deinitializer.ofFields?
  | enumeration => Enumeration.ofFields?
  | extension => Extension.ofFields?
  | function => Function.ofFields?
  | moduleImport => ModuleImport.ofFields?
  | initializer => Initializer.ofFields?
  | operator => OperatorDeclaration.ofFields?
  | precedenceGroup => PrecedenceGroup.ofFields?
  | protocol => TypeDeclaration.ofFields?
  | structType => TypeDeclaration.ofFields?
  | subscript => Subscript.ofFields?
  | typeAlias => TypeAlias.ofFields?
  | variableBinding => VariableBinding.ofFields?

/-- Read a record of a known kind. -/
def recordOfJson? (kind : Kind) (json : Json) : Option kind.Record :=
  (kind.layout.fields? json).bind kind.recordOfFields?

/-- Read a kind from its label. -/
def ofJson? (json : Json) : Option Kind :=
  json.text?.bind ofLabel?

end Kind

namespace Declaration

/-- The members of a declaration, its kind left out. -/
def fields : Declaration → Fields
  | associatedType record => record.fields
  | enumCase record => record.fields
  | classType record => record.fields
  | deinitializer record => record.fields
  | enumeration record => record.fields
  | extension record => record.fields
  | function record => record.fields
  | moduleImport record => record.fields
  | initializer record => record.fields
  | operator record => record.fields
  | precedenceGroup record => record.fields
  | protocol record => record.fields
  | structType record => record.fields
  | subscript record => record.fields
  | typeAlias record => record.fields
  | variableBinding record => record.fields

/-- A declaration as JSON. -/
def toJson (declaration : Declaration) : Json :=
  .obj (("kind", .str declaration.kind.label) :: declaration.fields)

/-- Read a declaration; its kind says which record it is. -/
def ofJson? (json : Json) : Option Declaration := do
  let (tag, body) ← json.tagged? "kind"
  let kind ← Kind.ofJson? tag
  let record ← kind.recordOfJson? body
  some (of kind record)

end Declaration

end Synopsis
