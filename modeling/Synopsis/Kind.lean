/-
Module: Synopsis.Kind
Purpose: The kinds of Swift declarations, their names, and the nodes that introduce them.
Main exports:
  Kind, Kind.all, Kind.keyword, Kind.label, Kind.spellings, Kind.parse, typeKeyword?,
  Kind.ofNode?
-/
import Synopsis.Fault
import Synopsis.Tree.Query

namespace Synopsis

/-- The sixteen kinds of declarations. -/
inductive Kind where
  | associatedType
  | enumCase
  | classType
  | deinitializer
  | enumeration
  | extension
  | function
  | moduleImport
  | initializer
  | operator
  | precedenceGroup
  | protocol
  | structType
  | subscript
  | typeAlias
  | variableBinding
deriving DecidableEq, Repr

namespace Kind

/-- Every kind, in the order in which kinds are listed. -/
def all : List Kind :=
  [associatedType, enumCase, classType, deinitializer, enumeration, extension, function,
   moduleImport, initializer, operator, precedenceGroup, protocol, structType, subscript,
   typeAlias, variableBinding]

/-- Position of a kind in `all`, by which lists of kinds are sorted. -/
def rank : Kind → Nat
  | associatedType => 0
  | enumCase => 1
  | classType => 2
  | deinitializer => 3
  | enumeration => 4
  | extension => 5
  | function => 6
  | moduleImport => 7
  | initializer => 8
  | operator => 9
  | precedenceGroup => 10
  | protocol => 11
  | structType => 12
  | subscript => 13
  | typeAlias => 14
  | variableBinding => 15

/-- The Swift keyword that stands for the kind. -/
def keyword : Kind → String
  | associatedType => "associatedtype"
  | enumCase => "case"
  | classType => "class"
  | deinitializer => "deinit"
  | enumeration => "enum"
  | extension => "extension"
  | function => "func"
  | moduleImport => "import"
  | initializer => "init"
  | operator => "operator"
  | precedenceGroup => "precedencegroup"
  | protocol => "protocol"
  | structType => "struct"
  | subscript => "subscript"
  | typeAlias => "typealias"
  | variableBinding => "var"

/-- The name of the kind in exchanged records. -/
def label : Kind → String
  | associatedType => "associated_type"
  | enumCase => "case"
  | classType => "class"
  | deinitializer => "deinitializer"
  | enumeration => "enumeration"
  | extension => "extension"
  | function => "function"
  | moduleImport => "import"
  | initializer => "initializer"
  | operator => "operator"
  | precedenceGroup => "precedence_group"
  | protocol => "protocol"
  | structType => "structure"
  | subscript => "subscript"
  | typeAlias => "typealias"
  | variableBinding => "variable"

/-- The texts that name a kind, in lower case. -/
def spellings : Kind → List String
  | associatedType => ["associatedtype", "associated_type"]
  | enumCase => ["case"]
  | classType => ["class", "actor"]
  | deinitializer => ["deinit", "deinitializer"]
  | enumeration => ["enum", "enumeration"]
  | extension => ["extension"]
  | function => ["func", "function"]
  | moduleImport => ["import"]
  | initializer => ["init", "initializer"]
  | operator => ["operator"]
  | precedenceGroup => ["precedencegroup", "precedence_group"]
  | protocol => ["protocol"]
  | structType => ["struct", "structure"]
  | subscript => ["subscript"]
  | typeAlias => ["typealias"]
  | variableBinding => ["var", "let", "variable"]

/-- A text as it is compared with the spellings: without surrounding blanks and with ASCII letters
in lower case. -/
def normalize (text : String) : String :=
  String.ofList ((Text.trim text.toList).map Char.toLower)

/-- The kind that a text names, if any. -/
def ofText? (text : String) : Option Kind :=
  all.find? fun kind => kind.spellings.contains (normalize text)

/-- The kind that a text names; the fault carries the text as it was written. -/
def parse (text : String) : Except Fault Kind :=
  match ofText? text with
  | some kind => .ok kind
  | none => .error (.unknownKind text)

/-- The kind with exactly the given label. -/
def ofLabel? (text : String) : Option Kind :=
  all.find? fun kind => kind.label == text

end Kind

/-! ### Classification

The grammar has one node for classes, actors, structures, enumerations and extensions; the keyword
tells them apart.
-/

/-- The keywords that share the grammar's class declaration node. -/
def typeKeywords : List String :=
  ["class", "struct", "enum", "extension", "actor"]

/-- The keyword of a class declaration node: the text under its own field, else the first token
whose text is such a keyword. -/
def typeKeyword? (source : String) (node : Node) : Option String :=
  (node.lookupText? source "declaration_kind").or
    (((node.children.filter (!·.named)).filterMap (Node.text? source)).find?
      typeKeywords.contains)

/-- The kind of declaration that a keyword of a class declaration node introduces. -/
def Kind.ofTypeKeyword? : String → Option Kind
  | "enum" => some .enumeration
  | "struct" => some .structType
  | "class" => some .classType
  | "actor" => some .classType
  | "extension" => some .extension
  | _ => none

/-- The kind of declaration that a node introduces, if any. -/
def Kind.ofNode? (source : String) (node : Node) : Option Kind :=
  match node.kind with
  | "class_declaration" => (typeKeyword? source node).bind Kind.ofTypeKeyword?
  | "enum_entry" => some .enumCase
  | "protocol_declaration" => some .protocol
  | "associatedtype_declaration" => some .associatedType
  | "operator_declaration" => some .operator
  | "precedence_group_declaration" => some .precedenceGroup
  | "function_declaration" => some .function
  | "protocol_function_declaration" => some .function
  | "init_declaration" => some .initializer
  | "deinit_declaration" => some .deinitializer
  | "subscript_declaration" => some .subscript
  | "typealias_declaration" => some .typeAlias
  | "property_declaration" => some .variableBinding
  | "protocol_property_declaration" => some .variableBinding
  | "import_declaration" => some .moduleImport
  | _ => none

end Synopsis
