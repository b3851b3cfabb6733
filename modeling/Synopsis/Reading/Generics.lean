/-
Module: Synopsis.Reading.Generics
Purpose: Generic parameter clauses and where-clauses.
Main exports:
  GenericParameter.ofNode?, genericParametersOf, GenericRequirement.ofText?,
  GenericRequirement.ofNode?, genericRequirementsOf
-/
import Synopsis.Record.Declaration

namespace Synopsis

open Text

/-! ### Generic parameters -/

/-- Node kinds that can be the name of a generic parameter. -/
def placeholderKinds : List String :=
  ["type_identifier", "type_parameter_pack", "simple_identifier"]

/-- The name of a generic parameter: its first identifier before the colon that stands under no
field.  The field `name` of such a node holds the constraint. -/
def placeholderName? (source : String) (node : Node) : Option String :=
  ((node.children.takeWhile (!Node.isToken ":" ·)).find? fun child =>
    child.field.isNone && placeholderKinds.contains child.kind).bind (Node.text? source)

/-- Read a generic parameter; one without a name is passed over. -/
def GenericParameter.ofNode? (source : String) (node : Node) : Option GenericParameter :=
  (placeholderName? source node).map fun name =>
    { name, constraint := (node.namedAfter? ":").bind (Node.text? source) }

/-- The generic parameters of a declaration node. -/
def genericParametersOf (source : String) (node : Node) : List GenericParameter :=
  match node.childOfKind? "type_parameters" with
  | none => []
  | some clause =>
      (clause.childrenOfKind "type_parameter").filterMap (GenericParameter.ofNode? source)

/-! ### Requirements -/

/-- The words of a text after its leading words that start with `@`, one space between them. -/
def withoutAttributes (text : List Char) : String :=
  String.ofList ([' '].intercalate ((words text).dropWhile (·.head? == some '@')))

/-- Whether an entry of a where-clause equates two types.  Node kinds other than the two kinds of
constraints are judged by their text. -/
def equatesTypes (kind : String) (text : List Char) : Bool :=
  match kind with
  | "inheritance_constraint" => false
  | "equality_constraint" => true
  | _ => (splitOnce ['=', '='] text).isSome

/-- Read one entry of a where-clause from its text.  The sides meet at the first `==`, or the first
`=` if there is none, or the first colon. -/
def GenericRequirement.ofText? (kind : String) (text : List Char) : Option GenericRequirement :=
  if equatesTypes kind text then
    ((splitOnce ['=', '='] text).or (splitOnce ['='] text)).map fun sides =>
      sameType (withoutAttributes sides.1) (String.ofList (trim sides.2))
  else
    (splitOnce [':'] text).map fun sides =>
      conformance (withoutAttributes sides.1) (String.ofList (trim sides.2))

/-- Read one entry of a where-clause. -/
def GenericRequirement.ofNode? (source : String) (node : Node) : Option GenericRequirement :=
  (node.text? source).bind fun text => ofText? node.kind text.toList

/-- The where-clauses of a declaration node: those inside the angle brackets, then those after
them. -/
def whereClausesOf (node : Node) : List Node :=
  (match node.childOfKind? "type_parameters" with
    | none => []
    | some clause => clause.childrenOfKind "type_constraints") ++
    node.childrenOfKind "type_constraints"

/-- The node that states the relation of a where-clause entry. -/
def relationNode? (entry : Node) : Option Node :=
  if entry.kind == "type_constraint" then entry.namedChildren.head? else some entry

/-- The requirements of all where-clauses of a declaration node, in order. -/
def genericRequirementsOf (source : String) (node : Node) : List GenericRequirement :=
  (((whereClausesOf node).flatMap Node.namedChildren).filter
    (·.kind != "where_keyword")).filterMap fun entry =>
      (relationNode? entry).bind (GenericRequirement.ofNode? source)

end Synopsis
