/-
Module: Synopsis.Reading.Elements
Purpose: Declarations that list several elements: cases and variable bindings.
Main exports:
  requireName, caseElements, EnumCase.ofPlace, EnumCase.ofEntry, bindingPatterns,
  VariableBinding.ofPlace, VariableBinding.ofDeclaration
-/
import Synopsis.Reading.Decorators
import Synopsis.Reading.Parameters

namespace Synopsis

/-!
An element is read from its place: what it shares with its neighbours comes from the parent, its
own parts from the siblings that follow it up to the next separator.
-/

/-- The name of a declaration; an absent or empty one is a fault of the declaration's node. -/
def requireName (node : Node) (what : String) (name : Option String) : Except Fault String :=
  match name.filter (!·.isEmpty) with
  | some name => .ok name
  | none => .error (.unnamed node.kind what)

/-! ### Cases -/

/-- The elements of a case declaration without field names: each identifier directly after `case`
or a comma. -/
def positionalElements (expecting : Bool) : List Place → List Place
  | [] => []
  | place :: rest =>
      if place.node.isComment then positionalElements expecting rest
      else if place.node.isToken "case" || place.node.isToken "," then
        positionalElements true rest
      else if expecting && place.node.kind == "simple_identifier" then
        place :: positionalElements false rest
      else positionalElements false rest

/-- The elements of a case declaration: the children under the field `name`, else those found by
position. -/
def caseElements (entry : Node) : List Place :=
  let fielded := entry.childPlaces.filter (·.node.field == some "name")
  if fielded.isEmpty then positionalElements false entry.childPlaces else fielded

/-- The named siblings that belong to a case element. -/
def Place.caseParts (place : Place) : List Node :=
  (place.following.takeWhile fun node => !(node.isToken "," || node.isToken ";")).filter
    Node.isPart

/-- Whether a part of a case element is its payload; any other part is its raw value. -/
def Node.isPayload (node : Node) : Bool :=
  node.kind == "enum_type_parameters"

/-- Read one element of a case declaration. -/
def EnumCase.ofPlace (source : String) (place : Place) : Except Fault EnumCase :=
  match place.parent with
  | none => .error (.strayElement none)
  | some entry =>
      if entry.kind != "enum_entry" then .error (.strayElement (some entry.kind))
      else do
        let name ← requireName entry "case" (place.node.text? source)
        let decorators :=
          (Decorators.ofNode source entry).withToken (entry.firstToken? ["indirect"])
        let payload := (place.caseParts.filter Node.isPayload).getLast?
        let raw := (place.caseParts.filter (!Node.isPayload ·)).getLast?
        .ok
          { decorators with
            keyword := "case",
            name,
            associatedValue := payload.map (associatedValues source),
            rawValue := raw.bind (Node.text? source) }

/-- Read every element of a case declaration, up to the first fault. -/
def EnumCase.ofEntry (source : String) (entry : Node) : Except Fault (List EnumCase) :=
  (caseElements entry).mapM (EnumCase.ofPlace source)

/-! ### Variable bindings -/

/-- The nodes that bind variables. -/
def bindingParents : List String :=
  ["property_declaration", "protocol_property_declaration"]

/-- The patterns of a property declaration: the children under the field `name`, else those of kind
`pattern`. -/
def bindingPatterns (node : Node) : List Place :=
  let fielded := node.childPlaces.filter (·.node.field == some "name")
  if fielded.isEmpty then node.childPlaces.filter (·.node.kind == "pattern") else fielded

/-- The binding keyword among the children of a node, inside a binding pattern or directly. -/
def bindingKeywordIn? (source : String) (node : Node) : Option String :=
  ((node.childOfKind? "value_binding_pattern").bind fun pattern =>
    (pattern.lookupText? source "mutability").or (pattern.firstToken? ["let", "var"])).or
    (node.firstToken? ["let", "var"])

/-- The identifier that a pattern binds; patterns that bind none keep their text. -/
def patternName? (source : String) (pattern : Node) : Option String :=
  if pattern.kind == "simple_identifier" then pattern.text? source
  else
    ((pattern.lookupText? source "bound_identifier").or
      ((pattern.childOfKind? "simple_identifier").bind (Node.text? source))).or
      (pattern.text? source)

/-- The named siblings that belong to a binding. -/
def Place.bindingParts (place : Place) : List Node :=
  (place.following.takeWhile (!Node.isToken "," ·)).filter Node.isPart

/-- Whether a part of a binding is its type annotation. -/
def Node.isTypeNote (node : Node) : Bool :=
  node.kind == "type_annotation"

/-- Parts of a binding that are neither its type nor its value: where-clauses and accessors. -/
def bindingAccessories : List String :=
  ["type_constraints", "computed_property", "willset_didset_block",
   "protocol_property_requirements"]

/-- Whether a part of a binding is its value. -/
def Node.isInitialValue (node : Node) : Bool :=
  !node.isTypeNote && !bindingAccessories.contains node.kind

/-- The type that a type annotation states. -/
def notedType? (source : String) (note : Node) : Option String :=
  (note.lookupText? source "type").or ((note.namedAfter? ":").bind (Node.text? source))

/-- Read one binding of a property declaration. -/
def VariableBinding.ofPlace (source : String) (place : Place) : Except Fault VariableBinding :=
  match place.parent with
  | none => .error (.strayBinding none)
  | some declaration =>
      if !bindingParents.contains declaration.kind then
        .error (.strayBinding (some declaration.kind))
      else do
        let name ← requireName declaration "variable" (patternName? source place.node)
        let keyword :=
          (bindingKeywordIn? source declaration).or (bindingKeywordIn? source place.node)
        let note := (place.bindingParts.filter Node.isTypeNote).getLast?
        let value := (place.bindingParts.filter Node.isInitialValue).getLast?
        .ok
          { Decorators.ofNode source declaration with
            keyword := keyword.getD "var",
            name,
            annotatedType := note.bind (notedType? source),
            initializedValue := value.bind (Node.text? source) }

/-- Read every binding of a property declaration, up to the first fault. -/
def VariableBinding.ofDeclaration (source : String) (node : Node) :
    Except Fault (List VariableBinding) :=
  (bindingPatterns node).mapM (VariableBinding.ofPlace source)

end Synopsis
