/-
Module: Synopsis.Proofs.RoundTrips
Purpose: Reading undoes writing, for every record and every part of one.
Main exports:
  Json.RoundTrips, Kind.roundTrips_record, Declaration.roundTrips, records_read_back_as_written
-/
import Mathlib.Logic.Relation
import Synopsis.Collect
import Synopsis.Proofs.Revisions

namespace Synopsis

open Json

namespace Json

variable {α : Type} {write : α → Json} {read : Json → Option α}

/-! ### Values -/

/-- What is written is read back. -/
def RoundTrips (write : α → Json) (read : Json → Option α) : Prop :=
  ∀ value, read (write value) = some value

@[simp] theorem text?_str (text : String) : text? (.str text) = some text := rfl

@[simp] theorem flag?_bool (value : Bool) : flag? (.bool value) = some value := rfl

theorem RoundTrips.list (trips : RoundTrips write read) :
    RoundTrips (ofList write) (list? read) := by
  intro values
  rw [ofList, list?]
  induction values with
  | nil => rfl
  | cons value rest inductionHypothesis =>
      rw [List.map_cons, List.mapM_cons, trips value, inductionHypothesis]
      rfl

@[simp] theorem texts?_ofTexts (texts : List String) : texts? (ofTexts texts) = some texts :=
  RoundTrips.list text?_str texts

/-! ### Members -/

@[simp] theorem lookup_cons_of_ne {key other : String} (apart : key ≠ other) (value : Json)
    (fields : Fields) : List.lookup key ((other, value) :: fields) = fields.lookup key := by
  rw [List.lookup_cons, beq_false_of_ne apart]

@[simp] theorem lookup_present (key other : String) (write : α → Json) (value : Option α) :
    (Fields.present other write value).lookup key =
      if key = other then value.map write else none := by
  cases value with
  | none => simp [Fields.present]
  | some value =>
      by_cases same : key = other
      · simp [Fields.present, same]
      · simp [Fields.present, same]

@[simp] theorem Layout.fields?_obj (layout : Layout) (fields : Fields) :
    layout.fields? (.obj fields) = some fields := rfl

@[simp] theorem Fields.required_eq_bind (key : String) (read : Json → Option α) (fields : Fields) :
    fields.required key read = (fields.lookup key).bind read := rfl

/-- The value of an optional member, from what is found under its key. -/
def ofFound? (read : Json → Option α) : Option Json → Option (Option α)
  | none | some .null => some none
  | some value => (read value).map some

@[simp] theorem Fields.optional_eq_ofFound? (key : String) (read : Json → Option α)
    (fields : Fields) :
    fields.optional key read = ofFound? read (fields.lookup key) := by
  rw [optional]
  cases fields.lookup key with
  | none => rfl
  | some value => cases value <;> rfl

theorem ofFound?_map (trips : RoundTrips write read) (solid : ∀ value, write value ≠ .null)
    (value : Option α) : ofFound? read (value.map write) = some value := by
  cases value with
  | none => rfl
  | some value => simp [ofFound?, solid, trips value]

theorem ofFound?_ofOption (trips : RoundTrips write read) (solid : ∀ value, write value ≠ .null)
    (value : Option α) : ofFound? read (some (ofOption write value)) = some value := by
  cases value with
  | none => rfl
  | some value => simp [ofFound?, ofOption, solid, trips value]

@[simp] theorem ofFound?_map_str (text : Option String) :
    ofFound? text? (text.map .str) = some text :=
  ofFound?_map text?_str (by simp) text

@[simp] theorem ofFound?_ofOption_str (text : Option String) :
    ofFound? text? (some (ofOption .str text)) = some text :=
  ofFound?_ofOption text?_str (by simp) text

end Json

/-! ### Parts -/

theorem Argument.roundTrips : RoundTrips Argument.toJson Argument.ofJson? := by
  intro argument
  simp [toJson, ofJson?, List.lookup_append]

theorem Attribute.roundTrips : RoundTrips Attribute.toJson Attribute.ofJson? := by
  intro attr
  simp [toJson, ofJson?, Argument.roundTrips.list attr.arguments]

theorem Modifier.roundTrips : RoundTrips Modifier.toJson Modifier.ofJson? := by
  intro modifier
  simp [toJson, ofJson?]

theorem GenericParameter.roundTrips :
    RoundTrips GenericParameter.toJson GenericParameter.ofJson? := by
  intro parameter
  simp [toJson, ofJson?]

@[simp] theorem list?_genericParameters (parameters : List GenericParameter) :
    list? GenericParameter.ofJson? (ofList GenericParameter.toJson parameters) =
      some parameters :=
  GenericParameter.roundTrips.list parameters

theorem Parameter.roundTrips : RoundTrips Parameter.toJson Parameter.ofJson? := by
  intro parameter
  simp [toJson, ofJson?, Fields.flag, List.lookup_append]

@[simp] theorem list?_parameters (parameters : List Parameter) :
    list? Parameter.ofJson? (ofList Parameter.toJson parameters) = some parameters :=
  Parameter.roundTrips.list parameters

theorem Signature.roundTrips : RoundTrips Signature.toJson Signature.ofJson? := by
  intro signature
  simp [toJson, ofJson?, Fields.flag, List.lookup_append]

/-- Either reader of the relation takes its word. -/
theorem GenericRequirement.roundTrips_readWith? {relation? : Json → Option Relation}
    (words : ∀ relation : Relation, relation? (.str relation.word) = some relation) :
    RoundTrips toJson (readWith? relation?) := by
  intro requirement
  cases requirement with
  | conformance typeName proto =>
      refine (readWith?_obj List.lookup_cons_self (words .conformance)).trans ?_
      simp [ofFields?]
  | sameType left right =>
      refine (readWith?_obj List.lookup_cons_self (words .sameType)).trans ?_
      simp [ofFields?]

theorem GenericRequirement.roundTrips : RoundTrips toJson ofJson? := by
  apply roundTrips_readWith?
  intro relation
  cases relation <;> rfl

theorem GenericRequirement.roundTrips_member : RoundTrips toJson ofMember? := by
  apply roundTrips_readWith?
  intro relation
  cases relation <;> rfl

@[simp] theorem list?_genericRequirements (requirements : List GenericRequirement) :
    list? GenericRequirement.ofMember? (ofList GenericRequirement.toJson requirements) =
      some requirements :=
  GenericRequirement.roundTrips_member.list requirements

theorem Fixity.roundTrips : RoundTrips (fun fixity => .str fixity.word) Fixity.ofJson? := by
  intro fixity
  cases fixity <;> rfl

theorem Associativity.roundTrips :
    RoundTrips (fun side => .str side.word) Associativity.ofJson? := by
  intro side
  cases side <;> rfl

/-! ### Records

A heading comes first and its members are found there; the members behind it are found past it.
-/

@[simp] theorem Heading.ofFields?_append (heading : Heading) (rest : Fields) :
    ofFields? (heading.fields ++ rest) = some heading := by
  simp [ofFields?, fields, Attribute.roundTrips.list heading.attributes,
    Modifier.roundTrips.list heading.modifiers]

@[simp] theorem Heading.lookup_fields (heading : Heading) {key : String}
    (notAttributes : key ≠ "attributes") (notModifiers : key ≠ "modifiers")
    (notKeyword : key ≠ "keyword") : heading.fields.lookup key = none := by
  simp [fields, notAttributes, notModifiers, notKeyword]

@[simp] theorem NamedHeading.ofFields?_append (heading : NamedHeading) (rest : Fields) :
    ofFields? (heading.fields ++ rest) = some heading := by
  simp [ofFields?, fields, List.lookup_append]

@[simp] theorem NamedHeading.lookup_fields (heading : NamedHeading) {key : String}
    (notAttributes : key ≠ "attributes") (notModifiers : key ≠ "modifiers")
    (notKeyword : key ≠ "keyword") (notName : key ≠ "name") :
    heading.fields.lookup key = none := by
  simp [fields, List.lookup_append, notAttributes, notModifiers, notKeyword, notName]

theorem AssociatedType.ofFields?_fields (record : AssociatedType) :
    ofFields? record.fields = some record := by
  simp [ofFields?, fields, genericRequirements?, genericRequirementsField, List.lookup_append]

theorem EnumCase.ofFields?_fields (record : EnumCase) : ofFields? record.fields = some record := by
  have payload := ofFound?_ofOption Parameter.roundTrips.list (by simp [ofList])
    record.associatedValue
  simp [ofFields?, fields, List.lookup_append, payload]

@[simp] theorem TypeDeclaration.ofFields?_append (record : TypeDeclaration) (rest : Fields) :
    ofFields? (record.fields ++ rest) = some record := by
  simp [ofFields?, fields, genericParameters?, genericParametersField, genericRequirements?,
    genericRequirementsField, List.lookup_append]

theorem TypeDeclaration.ofFields?_fields (record : TypeDeclaration) :
    ofFields? record.fields = some record := by
  simpa using record.ofFields?_append []

@[simp] theorem TypeDeclaration.lookup_cases (record : TypeDeclaration) :
    record.fields.lookup "cases" = none := by
  simp [fields, genericParametersField, genericRequirementsField, List.lookup_append]

theorem EnumCase.roundTrips :
    RoundTrips (fun record => .obj record.fields)
      (fun json => (EnumCase.layout.fields? json).bind EnumCase.ofFields?) :=
  EnumCase.ofFields?_fields

theorem Enumeration.ofFields?_fields (record : Enumeration) :
    ofFields? record.fields = some record := by
  simp [ofFields?, fields, List.lookup_append, EnumCase.roundTrips.list record.cases]

theorem Extension.ofFields?_fields (record : Extension) :
    ofFields? record.fields = some record := by
  simp [ofFields?, fields, genericRequirements?, genericRequirementsField, List.lookup_append]

theorem Deinitializer.ofFields?_fields (record : Deinitializer) :
    ofFields? record.fields = some record := by
  have heading : Heading.ofFields? record.toHeading.fields = some record.toHeading := by
    simpa using record.toHeading.ofFields?_append []
  simp [ofFields?, fields, heading]

theorem Function.ofFields?_fields (record : Function) : ofFields? record.fields = some record := by
  simp [ofFields?, fields, genericParameters?, genericParametersField, genericRequirements?,
    genericRequirementsField, List.lookup_append, Signature.roundTrips record.signature]

theorem ModuleImport.ofFields?_fields (record : ModuleImport) :
    ofFields? record.fields = some record := by
  simp [ofFields?, fields, List.lookup_append]

theorem Initializer.ofFields?_fields (record : Initializer) :
    ofFields? record.fields = some record := by
  simp [ofFields?, fields, Fields.flag, genericParameters?, genericParametersField,
    genericRequirements?, genericRequirementsField, List.lookup_append]

theorem OperatorDeclaration.ofFields?_fields (record : OperatorDeclaration) :
    ofFields? record.fields = some record := by
  simp [ofFields?, fields, List.lookup_append, Fixity.roundTrips record.fixity]

theorem PrecedenceGroup.ofFields?_fields (record : PrecedenceGroup) :
    ofFields? record.fields = some record := by
  have associativity := ofFound?_ofOption Associativity.roundTrips (by simp) record.associativity
  have assignment := ofFound?_ofOption flag?_bool (by simp) record.assignment
  simp [ofFields?, fields, List.lookup_append, associativity, assignment]

theorem Subscript.ofFields?_fields (record : Subscript) :
    ofFields? record.fields = some record := by
  simp [ofFields?, fields, genericParameters?, genericParametersField, genericRequirements?,
    genericRequirementsField, List.lookup_append]

theorem TypeAlias.ofFields?_fields (record : TypeAlias) :
    ofFields? record.fields = some record := by
  simp [ofFields?, fields, genericParameters?, genericParametersField, List.lookup_append]

theorem VariableBinding.ofFields?_fields (record : VariableBinding) :
    ofFields? record.fields = some record := by
  simp [ofFields?, fields, List.lookup_append]

/-! ### Declarations and selectors -/

namespace Kind

theorem recordOfFields?_recordFields (kind : Kind) (record : kind.Record) :
    kind.recordOfFields? (kind.recordFields record) = some record := by
  cases kind with
  | associatedType => exact AssociatedType.ofFields?_fields record
  | enumCase => exact EnumCase.ofFields?_fields record
  | classType => exact TypeDeclaration.ofFields?_fields record
  | deinitializer => exact Deinitializer.ofFields?_fields record
  | enumeration => exact Enumeration.ofFields?_fields record
  | extension => exact Extension.ofFields?_fields record
  | function => exact Function.ofFields?_fields record
  | moduleImport => exact ModuleImport.ofFields?_fields record
  | initializer => exact Initializer.ofFields?_fields record
  | operator => exact OperatorDeclaration.ofFields?_fields record
  | precedenceGroup => exact PrecedenceGroup.ofFields?_fields record
  | protocol => exact TypeDeclaration.ofFields?_fields record
  | structType => exact TypeDeclaration.ofFields?_fields record
  | subscript => exact Subscript.ofFields?_fields record
  | typeAlias => exact TypeAlias.ofFields?_fields record
  | variableBinding => exact VariableBinding.ofFields?_fields record

/-- A record of a known kind stands alone, without a tag. -/
theorem roundTrips_record (kind : Kind) :
    RoundTrips (fun record => .obj (kind.recordFields record)) kind.recordOfJson? :=
  kind.recordOfFields?_recordFields

theorem roundTrips_label : RoundTrips (fun kind => .str kind.label) ofJson? := by
  intro kind
  cases kind <;> rfl

end Kind

namespace Declaration

theorem exists_of (declaration : Declaration) :
    ∃ kind, ∃ record : kind.Record, of kind record = declaration := by
  cases declaration with
  | associatedType record => exact ⟨.associatedType, record, rfl⟩
  | enumCase record => exact ⟨.enumCase, record, rfl⟩
  | classType record => exact ⟨.classType, record, rfl⟩
  | deinitializer record => exact ⟨.deinitializer, record, rfl⟩
  | enumeration record => exact ⟨.enumeration, record, rfl⟩
  | extension record => exact ⟨.extension, record, rfl⟩
  | function record => exact ⟨.function, record, rfl⟩
  | moduleImport record => exact ⟨.moduleImport, record, rfl⟩
  | initializer record => exact ⟨.initializer, record, rfl⟩
  | operator record => exact ⟨.operator, record, rfl⟩
  | precedenceGroup record => exact ⟨.precedenceGroup, record, rfl⟩
  | protocol record => exact ⟨.protocol, record, rfl⟩
  | structType record => exact ⟨.structType, record, rfl⟩
  | subscript record => exact ⟨.subscript, record, rfl⟩
  | typeAlias record => exact ⟨.typeAlias, record, rfl⟩
  | variableBinding record => exact ⟨.variableBinding, record, rfl⟩

theorem fields_of (kind : Kind) (record : kind.Record) :
    (of kind record).fields = kind.recordFields record := by
  cases kind <;> rfl

/-- The tag is a spare member of the record that it stands beside. -/
theorem roundTrips : RoundTrips toJson ofJson? := by
  intro declaration
  obtain ⟨kind, record, rfl⟩ := declaration.exists_of
  have unknown := Kind.lookup_format_eq_none_iff.mpr kind.kind_not_mem_keys
  have tagAdded : FieldRevision kind.format (kind.recordFields record)
      (("kind", .str kind.label) :: kind.recordFields record) :=
    .spare [] _ _ unknown
  rw [toJson, fields_of, kind_of,
    ofJson?_obj List.lookup_cons_self (Kind.roundTrips_label kind),
    Kind.recordOfFields?_eq tagAdded.agrees, Kind.recordOfFields?_recordFields, Option.bind_some]

end Declaration

namespace Selector

theorem roundTrips_kind : RoundTrips (fun kind => .str kind.label) readKind? := by
  intro kind
  cases kind <;> rfl

theorem roundTrips : RoundTrips toJson ofJson? := by
  intro selector
  cases selector with
  | any => rfl
  | only kind => simp [toJson, ofJson?, roundTrips_kind kind]
  | anyOf kinds =>
      have listed := roundTrips_kind.list kinds
      simpa [toJson, ofJson?, ofTexts, ofList, Function.comp_def] using listed

end Selector

/-! ### The record format as a whole -/

/-- Reading undoes writing, for declarations, for records that stand alone and for their parts.
What reads as a declaration still does after any number of revisions: members added that a record
does not know, at any depth, and absent optional members left out or written as `null`. -/
theorem records_read_back_as_written :
    RoundTrips Declaration.toJson Declaration.ofJson? ∧
    (∀ kind : Kind,
      RoundTrips (fun record => .obj (kind.recordFields record)) kind.recordOfJson?) ∧
    (RoundTrips Attribute.toJson Attribute.ofJson? ∧
      RoundTrips Argument.toJson Argument.ofJson? ∧
      RoundTrips Modifier.toJson Modifier.ofJson? ∧
      RoundTrips GenericParameter.toJson GenericParameter.ofJson? ∧
      RoundTrips GenericRequirement.toJson GenericRequirement.ofJson? ∧
      RoundTrips GenericRequirement.toJson GenericRequirement.ofMember? ∧
      RoundTrips Parameter.toJson Parameter.ofJson? ∧
      RoundTrips Signature.toJson Signature.ofJson? ∧
      RoundTrips Selector.toJson Selector.ofJson?) ∧
    ∀ (json json' : Json) (declaration : Declaration),
      Declaration.ofJson? json = some declaration →
      Relation.ReflTransGen Declaration.Revision json json' →
      Declaration.ofJson? json' = some declaration := by
  refine ⟨Declaration.roundTrips, Kind.roundTrips_record,
    ⟨Attribute.roundTrips, Argument.roundTrips, Modifier.roundTrips, GenericParameter.roundTrips,
      GenericRequirement.roundTrips, GenericRequirement.roundTrips_member, Parameter.roundTrips,
      Signature.roundTrips, Selector.roundTrips⟩, ?_⟩
  intro json json' declaration reads revisions
  induction revisions with
  | refl => exact reads
  | tail _ revision inductionHypothesis =>
      exact (Declaration.overlooks revision).trans inductionHypothesis

/-- The members of the case `a`, followed by others. -/
def caseMembers (others : Fields) : Fields :=
  [("attributes", .arr []), ("modifiers", .arr []), ("keyword", .str "case"), ("name", .str "a"),
   ("associated_value", .null)] ++ others

/-- An enumeration with one case, and members between its tag and the others. -/
def taggedEnumeration (between element : Fields) : Json :=
  .obj ([("kind", .str "enumeration")] ++ between ++
    [("attributes", .arr []), ("modifiers", .arr []), ("keyword", .str "enum"),
     ("name", .str "E"), ("inheritance", .arr []), ("generic_parameters", .arr []),
     ("generic_requirements", .arr [])] ++ [("cases", .arr [.obj element])])

/-- The enumeration that `taggedEnumeration` is read as. -/
def enumerationOfA : Declaration :=
  .enumeration
    { attributes := [], modifiers := [], keyword := "enum", name := "E", inheritance := [],
      genericParameters := [], genericRequirements := [],
      cases :=
        [{ attributes := [], modifiers := [], keyword := "case", name := "a",
           associatedValue := none, rawValue := none }] }

/-- A line number is added to the enumeration, its case gets a member called `kind`, which is no
tag there, and the raw value of the case is left out. -/
theorem taggedEnumeration_read_back :
    Declaration.ofJson? (taggedEnumeration [] (caseMembers [("raw_value", .null)])) =
      some enumerationOfA ∧
    Declaration.ofJson?
        (taggedEnumeration [("line", .num 3 0)] (caseMembers [("kind", .bool true)])) =
      some enumerationOfA := by
  have written : enumerationOfA.toJson =
      taggedEnumeration [] (caseMembers [("raw_value", .null)]) := rfl
  have reads := written ▸ records_read_back_as_written.1 enumerationOfA
  have lineAdded : Declaration.Revision
      (taggedEnumeration [] (caseMembers [("raw_value", .null)]))
      (taggedEnumeration [("line", .num 3 0)] (caseMembers [("raw_value", .null)])) :=
    .mk rfl rfl (.spare [("kind", .str "enumeration")] _ _ rfl)
  have caseRevised : ∀ {between element element' : Fields},
      FieldRevision EnumCase.format element element' →
      Declaration.Revision (taggedEnumeration between element)
        (taggedEnumeration between element') := by
    intro between element element' revised
    have inside : ItemRevision EnumCase.Revision (.arr [.obj element]) (.arr [.obj element']) :=
      .mk [] [] (.members revised)
    exact .mk rfl rfl (.within _ [] rfl inside)
  have kindAdded : FieldRevision EnumCase.format (caseMembers [("raw_value", .null)])
      (caseMembers [("kind", .bool true), ("raw_value", .null)]) :=
    .spare (caseMembers []) _ _ rfl
  have rawValueDropped : FieldRevision EnumCase.format
      (caseMembers [("kind", .bool true), ("raw_value", .null)])
      (caseMembers [("kind", .bool true)]) :=
    .drop (caseMembers [("kind", .bool true)]) [] rfl rfl rfl
  have revisions := ((Relation.ReflTransGen.single lineAdded).tail (caseRevised kindAdded)).tail
    (caseRevised rawValueDropped)
  exact ⟨reads, records_read_back_as_written.2.2.2 _ _ _ reads revisions⟩

end Synopsis
