/-
Module: Synopsis.Proofs.Revisions
Purpose: What the reading of records overlooks.  A record may have members that its format does not
  know, at any depth, and an optional member that is absent may be missing or `null`.
Main exports:
  Json.Member, Json.Format, Json.Format.FieldRevision, Json.RecordRevision, Json.ItemRevision,
  Json.TaggedRevision, Json.Overlooks, Declaration.Revision, Declaration.overlooks
-/
import Synopsis.Record.Codec

namespace Synopsis

open Json (Fields Layout)

namespace Json

/-! ### Revisions of JSON values -/

/-- What a format says of a member: whether it may be absent, and how the records in its value may
be revised. -/
structure Member where
  optional : Bool
  Inside : Json → Json → Prop

namespace Member

/-- A member that always has a value, if only a default one, and holds no records. -/
def plain : Member :=
  { optional := false, Inside := fun _ _ => False }

/-- A member that may be absent and holds no records. -/
def absentable : Member :=
  { optional := true, Inside := fun _ _ => False }

/-- A member that always has a value and holds records. -/
def holding (Inside : Json → Json → Prop) : Member :=
  { optional := false, Inside }

end Member

/-- The members of a record by their keys. -/
abbrev Format := List (String × Member)

/-- A revision of one item of an array. -/
inductive ItemRevision (Inside : Json → Json → Prop) : Json → Json → Prop where
  | mk (before after : List Json) {item item' : Json} (revised : Inside item item') :
      ItemRevision Inside (.arr (before ++ item :: after)) (.arr (before ++ item' :: after))

/-- One revision of the members of a record. -/
inductive FieldRevision (format : Format) : Fields → Fields → Prop where
  /-- A member that the format does not know is added. -/
  | spare (before after : Fields) {key : String} (value : Json)
      (unknown : format.lookup key = none) :
      FieldRevision format (before ++ after) (before ++ (key, value) :: after)
  /-- An optional member that is missing becomes `null`. -/
  | fill (before after : Fields) {key : String} {member : Member}
      (known : format.lookup key = some member) (optional : member.optional = true)
      (absent : (before ++ after).lookup key = none) :
      FieldRevision format (before ++ after) (before ++ (key, .null) :: after)
  /-- An optional member that is `null` is left out. -/
  | drop (before after : Fields) {key : String} {member : Member}
      (known : format.lookup key = some member) (optional : member.optional = true)
      (absent : (before ++ after).lookup key = none) :
      FieldRevision format (before ++ (key, .null) :: after) (before ++ after)
  /-- A member is revised inside. -/
  | within (before after : Fields) {key : String} {member : Member} {value value' : Json}
      (known : format.lookup key = some member) (revised : member.Inside value value') :
      FieldRevision format (before ++ (key, value) :: after) (before ++ (key, value') :: after)

/-- One revision of a record, which is an object, or an array of its members in order. -/
inductive RecordRevision (layout : Layout) (format : Format) : Json → Json → Prop where
  | members {fields fields' : Fields} (revised : FieldRevision format fields fields') :
      RecordRevision layout format (.obj fields) (.obj fields')
  | item (before after : List Json) {key : String} {member : Member} {value value' : Json}
      (place : layout.keys[before.length]? = some key) (known : format.lookup key = some member)
      (revised : member.Inside value value') :
      RecordRevision layout format (.arr (before ++ value :: after))
        (.arr (before ++ value' :: after))

/-- One revision of a tagged object, whose tag tells the format of its other members. -/
inductive TaggedRevision {ι : Type} (key : String) (variant? : Json → Option ι)
    (format : ι → Format) : Json → Json → Prop where
  | mk {fields fields' : Fields} {tag : Json} {variant : ι} (found : fields.lookup key = some tag)
      (known : variant? tag = some variant)
      (revised : FieldRevision (format variant ++ [(key, .plain)]) fields fields') :
      TaggedRevision key variant? format (.obj fields) (.obj fields')

/-- A reader that gives the same before and after a revision. -/
def Overlooks {α : Type} (read : Json → Option α) (Revision : Json → Json → Prop) : Prop :=
  ∀ ⦃json json' : Json⦄, Revision json json' → read json' = read json

theorem Overlooks.list {α : Type} {read : Json → Option α} {Inside : Json → Json → Prop}
    (overlooks : Overlooks read Inside) : Overlooks (list? read) (ItemRevision Inside) := by
  rintro _ _ ⟨before, after, revised⟩
  simp only [list?, List.mapM_append, List.mapM_cons, overlooks revised]

/-! ### What a reader sees of a member -/

/-- A member put between others is found unless one before it has its key. -/
theorem lookup_insert (before after : Fields) (key other : String) (value : Json) :
    (before ++ (other, value) :: after).lookup key =
      if key = other ∧ before.lookup key = none then some value
      else (before ++ after).lookup key := by
  rw [List.lookup_append, List.lookup_append, List.lookup_cons]
  cases before.lookup key with
  | some earlier => simp
  | none =>
      by_cases same : key = other
      · simp [same]
      · simp [same, beq_false_of_ne same]

/-- How the value of a member can differ after a revision. -/
inductive Member.Differs (member : Member) : Option Json → Option Json → Prop where
  | same (value : Option Json) : Differs member value value
  | filled (optional : member.optional = true) : Differs member none (some .null)
  | dropped (optional : member.optional = true) : Differs member (some .null) none
  | within {value value' : Json} (revised : member.Inside value value') :
      Differs member (some value) (some value')

/-- Two lists of members differ as their format allows. -/
def Format.Agrees (format : Format) (fields fields' : Fields) : Prop :=
  ∀ ⦃key : String⦄ ⦃member : Member⦄, format.lookup key = some member →
    member.Differs (fields.lookup key) (fields'.lookup key)

theorem FieldRevision.agrees {format : Format} {fields fields' : Fields}
    (revision : FieldRevision format fields fields') : format.Agrees fields fields' := by
  intro key member known
  -- A revision is at one key: the other keys are looked up past it.
  cases revision with
  | @spare before after other value unknown =>
      have apart : key ≠ other := by
        rintro rfl
        simp [known] at unknown
      rw [lookup_insert, if_neg fun found => apart found.1]
      exact .same _
  | @fill before after other otherMember otherKnown optional absent =>
      rw [lookup_insert]
      split
      · next found =>
          obtain rfl := found.1
          obtain rfl := Option.some.inj (known.symm.trans otherKnown)
          rw [absent]
          exact .filled optional
      · exact .same _
  | @drop before after other otherMember otherKnown optional absent =>
      rw [lookup_insert]
      split
      · next found =>
          obtain rfl := found.1
          obtain rfl := Option.some.inj (known.symm.trans otherKnown)
          rw [absent]
          exact .dropped optional
      · exact .same _
  | @within before after other otherMember value value' otherKnown revised =>
      rw [lookup_insert, lookup_insert]
      split
      · next found =>
          obtain rfl := found.1
          obtain rfl := Option.some.inj (known.symm.trans otherKnown)
          exact .within revised
      · exact .same _

namespace Format.Agrees

variable {format : Format} {fields fields' : Fields} {α : Type} {read : Json → Option α}
  {Inside : Json → Json → Prop}

/-- A format that goes on where another ends allows no more of the members of that one. -/
theorem of_append {more : Format} (agrees : (format ++ more).Agrees fields fields') :
    format.Agrees fields fields' := by
  intro key member known
  apply agrees
  rw [List.lookup_append, known, Option.some_or]

theorem lookup_eq (agrees : format.Agrees fields fields') (key : String)
    (known : format.lookup key = some .plain) : fields'.lookup key = fields.lookup key := by
  have differs := agrees known
  generalize fields.lookup key = value, fields'.lookup key = value' at differs ⊢
  cases differs with
  | same => rfl
  | filled optional => cases optional
  | dropped optional => cases optional
  | within revised => exact revised.elim

theorem required_eq (agrees : format.Agrees fields fields') (key : String)
    (known : format.lookup key = some .plain) :
    fields'.required key read = fields.required key read := by
  rw [Fields.required, Fields.required, agrees.lookup_eq key known]

theorem flag_eq (agrees : format.Agrees fields fields') (key : String)
    (known : format.lookup key = some .plain) : fields'.flag key = fields.flag key := by
  rw [Fields.flag, Fields.flag, agrees.lookup_eq key known]

theorem required_holding_eq (agrees : format.Agrees fields fields') (key : String)
    (known : format.lookup key = some (.holding Inside)) (overlooks : Overlooks read Inside) :
    fields'.required key read = fields.required key read := by
  have differs := agrees known
  rw [Fields.required, Fields.required]
  generalize fields.lookup key = value, fields'.lookup key = value' at differs ⊢
  cases differs with
  | same => rfl
  | filled optional => cases optional
  | dropped optional => cases optional
  | within revised => exact overlooks revised

theorem optional_eq (agrees : format.Agrees fields fields') (key : String)
    (known : format.lookup key = some .absentable) :
    fields'.optional key read = fields.optional key read := by
  have differs := agrees known
  rw [Fields.optional, Fields.optional]
  generalize fields.lookup key = value, fields'.lookup key = value' at differs ⊢
  cases differs with
  | same => rfl
  | filled => rfl
  | dropped => rfl
  | within revised => exact revised.elim

/-- A revised array is not `null`, so an optional list of records is there before and after. -/
theorem optional_list_eq (agrees : format.Agrees fields fields') (key : String)
    (known : format.lookup key = some { optional := true, Inside := ItemRevision Inside })
    (overlooks : Overlooks read Inside) :
    fields'.optional key (list? read) = fields.optional key (list? read) := by
  have differs := agrees known
  rw [Fields.optional, Fields.optional]
  generalize fields.lookup key = value, fields'.lookup key = value' at differs ⊢
  cases differs with
  | same => rfl
  | filled => rfl
  | dropped => rfl
  | within revised =>
      have same := overlooks.list revised
      cases revised with
      | mk before after inside => simpa using congrArg (Option.map some) same

end Format.Agrees

/-! ### Records -/

/-- An item of an array of members is revised as the member it stands for. -/
theorem fieldRevision_zip {keys : List String} {format : Format} {before after : List Json}
    {key : String} {member : Member} {value value' : Json}
    (place : keys[before.length]? = some key) (known : format.lookup key = some member)
    (revised : member.Inside value value') :
    FieldRevision format (keys.zip (before ++ value :: after))
      (keys.zip (before ++ value' :: after)) := by
  obtain ⟨inRange, keyEq⟩ := List.getElem?_eq_some_iff.mp place
  have split : keys = keys.take before.length ++ key :: keys.drop (before.length + 1) := by
    rw [← keyEq, ← List.drop_eq_getElem_cons inRange, List.take_append_drop]
  have length : (keys.take before.length).length = before.length := by
    rw [List.length_take]
    omega
  rw [split, List.zip_append length, List.zip_append length]
  exact .within _ _ known revised

/-- A reader of records overlooks what its reader of members overlooks. -/
theorem overlooks_record {α : Type} (layout : Layout) (format : Format) {read : Fields → Option α}
    (fieldwise : ∀ {fields fields' : Fields}, format.Agrees fields fields' →
      read fields' = read fields) :
    Overlooks (fun json => (layout.fields? json).bind read) (RecordRevision layout format) := by
  intro json json' revision
  cases revision with
  | members revised => exact fieldwise revised.agrees
  | item before after place known revised =>
      simp only [Layout.fields?, List.length_append, List.length_cons]
      split
      · exact fieldwise (fieldRevision_zip place known revised).agrees
      · rfl

/-- A revision of a tagged object leaves its tag. -/
theorem overlooks_tagged {ι α : Type} {key : String} {variant? : Json → Option ι}
    {format : ι → Format} {read : Json → Option α}
    (apart : ∀ variant, (format variant).lookup key = none)
    (fieldwise : ∀ {variant : ι} {tag : Json} {fields fields' : Fields},
      fields.lookup key = some tag → fields'.lookup key = some tag → variant? tag = some variant →
        (format variant).Agrees fields fields' → read (.obj fields') = read (.obj fields)) :
    Overlooks read (TaggedRevision key variant? format) := by
  rintro _ _ @⟨fields, fields', tag, variant, found, known, revised⟩
  have tagKnown : (format variant ++ [(key, Member.plain)]).lookup key = some .plain := by
    simp [List.lookup_append, apart]
  have found' := (revised.agrees.lookup_eq key tagKnown).trans found
  exact fieldwise found found' known revised.agrees.of_append

end Json

open Json

/-! ### Parts -/

/-- One revision of an attribute argument. -/
def Argument.Revision : Json → Json → Prop :=
  RecordRevision layout [("name", .absentable), ("value", .plain)]

theorem Argument.overlooks : Overlooks Argument.ofJson? Argument.Revision := by
  refine overlooks_record _ _ fun agrees => ?_
  rw [agrees.optional_eq "name" rfl, agrees.required_eq "value" rfl]

/-- One revision of an attribute. -/
def Attribute.Revision : Json → Json → Prop :=
  RecordRevision layout
    [("name", .plain), ("arguments", .holding (ItemRevision Argument.Revision))]

theorem Attribute.overlooks : Overlooks Attribute.ofJson? Attribute.Revision := by
  refine overlooks_record _ _ fun agrees => ?_
  rw [agrees.required_eq "name" rfl,
    agrees.required_holding_eq "arguments" rfl Argument.overlooks.list]

/-- One revision of a modifier. -/
def Modifier.Revision : Json → Json → Prop :=
  RecordRevision layout [("name", .plain), ("detail", .absentable)]

theorem Modifier.overlooks : Overlooks Modifier.ofJson? Modifier.Revision := by
  refine overlooks_record _ _ fun agrees => ?_
  rw [agrees.required_eq "name" rfl, agrees.optional_eq "detail" rfl]

/-- One revision of a generic parameter. -/
def GenericParameter.Revision : Json → Json → Prop :=
  RecordRevision layout [("name", .plain), ("constraint", .absentable)]

theorem GenericParameter.overlooks :
    Overlooks GenericParameter.ofJson? GenericParameter.Revision := by
  refine overlooks_record _ _ fun agrees => ?_
  rw [agrees.required_eq "name" rfl, agrees.optional_eq "constraint" rfl]

/-- One revision of a parameter. -/
def Parameter.Revision : Json → Json → Prop :=
  RecordRevision layout
    [("first_name", .absentable), ("second_name", .absentable), ("type", .absentable),
     ("variadic", .plain), ("default_argument", .absentable)]

theorem Parameter.overlooks : Overlooks Parameter.ofJson? Parameter.Revision := by
  refine overlooks_record _ _ fun agrees => ?_
  rw [agrees.optional_eq "first_name" rfl, agrees.optional_eq "second_name" rfl,
    agrees.optional_eq "type" rfl, agrees.flag_eq "variadic" rfl,
    agrees.optional_eq "default_argument" rfl]

/-- One revision of a signature. -/
def Signature.Revision : Json → Json → Prop :=
  RecordRevision layout
    [("input", .holding (ItemRevision Parameter.Revision)), ("output", .absentable),
     ("throws_keyword", .absentable), ("is_async", .plain)]

theorem Signature.overlooks : Overlooks Signature.ofJson? Signature.Revision := by
  refine overlooks_record _ _ fun agrees => ?_
  rw [agrees.required_holding_eq "input" rfl Parameter.overlooks.list,
    agrees.optional_eq "output" rfl, agrees.optional_eq "throws_keyword" rfl,
    agrees.flag_eq "is_async" rfl]

/-- The two sides of a requirement. -/
def Relation.format : Relation → Format
  | conformance => [("type_name", .plain), ("protocol", .plain)]
  | sameType => [("left", .plain), ("right", .plain)]

/-- One revision of a generic requirement of a declaration. -/
def GenericRequirement.Revision : Json → Json → Prop :=
  TaggedRevision "relation" Relation.ofIndexed? Relation.format

theorem GenericRequirement.ofFields?_eq {relation : Relation} {fields fields' : Fields}
    (agrees : relation.format.Agrees fields fields') :
    ofFields? fields' relation = ofFields? fields relation := by
  cases relation with
  | conformance =>
      rw [ofFields?, agrees.required_eq "type_name" rfl, agrees.required_eq "protocol" rfl,
        ofFields?]
  | sameType =>
      rw [ofFields?, agrees.required_eq "left" rfl, agrees.required_eq "right" rfl, ofFields?]

theorem GenericRequirement.readWith?_obj {relation? : Json → Option Relation} {fields : Fields}
    {tag : Json} {relation : Relation} (found : fields.lookup "relation" = some tag)
    (known : relation? tag = some relation) :
    readWith? relation? (.obj fields) = ofFields? fields relation := by
  simp [readWith?, tagged?, found, known, Layout.fields?]

theorem GenericRequirement.overlooks :
    Overlooks GenericRequirement.ofMember? GenericRequirement.Revision := by
  refine overlooks_tagged ?_ ?_
  · intro relation
    cases relation <;> rfl
  · intro relation tag fields fields' found found' known agrees
    rw [ofMember?, readWith?_obj found known, readWith?_obj found' known, ofFields?_eq agrees]

/-! ### Records -/

/-- The format of the members that every declaration has. -/
def Heading.format : Format :=
  [("attributes", .holding (ItemRevision Attribute.Revision)),
   ("modifiers", .holding (ItemRevision Modifier.Revision)), ("keyword", .plain)]

theorem Heading.ofFields?_eq {fields fields' : Fields} (agrees : format.Agrees fields fields') :
    ofFields? fields' = ofFields? fields := by
  rw [ofFields?, agrees.required_holding_eq "attributes" rfl Attribute.overlooks.list,
    agrees.required_holding_eq "modifiers" rfl Modifier.overlooks.list,
    agrees.required_eq "keyword" rfl, ofFields?]

/-- The format of the members that every declaration with a name has. -/
def NamedHeading.format : Format :=
  Heading.format ++ [("name", .plain)]

theorem NamedHeading.ofFields?_eq {fields fields' : Fields}
    (agrees : format.Agrees fields fields') : ofFields? fields' = ofFields? fields := by
  rw [ofFields?, Heading.ofFields?_eq agrees.of_append, agrees.required_eq "name" rfl, ofFields?]

/-- The member that lists generic parameters. -/
def genericParametersFormat : String × Member :=
  ("generic_parameters", .holding (ItemRevision GenericParameter.Revision))

/-- The member that lists generic requirements. -/
def genericRequirementsFormat : String × Member :=
  ("generic_requirements", .holding (ItemRevision GenericRequirement.Revision))

theorem genericParameters?_eq {format : Format} {fields fields' : Fields}
    (agrees : format.Agrees fields fields')
    (known : format.lookup genericParametersFormat.1 = some genericParametersFormat.2) :
    genericParameters? fields' = genericParameters? fields :=
  agrees.required_holding_eq _ known GenericParameter.overlooks.list

theorem genericRequirements?_eq {format : Format} {fields fields' : Fields}
    (agrees : format.Agrees fields fields')
    (known : format.lookup genericRequirementsFormat.1 = some genericRequirementsFormat.2) :
    genericRequirements? fields' = genericRequirements? fields :=
  agrees.required_holding_eq _ known GenericRequirement.overlooks.list

/-- The format of an associated type. -/
def AssociatedType.format : Format :=
  NamedHeading.format ++
    [("inheritance", .plain), genericRequirementsFormat, ("default_type", .absentable)]

theorem AssociatedType.ofFields?_eq {fields fields' : Fields}
    (agrees : format.Agrees fields fields') : ofFields? fields' = ofFields? fields := by
  rw [ofFields?, NamedHeading.ofFields?_eq agrees.of_append, agrees.required_eq "inheritance" rfl,
    genericRequirements?_eq agrees rfl, agrees.optional_eq "default_type" rfl, ofFields?]

/-- The format of an enumeration case. -/
def EnumCase.format : Format :=
  NamedHeading.format ++
    [("associated_value", { optional := true, Inside := ItemRevision Parameter.Revision }),
     ("raw_value", .absentable)]

theorem EnumCase.ofFields?_eq {fields fields' : Fields}
    (agrees : format.Agrees fields fields') : ofFields? fields' = ofFields? fields := by
  rw [ofFields?, NamedHeading.ofFields?_eq agrees.of_append,
    agrees.optional_list_eq "associated_value" rfl Parameter.overlooks,
    agrees.optional_eq "raw_value" rfl, ofFields?]

/-- The format of a class, structure or protocol. -/
def TypeDeclaration.format : Format :=
  NamedHeading.format ++
    [("inheritance", .plain), genericParametersFormat, genericRequirementsFormat]

theorem TypeDeclaration.ofFields?_eq {fields fields' : Fields}
    (agrees : format.Agrees fields fields') : ofFields? fields' = ofFields? fields := by
  rw [ofFields?, NamedHeading.ofFields?_eq agrees.of_append, agrees.required_eq "inheritance" rfl,
    genericParameters?_eq agrees rfl, genericRequirements?_eq agrees rfl, ofFields?]

/-- One revision of an enumeration case in its enumeration, where it has no tag. -/
def EnumCase.Revision : Json → Json → Prop :=
  RecordRevision layout format

/-- The format of an enumeration. -/
def Enumeration.format : Format :=
  TypeDeclaration.format ++ [("cases", .holding (ItemRevision EnumCase.Revision))]

theorem Enumeration.ofFields?_eq {fields fields' : Fields}
    (agrees : format.Agrees fields fields') : ofFields? fields' = ofFields? fields := by
  rw [ofFields?, TypeDeclaration.ofFields?_eq agrees.of_append,
    agrees.required_holding_eq "cases" rfl (overlooks_record _ _ EnumCase.ofFields?_eq).list,
    ofFields?]

/-- The format of an extension. -/
def Extension.format : Format :=
  NamedHeading.format ++ [("inheritance", .plain), genericRequirementsFormat]

theorem Extension.ofFields?_eq {fields fields' : Fields}
    (agrees : format.Agrees fields fields') : ofFields? fields' = ofFields? fields := by
  rw [ofFields?, NamedHeading.ofFields?_eq agrees.of_append, agrees.required_eq "inheritance" rfl,
    genericRequirements?_eq agrees rfl, ofFields?]

/-- The format of a deinitializer. -/
def Deinitializer.format : Format :=
  Heading.format

theorem Deinitializer.ofFields?_eq {fields fields' : Fields}
    (agrees : format.Agrees fields fields') : ofFields? fields' = ofFields? fields := by
  rw [ofFields?, Heading.ofFields?_eq agrees, ofFields?]

/-- The format of a function. -/
def Function.format : Format :=
  NamedHeading.format ++
    [genericParametersFormat, ("signature", .holding Signature.Revision),
     genericRequirementsFormat]

theorem Function.ofFields?_eq {fields fields' : Fields}
    (agrees : format.Agrees fields fields') : ofFields? fields' = ofFields? fields := by
  rw [ofFields?, NamedHeading.ofFields?_eq agrees.of_append, genericParameters?_eq agrees rfl,
    agrees.required_holding_eq "signature" rfl Signature.overlooks,
    genericRequirements?_eq agrees rfl, ofFields?]

/-- The format of an import. -/
def ModuleImport.format : Format :=
  NamedHeading.format ++ [("import_kind", .absentable), ("path_components", .plain)]

theorem ModuleImport.ofFields?_eq {fields fields' : Fields}
    (agrees : format.Agrees fields fields') : ofFields? fields' = ofFields? fields := by
  rw [ofFields?, NamedHeading.ofFields?_eq agrees.of_append, agrees.optional_eq "import_kind" rfl,
    agrees.required_eq "path_components" rfl, ofFields?]

/-- The format of an initializer. -/
def Initializer.format : Format :=
  Heading.format ++
    [("optional", .absentable), genericParametersFormat,
     ("parameters", .holding (ItemRevision Parameter.Revision)), ("throws_keyword", .absentable),
     ("is_async", .plain), genericRequirementsFormat]

theorem Initializer.ofFields?_eq {fields fields' : Fields}
    (agrees : format.Agrees fields fields') : ofFields? fields' = ofFields? fields := by
  rw [ofFields?, Heading.ofFields?_eq agrees.of_append, agrees.optional_eq "optional" rfl,
    genericParameters?_eq agrees rfl,
    agrees.required_holding_eq "parameters" rfl Parameter.overlooks.list,
    agrees.optional_eq "throws_keyword" rfl, agrees.flag_eq "is_async" rfl,
    genericRequirements?_eq agrees rfl, ofFields?]

/-- The format of an operator declaration. -/
def OperatorDeclaration.format : Format :=
  NamedHeading.format ++ [("fixity", .plain), ("precedence_group", .absentable)]

theorem OperatorDeclaration.ofFields?_eq {fields fields' : Fields}
    (agrees : format.Agrees fields fields') : ofFields? fields' = ofFields? fields := by
  rw [ofFields?, NamedHeading.ofFields?_eq agrees.of_append, agrees.required_eq "fixity" rfl,
    agrees.optional_eq "precedence_group" rfl, ofFields?]

/-- The format of a precedence group. -/
def PrecedenceGroup.format : Format :=
  NamedHeading.format ++
    [("higher_than", .plain), ("lower_than", .plain), ("associativity", .absentable),
     ("assignment", .absentable)]

theorem PrecedenceGroup.ofFields?_eq {fields fields' : Fields}
    (agrees : format.Agrees fields fields') : ofFields? fields' = ofFields? fields := by
  rw [ofFields?, NamedHeading.ofFields?_eq agrees.of_append, agrees.required_eq "higher_than" rfl,
    agrees.required_eq "lower_than" rfl, agrees.optional_eq "associativity" rfl,
    agrees.optional_eq "assignment" rfl, ofFields?]

/-- The format of a subscript. -/
def Subscript.format : Format :=
  Heading.format ++
    [genericParametersFormat, ("parameters", .holding (ItemRevision Parameter.Revision)),
     ("return_type", .absentable), genericRequirementsFormat]

theorem Subscript.ofFields?_eq {fields fields' : Fields}
    (agrees : format.Agrees fields fields') : ofFields? fields' = ofFields? fields := by
  rw [ofFields?, Heading.ofFields?_eq agrees.of_append, genericParameters?_eq agrees rfl,
    agrees.required_holding_eq "parameters" rfl Parameter.overlooks.list,
    agrees.optional_eq "return_type" rfl, genericRequirements?_eq agrees rfl, ofFields?]

/-- The format of a type alias. -/
def TypeAlias.format : Format :=
  NamedHeading.format ++ [genericParametersFormat, ("initialized_type", .absentable)]

theorem TypeAlias.ofFields?_eq {fields fields' : Fields}
    (agrees : format.Agrees fields fields') : ofFields? fields' = ofFields? fields := by
  rw [ofFields?, NamedHeading.ofFields?_eq agrees.of_append, genericParameters?_eq agrees rfl,
    agrees.optional_eq "initialized_type" rfl, ofFields?]

/-- The format of a variable. -/
def VariableBinding.format : Format :=
  NamedHeading.format ++
    [("type_annotation", .absentable), ("initialized_value", .absentable)]

theorem VariableBinding.ofFields?_eq {fields fields' : Fields}
    (agrees : format.Agrees fields fields') : ofFields? fields' = ofFields? fields := by
  rw [ofFields?, NamedHeading.ofFields?_eq agrees.of_append,
    agrees.optional_eq "type_annotation" rfl, agrees.optional_eq "initialized_value" rfl,
    ofFields?]

/-! ### Declarations -/

namespace Kind

/-- The format of the records of a kind, the kind left out. -/
def format : Kind → Format
  | associatedType => AssociatedType.format
  | enumCase => EnumCase.format
  | classType => TypeDeclaration.format
  | deinitializer => Deinitializer.format
  | enumeration => Enumeration.format
  | extension => Extension.format
  | function => Function.format
  | moduleImport => ModuleImport.format
  | initializer => Initializer.format
  | operator => OperatorDeclaration.format
  | precedenceGroup => PrecedenceGroup.format
  | protocol => TypeDeclaration.format
  | structType => TypeDeclaration.format
  | subscript => Subscript.format
  | typeAlias => TypeAlias.format
  | variableBinding => VariableBinding.format

/-- A format knows the members that an array of the record has, and no others. -/
theorem lookup_format_eq_none_iff {kind : Kind} {key : String} :
    kind.format.lookup key = none ↔ key ∉ kind.layout.keys := by
  have sameKeys : (kind.format.map Prod.fst).Perm kind.layout.keys := by
    cases kind <;> decide
  rw [List.lookup_eq_none_iff, ← sameKeys.mem_iff, List.mem_map]
  grind

/-- No record has a member under the key of its tag. -/
theorem kind_not_mem_keys (kind : Kind) : "kind" ∉ kind.layout.keys := by
  cases kind <;> decide

theorem recordOfFields?_eq {kind : Kind} {fields fields' : Fields}
    (agrees : kind.format.Agrees fields fields') :
    kind.recordOfFields? fields' = kind.recordOfFields? fields := by
  cases kind with
  | associatedType => exact AssociatedType.ofFields?_eq agrees
  | enumCase => exact EnumCase.ofFields?_eq agrees
  | classType => exact TypeDeclaration.ofFields?_eq agrees
  | deinitializer => exact Deinitializer.ofFields?_eq agrees
  | enumeration => exact Enumeration.ofFields?_eq agrees
  | extension => exact Extension.ofFields?_eq agrees
  | function => exact Function.ofFields?_eq agrees
  | moduleImport => exact ModuleImport.ofFields?_eq agrees
  | initializer => exact Initializer.ofFields?_eq agrees
  | operator => exact OperatorDeclaration.ofFields?_eq agrees
  | precedenceGroup => exact PrecedenceGroup.ofFields?_eq agrees
  | protocol => exact TypeDeclaration.ofFields?_eq agrees
  | structType => exact TypeDeclaration.ofFields?_eq agrees
  | subscript => exact Subscript.ofFields?_eq agrees
  | typeAlias => exact TypeAlias.ofFields?_eq agrees
  | variableBinding => exact VariableBinding.ofFields?_eq agrees

end Kind

namespace Declaration

/-- One revision of a declaration. -/
def Revision : Json → Json → Prop :=
  TaggedRevision "kind" Kind.ofJson? Kind.format

theorem ofJson?_obj {fields : Fields} {tag : Json} {kind : Kind}
    (found : fields.lookup "kind" = some tag) (known : Kind.ofJson? tag = some kind) :
    ofJson? (.obj fields) =
      (kind.recordOfFields? fields).bind fun record => some (of kind record) := by
  simp [ofJson?, tagged?, found, known, Kind.recordOfJson?, Layout.fields?]

/-- A revised declaration is read as before. -/
theorem overlooks : Overlooks Declaration.ofJson? Declaration.Revision := by
  refine overlooks_tagged ?_ ?_
  · intro kind
    exact Kind.lookup_format_eq_none_iff.mpr kind.kind_not_mem_keys
  · intro kind tag fields fields' found found' known agrees
    rw [ofJson?_obj found known, ofJson?_obj found' known, Kind.recordOfFields?_eq agrees]

end Declaration

end Synopsis
