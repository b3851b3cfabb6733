/-
Module: Synopsis.Proofs.CorrespondingReadings
Purpose: Every reading gives the same for nodes that look alike.  One lemma for each reader; a
  reader that calls another uses that one's lemma.
Main exports:
  EntryMatch, RunMatch, PlaceMatch, Faithful.ofNode?_eq, Faithful.read_eq
-/
import Mathlib.Data.List.TakeWhile
import Synopsis.Proofs.Correspondence
import Synopsis.Reading

namespace Synopsis

theorem Node.after_eq_nil {node : Node} {spelling : String}
    (absent : node.hasToken spelling = false) : node.after spelling = [] := by
  have every : ∀ child ∈ node.children, !isToken spelling child := by
    intro child member
    simpa using List.any_eq_false.mp absent child member
  rw [Node.after, List.dropWhile_eq_nil_iff.mpr every, List.drop_nil]

namespace Faithful

variable {source source' : String} {Extra : Node → Prop} {R : Node → Node → Prop}
  (faithful : Faithful source source' Extra R)

include faithful

/-! ### Decorators -/

theorem attribute_ofNode {left right : Node} (related : R left right ∧ left.kind = "attribute") :
    Attribute.ofNode source' right = Attribute.ofNode source left := by
  have pair := faithful.inside related rfl
  rw [Attribute.ofNode, Attribute.ofNode, faithful.text related.1,
    faithful.childOfKind?_text pair "user_type" rfl]

theorem modifier_ofNode {left right : Node} (related : R left right) :
    Modifier.ofNode source' right = Modifier.ofNode source left := by
  rw [Modifier.ofNode, Modifier.ofNode, faithful.text related]

theorem isAttribute_eq {left right : Node} (related : R left right) :
    right.isAttribute = left.isAttribute := by
  rw [Node.isAttribute, Node.isAttribute, faithful.kind related]

theorem decorators_ofNode {left right : Node} (pair : Matching Extra R left right) :
    Decorators.ofNode source' right = Decorators.ofNode source left := by
  have found := faithful.childOfKind? pair "modifiers" rfl
  rw [Decorators.ofNode, Decorators.ofNode]
  generalize left.childOfKind? "modifiers" = one, right.childOfKind? "modifiers" = other at found
  cases found with
  | none => rfl
  | @some list list' related =>
      have parts := faithful.namedChildren (faithful.inside related rfl)
      have attributes : (list'.namedChildren.filter Node.isAttribute).map
          (Attribute.ofNode source') =
          (list.namedChildren.filter Node.isAttribute).map (Attribute.ofNode source) :=
        (parts.filter Node.isAttribute faithful.isAttribute_eq).map fun found =>
          faithful.attribute_ofNode ⟨found.1, by simpa [Node.isAttribute] using found.2⟩
      have modifiers : (list'.namedChildren.filter (!Node.isAttribute ·)).map
          (Modifier.ofNode source') =
          (list.namedChildren.filter (!Node.isAttribute ·)).map (Modifier.ofNode source) :=
        (parts.filter (!Node.isAttribute ·) fun found => by rw [faithful.isAttribute_eq found]).map
          fun found => faithful.modifier_ofNode found.1
      simp only [attributes, modifiers]

/-! ### Generics -/

theorem placeholderName?_eq {left right : Node} (pair : Matching Extra R left right) :
    placeholderName? source' right = placeholderName? source left := by
  have blind : Blind Extra R fun child =>
      child.field.isNone && placeholderKinds.contains child.kind := by
    constructor
    · intro one other related
      rw [faithful.field related, faithful.kind related]
    · intro node spare
      rcases (faithful.extra spare).kind_eq with kindEq | kindEq
      · rw [kindEq, (faithful.extra spare).field]
        rfl
      · rw [kindEq, (faithful.extra spare).field]
        rfl
  have before := pair.children.takeWhile (faithful.blind_token ":")
  exact bind_eq_of_rel (before.find? blind) fun found => faithful.text found.1

theorem genericParameter_ofNode? {left right : Node}
    (related : R left right ∧ left.kind = "type_parameter") :
    GenericParameter.ofNode? source' right = GenericParameter.ofNode? source left := by
  have pair := faithful.inside related rfl
  rw [GenericParameter.ofNode?, GenericParameter.ofNode?, faithful.placeholderName?_eq pair,
    faithful.namedAfter?_text pair]

theorem genericParametersOf_eq {left right : Node} (pair : Matching Extra R left right) :
    genericParametersOf source' right = genericParametersOf source left := by
  have found := faithful.childOfKind? pair "type_parameters" rfl
  rw [genericParametersOf, genericParametersOf]
  generalize left.childOfKind? "type_parameters" = one,
    right.childOfKind? "type_parameters" = other at found
  cases found with
  | none => rfl
  | some related =>
      have clause := faithful.inside related rfl
      exact (faithful.childrenOfKind clause "type_parameter" rfl).filterMap
        faithful.genericParameter_ofNode?

theorem genericRequirement_ofNode? {left right : Node} (related : R left right) :
    GenericRequirement.ofNode? source' right = GenericRequirement.ofNode? source left := by
  rw [GenericRequirement.ofNode?, GenericRequirement.ofNode?, faithful.text related,
    faithful.kind related]

theorem whereClausesOf_aligned {left right : Node} (pair : Matching Extra R left right) :
    Aligned (fun one other => R one other ∧ one.kind = "type_constraints")
      (whereClausesOf left) (whereClausesOf right) := by
  have found := faithful.childOfKind? pair "type_parameters" rfl
  rw [whereClausesOf, whereClausesOf]
  refine Interleaved.append ?_ (faithful.childrenOfKind pair "type_constraints" rfl)
  generalize left.childOfKind? "type_parameters" = one,
    right.childOfKind? "type_parameters" = other at found
  cases found with
  | none => exact .nil
  | some related =>
      have clause := faithful.inside related rfl
      exact faithful.childrenOfKind clause "type_constraints" rfl

theorem relationNode?_rel {left right : Node} (related : R left right) :
    Option.Rel R (relationNode? left) (relationNode? right) := by
  rw [relationNode?, relationNode?, faithful.kind related]
  split
  · next isConstraint =>
      have pair := faithful.inside ⟨related, eq_of_beq isConstraint⟩ rfl
      exact (faithful.namedChildren pair).head?
  · exact .some related

theorem genericRequirementsOf_eq {left right : Node} (pair : Matching Extra R left right) :
    genericRequirementsOf source' right = genericRequirementsOf source left := by
  have entries : Aligned R ((whereClausesOf left).flatMap Node.namedChildren)
      ((whereClausesOf right).flatMap Node.namedChildren) :=
    (faithful.whereClausesOf_aligned pair).flatMap_aligned fun related =>
      faithful.namedChildren (faithful.inside related rfl)
  have relations := entries.filter (·.kind != "where_keyword") fun related => by
    rw [faithful.kind related]
  exact relations.filterMap fun related =>
    bind_eq_of_rel (faithful.relationNode?_rel related.1) faithful.genericRequirement_ofNode?

/-! ### Parameters of functions -/

theorem parameterNames_eq {left right : Node} (pair : Matching Extra R left right) :
    parameterNames source' right = parameterNames source left := by
  have before := pair.children.takeWhile (faithful.blind_token ":")
  have names : ((right.children.takeWhile (!Node.isToken ":" ·)).filter
      Node.isParameterPart).filterMap (Node.text? source') =
      ((left.children.takeWhile (!Node.isToken ":" ·)).filter
        Node.isParameterPart).filterMap (Node.text? source) :=
    (before.filter faithful.blind_parameterPart).filterMap fun found => faithful.text found.1
  simp only [parameterNames, faithful.lookup?_text pair, names]

theorem parameter_ofNode {left right : Node} (related : R left right ∧ left.kind = "parameter")
    {default? default?' : Option Node} (defaults : Option.Rel R default? default?') :
    Parameter.ofNode source' right default?' = Parameter.ofNode source left default? := by
  have pair := faithful.inside related rfl
  have variadic : (right.children.any fun child => !child.isComment && child.isEllipsis) =
      left.children.any fun child => !child.isComment && child.isEllipsis := by
    refine pair.children.any ⟨?_, ?_⟩
    · intro one other found
      rw [faithful.isComment_eq found, faithful.isEllipsis_eq found]
    · intro node spare
      rw [(faithful.extra spare).isComment]
      rfl
  have value : ((right.lookup? "default_value").or default?').bind (Node.text? source') =
      ((left.lookup? "default_value").or default?).bind (Node.text? source) :=
    bind_eq_of_rel (rel_or (faithful.lookup? pair "default_value") defaults) faithful.text
  simp only [Parameter.ofNode, faithful.parameterNames_eq pair,
    faithful.parameterType related.1 related.2, variadic, value]

end Faithful

/-- Two parameter nodes, each with the default value kept beside it, that correspond. -/
def EntryMatch (R : Node → Node → Prop) (left right : Node × Option Node) : Prop :=
  (R left.1 right.1 ∧ left.1.kind = "parameter") ∧ Option.Rel R left.2 right.2

/-- Two runs of parameter nodes that correspond, with what still waits in front of them. -/
structure RunMatch (R : Node → Node → Prop) (left right : ParameterRun) : Prop where
  pending : Option.Rel R left.pending right.pending
  entries : Aligned (EntryMatch R) left.entries right.entries

namespace Faithful

variable {source source' : String} {Extra : Node → Prop} {R : Node → Node → Prop}
  (faithful : Faithful source source' Extra R)

include faithful

theorem parameterRun_cons {child child' : Node} {run run' : ParameterRun} (related : R child child')
    (runs : RunMatch R run run') :
    RunMatch R (ParameterRun.cons child run) (ParameterRun.cons child' run') := by
  rw [ParameterRun.cons, ParameterRun.cons, faithful.kind related, faithful.field related]
  split
  · next isParameter =>
      refine ⟨.none, .cons ⟨⟨related, ?_⟩, runs.pending⟩ runs.entries⟩
      simpa using isParameter
  · split
    · exact ⟨rel_or runs.pending (.some related), runs.entries⟩
    · exact runs

theorem parameterRun_cons_extra {item : Node} (spare : Extra item) (run : ParameterRun) :
    ParameterRun.cons item run = run := by
  have kind := (faithful.blind_kind_eq "parameter" rfl).extra spare
  simp [ParameterRun.cons, kind, (faithful.extra spare).field]

theorem parameterEntries_aligned {left right : Node} (pair : Matching Extra R left right) :
    Aligned (EntryMatch R) (parameterEntries left) (parameterEntries right) := by
  -- A run is read from the right, so a default value is met before the parameter it belongs to.
  have runs : ∀ {lefts rights : List Node}, Interleaved Extra R lefts rights →
      RunMatch R (lefts.foldr ParameterRun.cons { pending := none, entries := [] })
        (rights.foldr ParameterRun.cons { pending := none, entries := [] }) := by
    intro lefts rights related
    induction related with
    | nil => exact ⟨.none, .nil⟩
    | cons head _ inductionHypothesis =>
        exact faithful.parameterRun_cons head inductionHypothesis
    | extra spare _ inductionHypothesis =>
        rw [List.foldr_cons, faithful.parameterRun_cons_extra spare]
        exact inductionHypothesis
  exact (runs pair.children).entries

theorem parametersOf_eq {left right : Node} (pair : Matching Extra R left right) :
    parametersOf source' right = parametersOf source left :=
  (faithful.parameterEntries_aligned pair).map fun entry =>
    faithful.parameter_ofNode entry.1 entry.2

/-! ### Associated values -/

theorem labelText?_eq {left right : Node} (related : R left right) :
    labelText? source' right = labelText? source left := by
  rw [labelText?, labelText?, faithful.kind related, faithful.named related,
    faithful.text related]

theorem parameter_ofGroup {group group' : List Node} (related : Aligned R group group') :
    Parameter.ofGroup source' group' = Parameter.ofGroup source group := by
  have blind : Blind (fun _ => False) R (Node.isToken ":") :=
    ⟨fun found => faithful.isToken_eq found ":", False.elim⟩
  have colon : group'.any (Node.isToken ":") = group.any (Node.isToken ":") := related.any blind
  have labels : Aligned R
      (if group.any (Node.isToken ":") then group.takeWhile (!Node.isToken ":" ·) else [])
      (if group.any (Node.isToken ":") then group'.takeWhile (!Node.isToken ":" ·) else []) := by
    split
    · exact related.takeWhile blind
    · exact .nil
  have rest : Aligned R
      (if group.any (Node.isToken ":") then (group.dropWhile (!Node.isToken ":" ·)).drop 1
        else group)
      (if group.any (Node.isToken ":") then (group'.dropWhile (!Node.isToken ":" ·)).drop 1
        else group') := by
    split
    · exact related.drop_dropWhile blind
    · exact related
  have names := labels.filterMap faithful.labelText?_eq
  have values := rest.filter Node.named faithful.named
  have valueText := fun index : Nat =>
    bind_eq_of_rel (values.getElem? index) fun found => faithful.text found.1
  simp only [Parameter.ofGroup, colon, names, valueText]

theorem payloadNodes_aligned {left right : Node} (pair : Matching Extra R left right) :
    Aligned R (payloadNodes left) (payloadNodes right) := by
  refine (pair.children.filter ⟨?_, ?_⟩).imp And.left
  · intro one other related
    rw [faithful.isComment_eq related, faithful.isToken_eq related, faithful.isToken_eq related]
  · intro node spare
    rw [(faithful.extra spare).isComment]
    rfl

theorem associatedValues_eq {left right : Node}
    (related : R left right ∧ left.kind = "enum_type_parameters") :
    associatedValues source' right = associatedValues source left := by
  have nodes := faithful.payloadNodes_aligned (faithful.inside related rfl)
  have groups := nodes.cutAt (Node.isToken ",") fun found => faithful.isToken_eq found ","
  have held := groups.filter (·.any Node.named) fun found => found.any ⟨faithful.named, False.elim⟩
  exact held.map fun found => faithful.parameter_ofGroup found.1

end Faithful

/-! ### Places -/

/-- Two places that correspond: their nodes, what their parents hold and what follows them. -/
structure PlaceMatch (Extra : Node → Prop) (R : Node → Node → Prop) (left right : Place) :
    Prop where
  node : R left.node right.node
  parent : Option.Rel (Matching Extra R) left.parent right.parent
  following : Interleaved Extra R left.following right.following

theorem Matching.childPlaces {Extra : Node → Prop} {R : Node → Node → Prop} {left right : Node}
    (pair : Matching Extra R left right) :
    Interleaved (fun place => Extra place.node) (PlaceMatch Extra R)
      left.childPlaces right.childPlaces := by
  have places : ∀ {lefts rights : List Node}, Interleaved Extra R lefts rights →
      Interleaved (fun place => Extra place.node) (PlaceMatch Extra R)
        (Node.childPlaces.go left lefts) (Node.childPlaces.go right rights) := by
    intro lefts rights related
    induction related with
    | nil => exact .nil
    | cons head tail inductionHypothesis =>
        exact .cons ⟨head, .some pair, tail⟩ inductionHypothesis
    | extra spare _ inductionHypothesis => exact .extra spare inductionHypothesis
  exact places pair.children

theorem Blind.place {Extra : Node → Prop} {R : Node → Node → Prop} {test : Node → Bool}
    (blind : Blind Extra R test) :
    Blind (fun place => Extra place.node) (PlaceMatch Extra R) (fun place => test place.node) :=
  ⟨fun related => blind.same related.node, fun spare => blind.extra spare⟩

namespace Faithful

variable {source source' : String} {Extra : Node → Prop} {R : Node → Node → Prop}
  (faithful : Faithful source source' Extra R)

include faithful

/-! ### Cases -/

theorem positionalElements_aligned {lefts rights : List Place}
    (related : Interleaved (fun place => Extra place.node) (PlaceMatch Extra R) lefts rights)
    (expecting : Bool) :
    Aligned (PlaceMatch Extra R) (positionalElements expecting lefts)
      (positionalElements expecting rights) := by
  induction related generalizing expecting with
  | nil => exact .nil
  | cons head _ inductionHypothesis =>
      rw [positionalElements, positionalElements, faithful.isComment_eq head.node,
        faithful.isToken_eq head.node, faithful.isToken_eq head.node, faithful.kind head.node]
      split
      · exact inductionHypothesis expecting
      · split
        · exact inductionHypothesis true
        · split
          · exact .cons head (inductionHypothesis false)
          · exact inductionHypothesis false
  | extra spare _ inductionHypothesis =>
      rw [positionalElements, if_pos (faithful.extra spare).isComment]
      exact inductionHypothesis expecting

theorem namedPlaces_aligned {left right : Node} (pair : Matching Extra R left right) :
    Aligned (fun one other => PlaceMatch Extra R one other ∧ one.node.field = some "name")
      (left.childPlaces.filter (·.node.field == some "name"))
      (right.childPlaces.filter (·.node.field == some "name")) :=
  (pair.childPlaces.filter (faithful.blind_field "name").place).imp
    fun found => ⟨found.1, by simpa using found.2⟩

theorem caseElements_aligned {left right : Node} (pair : Matching Extra R left right) :
    Aligned (PlaceMatch Extra R) (caseElements left) (caseElements right) := by
  have fielded := faithful.namedPlaces_aligned pair
  rw [caseElements, caseElements, fielded.isEmpty]
  split
  · exact faithful.positionalElements_aligned pair.childPlaces false
  · exact fielded.imp And.left

theorem caseParts_aligned {left right : Place} (places : PlaceMatch Extra R left right) :
    Aligned R left.caseParts right.caseParts := by
  have stop : Blind Extra R fun node => node.isToken "," || node.isToken ";" := by
    constructor
    · intro one other related
      rw [faithful.isToken_eq related, faithful.isToken_eq related]
    · intro node spare
      rw [(faithful.blind_token ",").extra spare, (faithful.blind_token ";").extra spare,
        Bool.false_or]
  exact ((places.following.takeWhile stop).filter faithful.blind_part).imp And.left

theorem isPayload_eq {left right : Node} (related : R left right) :
    right.isPayload = left.isPayload := by
  rw [Node.isPayload, Node.isPayload, faithful.kind related]

theorem enumCase_ofPlace {left right : Place} (places : PlaceMatch Extra R left right) :
    EnumCase.ofPlace source' right = EnumCase.ofPlace source left := by
  have parts := faithful.caseParts_aligned places
  have payload : ((right.caseParts.filter Node.isPayload).getLast?).map
      (associatedValues source') =
      ((left.caseParts.filter Node.isPayload).getLast?).map (associatedValues source) :=
    map_eq_of_rel (parts.filter Node.isPayload faithful.isPayload_eq).getLast? fun found =>
      faithful.associatedValues_eq ⟨found.1, by simpa [Node.isPayload] using found.2⟩
  have others := parts.filter (!Node.isPayload ·) fun found => by rw [faithful.isPayload_eq found]
  have raw := bind_eq_of_rel others.getLast? fun found => faithful.text found.1
  have parents := places.parent
  rw [EnumCase.ofPlace, EnumCase.ofPlace]
  generalize left.parent = one, right.parent = other at parents
  cases parents with
  | none => rfl
  | some pair =>
      simp only [requireName, pair.kind, faithful.text places.node,
        faithful.decorators_ofNode pair, faithful.firstToken? pair, payload, raw]

theorem enumCase_ofEntry {left right : Node} (pair : Matching Extra R left right) :
    EnumCase.ofEntry source' right = EnumCase.ofEntry source left :=
  (faithful.caseElements_aligned pair).mapM faithful.enumCase_ofPlace

/-! ### Variable bindings -/

theorem bindingPatterns_aligned {left right : Node} (pair : Matching Extra R left right) :
    Aligned (fun one other => PlaceMatch Extra R one other ∧ one.node.isOpen = true)
      (bindingPatterns left) (bindingPatterns right) := by
  have fielded := faithful.namedPlaces_aligned pair
  have patterns := pair.childPlaces.filter (faithful.blind_kind_eq "pattern" rfl).place
  rw [bindingPatterns, bindingPatterns, fielded.isEmpty]
  split
  · refine patterns.imp fun found => ⟨found.1, ?_⟩
    have kind := eq_of_beq found.2
    rw [Node.isOpen, kind]
    rfl
  · refine fielded.imp fun found => ⟨found.1, ?_⟩
    rw [Node.isOpen, found.2]
    simp

theorem bindingKeywordIn?_eq {left right : Node} (pair : Matching Extra R left right) :
    bindingKeywordIn? source' right = bindingKeywordIn? source left := by
  have inPattern : ((right.childOfKind? "value_binding_pattern").bind fun pattern =>
      (pattern.lookupText? source' "mutability").or (pattern.firstToken? ["let", "var"])) =
      (left.childOfKind? "value_binding_pattern").bind fun pattern =>
        (pattern.lookupText? source "mutability").or (pattern.firstToken? ["let", "var"]) := by
    refine bind_eq_of_rel (faithful.childOfKind? pair _ rfl) fun found => ?_
    have inner := faithful.inside found rfl
    rw [faithful.lookupText? inner, faithful.firstToken? inner]
  rw [bindingKeywordIn?, bindingKeywordIn?, inPattern, faithful.firstToken? pair]

theorem patternName?_eq {left right : Node} (related : R left right)
    (isOpen : left.isOpen = true) :
    patternName? source' right = patternName? source left := by
  have pair : Matching Extra R left right :=
    ⟨faithful.kind related, faithful.children related isOpen⟩
  rw [patternName?, patternName?, faithful.kind related, faithful.text related,
    faithful.lookupText? pair, faithful.childOfKind?_text pair _ rfl]

theorem bindingParts_aligned {left right : Place} (places : PlaceMatch Extra R left right) :
    Aligned R left.bindingParts right.bindingParts :=
  ((places.following.takeWhile (faithful.blind_token ",")).filter faithful.blind_part).imp And.left

theorem isTypeNote_eq {left right : Node} (related : R left right) :
    right.isTypeNote = left.isTypeNote := by
  rw [Node.isTypeNote, Node.isTypeNote, faithful.kind related]

theorem isInitialValue_eq {left right : Node} (related : R left right) :
    right.isInitialValue = left.isInitialValue := by
  rw [Node.isInitialValue, Node.isInitialValue, faithful.isTypeNote_eq related,
    faithful.kind related]

theorem notedType?_eq {left right : Node} (related : R left right ∧ left.kind = "type_annotation") :
    notedType? source' right = notedType? source left := by
  have pair := faithful.inside related rfl
  rw [notedType?, notedType?, faithful.lookupText? pair, faithful.namedAfter?_text pair]

theorem variableBinding_ofPlace {left right : Place} (places : PlaceMatch Extra R left right)
    (isOpen : left.node.isOpen = true) :
    VariableBinding.ofPlace source' right = VariableBinding.ofPlace source left := by
  have pattern : Matching Extra R left.node right.node :=
    ⟨faithful.kind places.node, faithful.children places.node isOpen⟩
  have parts := faithful.bindingParts_aligned places
  have note : ((right.bindingParts.filter Node.isTypeNote).getLast?).bind (notedType? source') =
      ((left.bindingParts.filter Node.isTypeNote).getLast?).bind (notedType? source) :=
    bind_eq_of_rel (parts.filter Node.isTypeNote faithful.isTypeNote_eq).getLast? fun found =>
      faithful.notedType?_eq ⟨found.1, by simpa [Node.isTypeNote] using found.2⟩
  have values := parts.filter Node.isInitialValue faithful.isInitialValue_eq
  have value := bind_eq_of_rel values.getLast? fun found => faithful.text found.1
  have parents := places.parent
  rw [VariableBinding.ofPlace, VariableBinding.ofPlace]
  generalize left.parent = one, right.parent = other at parents
  cases parents with
  | none => rfl
  | some pair =>
      simp only [requireName, pair.kind, faithful.patternName?_eq places.node isOpen,
        faithful.bindingKeywordIn?_eq pair, faithful.bindingKeywordIn?_eq pattern,
        faithful.decorators_ofNode pair, note, value]

theorem variableBinding_ofDeclaration {left right : Node} (pair : Matching Extra R left right) :
    VariableBinding.ofDeclaration source' right = VariableBinding.ofDeclaration source left :=
  (faithful.bindingPatterns_aligned pair).mapM fun found =>
    faithful.variableBinding_ofPlace found.1 found.2

/-! ### Types -/

theorem typeKeyword?_eq {left right : Node} (pair : Matching Extra R left right) :
    typeKeyword? source' right = typeKeyword? source left := by
  have blind : Blind Extra R (!·.named) := by
    constructor
    · intro one other related
      rw [faithful.named related]
    · intro node spare
      rw [(faithful.extra spare).named]
      rfl
  have tokens : (right.children.filter (!·.named)).filterMap (Node.text? source') =
      (left.children.filter (!·.named)).filterMap (Node.text? source) :=
    (pair.children.filter blind).filterMap fun found => faithful.text found.1
  rw [typeKeyword?, typeKeyword?, faithful.lookupText? pair, tokens]

theorem inheritanceOf_eq {left right : Node} (pair : Matching Extra R left right) :
    inheritanceOf source' right = inheritanceOf source left := by
  have front := pair.children.takeWhile (faithful.blind_token "\x7b")
  have afterColon := front.drop_dropWhile (faithful.blind_token ":")
  have clause := afterColon.takeWhile (faithful.blind_kind clauseEnds.contains ⟨rfl, rfl⟩)
  have entries := clause.filter (faithful.blind_kind inheritedKinds.contains ⟨rfl, rfl⟩)
  exact entries.filterMap fun found => by rw [faithful.text found.1]

theorem typeDeclaration_ofNode {left right : Node} (pair : Matching Extra R left right)
    (keyword what : String) (decorators : Decorators) :
    TypeDeclaration.ofNode source' keyword what decorators right =
      TypeDeclaration.ofNode source keyword what decorators left := by
  rw [TypeDeclaration.ofNode, TypeDeclaration.ofNode, requireName, requireName, pair.kind,
    faithful.lookupText? pair, faithful.inheritanceOf_eq pair, faithful.genericParametersOf_eq pair,
    faithful.genericRequirementsOf_eq pair]

theorem nominalType_eq {left right : Node} (pair : Matching Extra R left right)
    (fallback : String) :
    nominalType source' fallback right = nominalType source fallback left := by
  simp only [nominalType, faithful.typeKeyword?_eq pair, faithful.decorators_ofNode pair,
    faithful.typeDeclaration_ofNode pair]

theorem protocolType_eq {left right : Node} (pair : Matching Extra R left right) :
    protocolType source' right = protocolType source left := by
  rw [protocolType, protocolType, faithful.lookupText? pair, faithful.decorators_ofNode pair,
    faithful.typeDeclaration_ofNode pair]

theorem extension_ofNode {left right : Node} (pair : Matching Extra R left right) :
    Extension.ofNode source' right = Extension.ofNode source left := by
  rw [Extension.ofNode, Extension.ofNode, faithful.nominalType_eq pair]

theorem enumerationBody?_rel {left right : Node} (pair : Matching Extra R left right) :
    Option.Rel R (enumerationBody? left) (enumerationBody? right) :=
  rel_or
    (rel_or (faithful.lookup? pair "body")
      (rel_imp And.left (faithful.childOfKind? pair "enum_class_body" rfl)))
    (rel_imp And.left (faithful.childOfKind? pair "class_body" rfl))

/-- An enumeration is read alike when the case declarations of its body are. -/
theorem enumeration_ofNode {left right : Node} (pair : Matching Extra R left right)
    (entries : Aligned (Matching Extra R) (enumerationEntries left) (enumerationEntries right)) :
    Enumeration.ofNode source' right = Enumeration.ofNode source left := by
  have cases := entries.mapM faithful.enumCase_ofEntry
  rw [Enumeration.ofNode, Enumeration.ofNode, cases, faithful.typeKeyword?_eq pair,
    faithful.decorators_ofNode pair, faithful.firstToken? pair,
    faithful.typeDeclaration_ofNode pair]

theorem associatedType_ofNode {left right : Node} (pair : Matching Extra R left right) :
    AssociatedType.ofNode source' right = AssociatedType.ofNode source left := by
  simp only [AssociatedType.ofNode, requireName, pair.kind, faithful.lookupText? pair,
    faithful.namedAfter?_text pair, faithful.decorators_ofNode pair,
    faithful.genericRequirementsOf_eq pair]

theorem typeAlias_ofNode {left right : Node} (pair : Matching Extra R left right) :
    TypeAlias.ofNode source' right = TypeAlias.ofNode source left := by
  rw [TypeAlias.ofNode, TypeAlias.ofNode, requireName, requireName, pair.kind,
    faithful.lookupText? pair, faithful.lookupText? pair, faithful.decorators_ofNode pair,
    faithful.genericParametersOf_eq pair]

/-! ### Callables -/

/-- A return type that is stated, or that no arrow announces, is read alike.  After an arrow
alone the first named child counts, which may be a comment. -/
theorem returnType?_eq_of_stated {left right : Node} (pair : Matching Extra R left right)
    (stated : left.hasToken "->" = true → (left.lookupText? source "return_type").isSome) :
    returnType? source' right = returnType? source left := by
  rw [returnType?, returnType?, faithful.lookupText? pair]
  cases arrow : left.hasToken "->" with
  | true =>
      rcases Option.isSome_iff_exists.mp (stated arrow) with ⟨text, textEq⟩
      rw [textEq, Option.some_or, Option.some_or]
  | false =>
      have arrow' : right.hasToken "->" = false := by rw [faithful.hasToken pair, arrow]
      rw [Node.after_eq_nil arrow, Node.after_eq_nil arrow']
      rfl

/-- Where no comments are added, the first named child after an arrow corresponds too. -/
theorem returnType?_eq_of_no_extra {left right : Node} (pair : Matching Extra R left right)
    (noExtra : ∀ {node : Node}, ¬ Extra node) :
    returnType? source' right = returnType? source left := by
  have blind : Blind Extra R Node.named := ⟨faithful.named, fun spare => (noExtra spare).elim⟩
  have afterArrow : (((right.after "->").find? Node.named).bind fun child =>
      if arrowStops.contains child.kind then none else child.text? source') =
      ((left.after "->").find? Node.named).bind fun child =>
        if arrowStops.contains child.kind then none else child.text? source :=
    bind_eq_of_rel ((faithful.after pair "->").find? blind) fun found => by
      rw [faithful.kind found.1, faithful.text found.1]
  rw [returnType?, returnType?, faithful.lookupText? pair, afterArrow]

theorem throwsKeyword?_eq {left right : Node} (pair : Matching Extra R left right) :
    throwsKeyword? source' right = throwsKeyword? source left := by
  rw [throwsKeyword?, throwsKeyword?, faithful.childOfKind?_text pair _ rfl,
    faithful.firstToken? pair]

theorem signature_ofNode {left right : Node} (pair : Matching Extra R left right)
    (returns : returnType? source' right = returnType? source left) :
    Signature.ofNode source' right = Signature.ofNode source left := by
  rw [Signature.ofNode, Signature.ofNode, faithful.parametersOf_eq pair, returns,
    faithful.throwsKeyword?_eq pair, faithful.hasToken pair]

theorem memberDecorators_eq {left right : Node} (pair : Matching Extra R left right) :
    memberDecorators source' right = memberDecorators source left := by
  rw [memberDecorators, memberDecorators, faithful.decorators_ofNode pair,
    faithful.firstToken? pair]

theorem functionName?_eq {left right : Node} (pair : Matching Extra R left right) :
    functionName? source' right = functionName? source left := by
  rw [functionName?, functionName?, faithful.lookupText? pair, faithful.childAfter?_text pair]

theorem function_ofNode {left right : Node} (pair : Matching Extra R left right)
    (returns : returnType? source' right = returnType? source left) :
    Function.ofNode source' right = Function.ofNode source left := by
  rw [Function.ofNode, Function.ofNode, requireName, requireName, pair.kind,
    faithful.functionName?_eq pair, faithful.memberDecorators_eq pair,
    faithful.genericParametersOf_eq pair, faithful.signature_ofNode pair returns,
    faithful.genericRequirementsOf_eq pair]

theorem initializer_ofNode {left right : Node} (pair : Matching Extra R left right) :
    Initializer.ofNode source' right = Initializer.ofNode source left := by
  rw [Initializer.ofNode, Initializer.ofNode, faithful.memberDecorators_eq pair,
    faithful.lookupText? pair, faithful.firstToken? pair, faithful.genericParametersOf_eq pair,
    faithful.parametersOf_eq pair, faithful.throwsKeyword?_eq pair, faithful.hasToken pair,
    faithful.genericRequirementsOf_eq pair]

theorem deinitializer_ofNode {left right : Node} (pair : Matching Extra R left right) :
    Deinitializer.ofNode source' right = Deinitializer.ofNode source left := by
  rw [Deinitializer.ofNode, Deinitializer.ofNode, faithful.decorators_ofNode pair]

theorem subscript_ofNode {left right : Node} (pair : Matching Extra R left right)
    (returns : returnType? source' right = returnType? source left) :
    Subscript.ofNode source' right = Subscript.ofNode source left := by
  rw [Subscript.ofNode, Subscript.ofNode, faithful.decorators_ofNode pair,
    faithful.genericParametersOf_eq pair, faithful.parametersOf_eq pair, returns,
    faithful.genericRequirementsOf_eq pair]

/-! ### Operators, precedence groups and imports -/

theorem operatorDecorators_eq {left right : Node} (pair : Matching Extra R left right) :
    operatorDecorators source' right = operatorDecorators source left := by
  rw [operatorDecorators, operatorDecorators, faithful.decorators_ofNode pair,
    faithful.firstToken? pair]

theorem operatorDeclaration_ofNode {left right : Node} (pair : Matching Extra R left right) :
    OperatorDeclaration.ofNode source' right = OperatorDeclaration.ofNode source left := by
  simp only [OperatorDeclaration.ofNode, requireName, pair.kind,
    faithful.operatorDecorators_eq pair, faithful.childAfter?_text pair,
    faithful.namedAfter?_text pair]

theorem precedenceEntries_eq {left right : Node} (pair : Matching Extra R left right) :
    precedenceEntries source' right = precedenceEntries source left := by
  have found := faithful.childOfKind? pair "precedence_group_attributes" rfl
  rw [precedenceEntries, precedenceEntries]
  generalize left.childOfKind? "precedence_group_attributes" = one,
    right.childOfKind? "precedence_group_attributes" = other at found
  cases found with
  | none => rfl
  | some related =>
      have list := faithful.inside related rfl
      refine (faithful.childrenOfKind list "precedence_group_attribute" rfl).map
        fun entry => ?_
      exact (faithful.namedChildren (faithful.inside entry rfl)).filterMap faithful.text

theorem precedenceGroup_ofNode {left right : Node} (pair : Matching Extra R left right) :
    PrecedenceGroup.ofNode source' right = PrecedenceGroup.ofNode source left := by
  rw [PrecedenceGroup.ofNode, PrecedenceGroup.ofNode, requireName, requireName, pair.kind,
    faithful.childOfKind?_text pair _ rfl, faithful.precedenceEntries_eq pair,
    faithful.decorators_ofNode pair]

theorem importComponents_eq {left right : Node} (related : R left right) :
    importComponents source' right = importComponents source left := by
  rw [importComponents, importComponents, faithful.kind related, faithful.text related]
  split
  · next isIdentifier =>
      have pair := faithful.inside ⟨related, eq_of_beq isIdentifier⟩ rfl
      have parts := (faithful.childrenOfKind pair "simple_identifier" rfl).filterMap
        fun found => faithful.text found.1
      rw [parts]
  · rfl

theorem importComponents_extra {node : Node} (spare : Extra node) :
    importComponents source' node = [] := by
  have identifier := (faithful.blind_kind_eq "identifier" rfl).extra spare
  have simpleIdentifier := (faithful.blind_kind_eq "simple_identifier" rfl).extra spare
  simp [importComponents, identifier, simpleIdentifier]

theorem moduleImport_ofNode {left right : Node} (pair : Matching Extra R left right) :
    ModuleImport.ofNode source' right = ModuleImport.ofNode source left := by
  have path : importPath source' right = importPath source left :=
    pair.children.flatMap faithful.importComponents_eq faithful.importComponents_extra
  simp only [ModuleImport.ofNode, path, pair.kind, faithful.decorators_ofNode pair,
    faithful.firstToken? pair]

/-! ### Kinds and readings -/

theorem ofNode?_eq {left right : Node} (pair : Matching Extra R left right) :
    Kind.ofNode? source' right = Kind.ofNode? source left := by
  rw [Kind.ofNode?, Kind.ofNode?, pair.kind, faithful.typeKeyword?_eq pair]

/-- Declaration nodes whose children correspond give the same records or the same fault, provided
that their return types and the case declarations of their bodies do. -/
theorem read_eq {left right : Node} (pair : Matching Extra R left right) (kind : Kind)
    (returns : kind = .function ∨ kind = .subscript →
      returnType? source' right = returnType? source left)
    (entries : kind = .enumeration →
      Aligned (Matching Extra R) (enumerationEntries left) (enumerationEntries right)) :
    kind.read source' right = kind.read source left := by
  cases kind with
  | associatedType => rw [Kind.read, Kind.read, faithful.associatedType_ofNode pair]
  | enumCase => exact faithful.enumCase_ofEntry pair
  | classType => rw [Kind.read, Kind.read, faithful.nominalType_eq pair]
  | deinitializer => rw [Kind.read, Kind.read, faithful.deinitializer_ofNode pair]
  | enumeration => rw [Kind.read, Kind.read, faithful.enumeration_ofNode pair (entries rfl)]
  | extension => rw [Kind.read, Kind.read, faithful.extension_ofNode pair]
  | function => rw [Kind.read, Kind.read, faithful.function_ofNode pair (returns (.inl rfl))]
  | moduleImport => rw [Kind.read, Kind.read, faithful.moduleImport_ofNode pair]
  | initializer => rw [Kind.read, Kind.read, faithful.initializer_ofNode pair]
  | operator => rw [Kind.read, Kind.read, faithful.operatorDeclaration_ofNode pair]
  | precedenceGroup => rw [Kind.read, Kind.read, faithful.precedenceGroup_ofNode pair]
  | protocol => rw [Kind.read, Kind.read, faithful.protocolType_eq pair]
  | structType => rw [Kind.read, Kind.read, faithful.nominalType_eq pair]
  | subscript => rw [Kind.read, Kind.read, faithful.subscript_ofNode pair (returns (.inr rfl))]
  | typeAlias => rw [Kind.read, Kind.read, faithful.typeAlias_ofNode pair]
  | variableBinding => exact faithful.variableBinding_ofDeclaration pair

end Faithful

end Synopsis
