/-
Module: Synopsis.Proofs.Payloads
Purpose: What a case record has from the place of its element, and that an absent payload is never
  taken for an empty one: not when the element is read, not in the text of the record and not in
  its JSON.
Main exports:
  Place.stretch, Node.isPayloadPart, Node.isRawPart, EnumCase.ReadFrom, ofPlace_eq_ok_iff,
  associatedValues_eq_nil_iff, EnumCase.withPayload, absent_payload_apart_from_empty
-/
import Synopsis.Proofs.Headings
import Synopsis.Proofs.RoundTrips
import Synopsis.Record.Render

namespace Synopsis

universe u

/-! ### The siblings that belong to an element -/

/-- Whether a sibling ends what belongs to a case element. -/
def Node.endsElement (node : Node) : Bool :=
  node.isToken "," || node.isToken ";"

/-- The siblings after a place and before the next separator. -/
def Place.stretch (place : Place) : List Node :=
  place.following.takeWhile (!Node.endsElement ·)

/-- Whether a sibling of a case element is a payload. -/
def Node.isPayloadPart (node : Node) : Bool :=
  node.named && node.kind == "enum_type_parameters"

/-- Whether a sibling of a case element is a raw value: any other part. -/
def Node.isRawPart (node : Node) : Bool :=
  node.isPart && !node.isPayloadPart

/-- No payload is a comment, so every payload is a part. -/
theorem isPart_and_isPayload (node : Node) :
    (node.isPart && node.isPayload) = node.isPayloadPart := by
  rw [Node.isPart, Node.isPayload, Node.isPayloadPart, Bool.and_assoc]
  cases payload : node.kind == "enum_type_parameters" with
  | false => simp
  | true => simp [Node.isComment, eq_of_beq payload]

theorem filter_isPayload_caseParts (place : Place) :
    place.caseParts.filter Node.isPayload = place.stretch.filter Node.isPayloadPart := by
  rw [Place.caseParts, List.filter_filter, Place.stretch]
  apply List.filter_congr
  intro node _
  rw [Bool.and_comm, isPart_and_isPayload]

theorem filter_not_isPayload_caseParts (place : Place) :
    place.caseParts.filter (!Node.isPayload ·) = place.stretch.filter Node.isRawPart := by
  rw [Place.caseParts, List.filter_filter, Place.stretch]
  apply List.filter_congr
  intro node _
  rw [Node.isRawPart, ← isPart_and_isPayload]
  cases node.isPart <;> simp

/-- The record of an element of a case declaration, read from the element and the siblings that
belong to it: the payload is the last one among them, and so is the raw value. -/
structure EnumCase.ReadFrom (source : String) (entry element : Node) (siblings : List Node)
    (record : EnumCase) : Prop where
  decorators : record.toDecorators = Kind.enumCase.decorators source entry
  keyword : record.keyword = Kind.enumCase.keyword
  name : element.text? source = some record.name
  associatedValue : record.associatedValue =
    (siblings.filter Node.isPayloadPart).getLast?.map (associatedValues source)
  rawValue : record.rawValue =
    (siblings.filter Node.isRawPart).getLast?.bind (Node.text? source)

/-- Every element with a text has a record. -/
theorem EnumCase.exists_readFrom {source : String} {element : Node} {name : String}
    (named : element.text? source = some name) (entry : Node) (siblings : List Node) :
    ∃ record : EnumCase, record.name = name ∧ record.ReadFrom source entry element siblings :=
  ⟨{ Kind.enumCase.decorators source entry with
      keyword := Kind.enumCase.keyword
      name
      associatedValue := (siblings.filter Node.isPayloadPart).getLast?.map (associatedValues source)
      rawValue := (siblings.filter Node.isRawPart).getLast?.bind (Node.text? source) },
    rfl, rfl, rfl, named, rfl, rfl⟩

/-- The declaration counts only for the decorators of the record. -/
theorem EnumCase.ReadFrom.eq_of_decorators_eq {source : String} {entry entry' element : Node}
    {siblings : List Node} {record record' : EnumCase}
    (one : record.ReadFrom source entry element siblings)
    (other : record'.ReadFrom source entry' element siblings)
    (same : Kind.enumCase.decorators source entry = Kind.enumCase.decorators source entry') :
    record = record' := by
  have decorators : record.toDecorators = record'.toDecorators := by
    rw [one.decorators, same, other.decorators]
  have keyword : record.keyword = record'.keyword := one.keyword.trans other.keyword.symm
  have name : record.name = record'.name := Option.some.inj (one.name.symm.trans other.name)
  have payload := one.associatedValue.trans other.associatedValue.symm
  have raw := one.rawValue.trans other.rawValue.symm
  calc
    record = ⟨⟨⟨record.toDecorators, record.keyword⟩, record.name⟩, record.associatedValue,
        record.rawValue⟩ := rfl
    _ = ⟨⟨⟨record'.toDecorators, record'.keyword⟩, record'.name⟩, record'.associatedValue,
        record'.rawValue⟩ := by rw [decorators, keyword, name, payload, raw]
    _ = record' := rfl

theorem requireName_eq_ok_iff {node : Node} {what : String} {offered : Option String}
    {name : String} :
    requireName node what offered = .ok name ↔ offered = some name ∧ name ≠ "" := by
  constructor
  · exact ensures_requireName node what offered name
  · rintro ⟨rfl, nonempty⟩
    simp [requireName, Option.filter, nonempty]

/-- An element can be read exactly when it stands in a case declaration and has a name, and the
record is determined by the place. -/
theorem ofPlace_eq_ok_iff {source : String} {place : Place} {record : EnumCase} :
    EnumCase.ofPlace source place = .ok record ↔
      ∃ entry, place.parent = some entry ∧ entry.kind = "enum_entry" ∧ record.name ≠ "" ∧
        record.ReadFrom source entry place.node place.stretch := by
  rw [EnumCase.ofPlace]
  cases place.parent with
  | none => simp
  | some entry =>
      dsimp only
      split
      · next stray =>
          have other : entry.kind ≠ "enum_entry" := by simpa using stray
          simp [other]
      · next inEntry =>
          have isEntry : entry.kind = "enum_entry" := by simpa using inEntry
          rw [filter_isPayload_caseParts, filter_not_isPayload_caseParts, bind_eq_ok_iff]
          constructor
          · rintro ⟨name, nameEq, recordEq⟩
            cases recordEq
            obtain ⟨found, nonempty⟩ := requireName_eq_ok_iff.mp nameEq
            exact ⟨entry, rfl, isEntry, nonempty, rfl, rfl, found, rfl, rfl⟩
          · rintro ⟨other, otherEq, -, nonempty, readFrom⟩
            cases otherEq
            refine ⟨record.name, requireName_eq_ok_iff.mpr ⟨readFrom.name, nonempty⟩, ?_⟩
            apply congrArg Except.ok
            exact EnumCase.ReadFrom.eq_of_decorators_eq ⟨rfl, rfl, readFrom.name, rfl, rfl⟩ readFrom
              rfl

/-! ### Payloads without values -/

theorem any_consHead {α : Type u} (test : α → Bool) (item : α) (pieces : List (List α)) :
    (Text.consHead item pieces).any (·.any test) = (test item || pieces.any (·.any test)) := by
  cases pieces with
  | nil => simp [Text.consHead]
  | cons piece others => simp [Text.consHead, Bool.or_assoc]

/-- A cut loses nothing but the separators. -/
theorem any_cutAt {α : Type u} (isCut test : α → Bool) (items : List α) :
    (Text.cutAt isCut items).any (·.any test) = items.any fun item => !isCut item && test item := by
  induction items with
  | nil => rfl
  | cons item rest inductionHypothesis =>
      rw [Text.cutAt, List.any_cons]
      cases separates : isCut item with
      | true => simpa using inductionHypothesis
      | false => simp [any_consHead, inductionHypothesis]

/-- A payload holds no value exactly when it has no named child besides comments: tokens and stray
commas make no value. -/
theorem associatedValues_eq_nil_iff {source : String} {payload : Node} :
    associatedValues source payload = [] ↔ ∀ child ∈ payload.children, child.isPart = false := by
  have groups : associatedValues source payload = [] ↔
      (Text.cutAt (Node.isToken ",") (payloadNodes payload)).any (·.any Node.named) = false := by
    rw [associatedValues, List.map_eq_nil_iff, List.filter_eq_nil_iff, List.any_eq_false]
  rw [groups, any_cutAt, payloadNodes, List.any_filter, List.any_eq_false]
  refine forall₂_congr fun child _ => ?_
  -- A named child is no token, so only comments are left out of the named ones.
  cases isNamed : child.named with
  | false => simp [Node.isPart, isNamed]
  | true => simp [Node.isPart, Node.isToken, isNamed]

/-- The last item with a property has no other one after it. -/
theorem getLast?_filter_eq_some_iff {α : Type u} {test : α → Bool} {items : List α} {last : α} :
    (items.filter test).getLast? = some last ↔
      ∃ before after, items = before ++ last :: after ∧ test last = true ∧
        ∀ later ∈ after, test later = false := by
  rw [← List.head?_reverse, ← List.filter_reverse, List.head?_filter,
    List.find?_eq_some_iff_append]
  constructor
  · rintro ⟨passed, after, before, split, failed⟩
    refine ⟨before.reverse, after.reverse, ?_, passed, ?_⟩
    · have turned := congrArg List.reverse split
      simpa using turned
    · simpa using failed
  · rintro ⟨before, after, rfl, passed, failed⟩
    refine ⟨passed, after.reverse, before.reverse, by simp, ?_⟩
    simpa using failed

section

variable {source : String} {entry element : Node} {siblings : List Node} {record : EnumCase}
  (readFrom : record.ReadFrom source entry element siblings)

include readFrom

theorem EnumCase.ReadFrom.associatedValue_eq_none_iff :
    record.associatedValue = none ↔ ∀ node ∈ siblings, node.isPayloadPart = false := by
  rw [readFrom.associatedValue, Option.map_eq_none_iff, List.getLast?_eq_none_iff,
    List.filter_eq_nil_iff]
  simp only [Bool.not_eq_true]

theorem EnumCase.ReadFrom.associatedValue_eq_some_nil_iff :
    record.associatedValue = some [] ↔
      ∃ before payload after, siblings = before ++ payload :: after ∧
        payload.isPayloadPart = true ∧ (∀ later ∈ after, later.isPayloadPart = false) ∧
        ∀ child ∈ payload.children, child.isPart = false := by
  rw [readFrom.associatedValue, Option.map_eq_some_iff]
  simp only [getLast?_filter_eq_some_iff, associatedValues_eq_nil_iff]
  constructor
  · rintro ⟨payload, ⟨before, after, split, isPayload, last⟩, empty⟩
    exact ⟨before, payload, after, split, isPayload, last, empty⟩
  · rintro ⟨before, payload, after, split, isPayload, last, empty⟩
    exact ⟨payload, ⟨before, after, split, isPayload, last⟩, empty⟩

end

/-! ### Payloads in texts and in JSON -/

namespace EnumCase

/-- The same case with another payload. -/
def withPayload (record : EnumCase) (payload : Option (List Parameter)) : EnumCase :=
  { record with associatedValue := payload }

/-- Parentheses make the text longer, whatever stands between them. -/
theorem render_withPayload_ne (record : EnumCase) (values : List Parameter) :
    (record.withPayload none).render ≠ (record.withPayload (some values)).render := by
  intro same
  have lengths := congrArg String.length same
  simp only [render, withPayload, parameterClause, String.length_append] at lengths
  have parentheses : "(".length = 1 ∧ ")".length = 1 ∧ "".length = 0 := by decide
  omega

theorem lookup_associatedValue (record : EnumCase) :
    record.fields.lookup "associated_value" =
      some (.ofOption (.ofList Parameter.toJson) record.associatedValue) := by
  simp [fields, List.lookup_append]

/-- One of the two is written as `null` and the other as an array. -/
theorem fields_withPayload_ne (record : EnumCase) (values : List Parameter) :
    (record.withPayload none).fields ≠ (record.withPayload (some values)).fields := by
  intro same
  have member := congrArg (List.lookup "associated_value") same
  rw [lookup_associatedValue, lookup_associatedValue] at member
  cases member

end EnumCase

/-- A case element that can be read has no payload exactly when none stands between it and the next
separator, and an empty one exactly when the last payload that stands there holds no value.  Cases
that differ only in that one has no payload and the other has one, empty or not, have different
texts; one is written to JSON with `null` and the other with an array, and both are read back as
they were. -/
theorem absent_payload_apart_from_empty {source : String} {place : Place} {record : EnumCase}
    (succeeded : EnumCase.ofPlace source place = .ok record) :
    (record.associatedValue = none ↔ ∀ node ∈ place.stretch, node.isPayloadPart = false) ∧
    (record.associatedValue = some [] ↔
      ∃ before payload after, place.stretch = before ++ payload :: after ∧
        payload.isPayloadPart = true ∧ (∀ later ∈ after, later.isPayloadPart = false) ∧
        ∀ child ∈ payload.children, child.isPart = false) ∧
    ∀ other : EnumCase,
      (∀ values : List Parameter,
        (other.withPayload none).render ≠ (other.withPayload (some values)).render ∧
        (other.withPayload none).fields.lookup "associated_value" = some .null ∧
        (other.withPayload (some values)).fields.lookup "associated_value" =
          some (.arr (values.map Parameter.toJson)) ∧
        Json.obj (other.withPayload none).fields ≠
          Json.obj (other.withPayload (some values)).fields ∧
        (Declaration.enumCase (other.withPayload none)).toJson ≠
          (Declaration.enumCase (other.withPayload (some values))).toJson) ∧
      ∀ payload : Option (List Parameter),
        Kind.enumCase.recordOfJson? (.obj (other.withPayload payload).fields) =
          some (other.withPayload payload) ∧
        Declaration.ofJson? (Declaration.enumCase (other.withPayload payload)).toJson =
          some (.enumCase (other.withPayload payload)) := by
  obtain ⟨entry, -, -, -, readFrom⟩ := ofPlace_eq_ok_iff.mp succeeded
  refine ⟨readFrom.associatedValue_eq_none_iff, readFrom.associatedValue_eq_some_nil_iff, ?_⟩
  intro other
  constructor
  · intro values
    have written := fun payload => EnumCase.lookup_associatedValue (other.withPayload payload)
    refine ⟨other.render_withPayload_ne values, written none, written (some values), ?_, ?_⟩
    · intro same
      injection same with sameFields
      exact other.fields_withPayload_ne values sameFields
    · intro same
      injection same with sameMembers
      injection sameMembers with _ sameFields
      exact other.fields_withPayload_ne values sameFields
  · intro payload
    exact ⟨Kind.roundTrips_record .enumCase _, Declaration.roundTrips _⟩

/-- The text of `emptyAndAbsent`. -/
def emptyAndAbsentText : String :=
  "case a( /**/ ), b"

/-- A payload with nothing but a comment in it. -/
def emptyPayload : Node :=
  .rule "enum_type_parameters" 6 14 []
    [.token "(" 6 7 [], .rule "multiline_comment" 8 12 [] [], .token ")" 13 14 []]

/-- The tree of a case with an empty payload and a case without one. -/
def emptyAndAbsent : Node :=
  .rule "enum_entry" 0 17 []
    [.token "case" 0 4 [], .rule "simple_identifier" 5 6 [] [], emptyPayload,
     .token "," 14 15 [], .rule "simple_identifier" 16 17 [] []]

/-- The first case has an empty payload and the second one has none, and their texts show it. -/
theorem payloads_of_emptyAndAbsent :
    ∃ first second, EnumCase.ofEntry emptyAndAbsentText emptyAndAbsent = .ok [first, second] ∧
      first.associatedValue = some [] ∧ second.associatedValue = none ∧
      first.render = "case a()" ∧ second.render = "case b" ∧
      (bareCase "a").render ≠ ((bareCase "a").withPayload (some [])).render := by
  have read : EnumCase.ofEntry emptyAndAbsentText emptyAndAbsent =
      .ok [(bareCase "a").withPayload (some []), bareCase "b"] := by
    decide +kernel
  have firstRead : EnumCase.ofPlace emptyAndAbsentText
      ⟨.rule "simple_identifier" 5 6 [] [], some emptyAndAbsent,
        [emptyPayload, .token "," 14 15 [], .rule "simple_identifier" 16 17 [] []]⟩ =
      .ok ((bareCase "a").withPayload (some [])) := by
    decide +kernel
  have secondRead : EnumCase.ofPlace emptyAndAbsentText
      ⟨.rule "simple_identifier" 16 17 [] [], some emptyAndAbsent, []⟩ = .ok (bareCase "b") := by
    decide +kernel
  have first := absent_payload_apart_from_empty firstRead
  have second := absent_payload_apart_from_empty secondRead
  refine ⟨_, _, read, first.2.1.mpr ?_, second.1.mpr ?_, by decide +kernel, by decide +kernel, ?_⟩
  · refine ⟨[], emptyPayload, [], rfl, rfl, ?_, ?_⟩
    · simp
    · decide
  · decide
  · exact ((first.2.2 (bareCase "a")).1 []).1

end Synopsis
