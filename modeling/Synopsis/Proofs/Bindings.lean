/-
Module: Synopsis.Proofs.Bindings
Purpose: A property declaration is a head with the binding keyword in it and then one segment for
  each binding.  It gives one variable for each segment, nothing of one segment gets into the
  variable of another, and the patterns are found with field names and without them.
Main exports:
  Place.bindingStretch, VariableBinding.ReadFrom, binding_ofPlace_eq_ok_iff,
  binding_ofPlace_withoutFields, BindingLayout, variables_follow_segments
-/
import Synopsis.Proofs.FieldlessElements

namespace Synopsis

/-! ### What a variable is read from -/

/-- The siblings after a pattern and before the next comma. -/
def Place.bindingStretch (place : Place) : List Node :=
  place.following.takeWhile (!Node.isToken "," ·)

/-- Whether a sibling of a pattern is its type annotation. -/
def Node.isNotePart (node : Node) : Bool :=
  node.isTypeNote && node.isPart

/-- Whether a sibling of a pattern is its initial value: a part that is neither a type annotation
nor a where-clause nor an accessor block. -/
def Node.isValuePart (node : Node) : Bool :=
  node.isInitialValue && node.isPart

/-- The keyword of a binding stands beside its pattern, else inside it; else it is the usual one. -/
def bindingKeyword (source : String) (declaration pattern : Node) : String :=
  ((bindingKeywordIn? source declaration).or (bindingKeywordIn? source pattern)).getD "var"

/-- The record of a binding, read from its declaration, its pattern and the siblings that belong to
it: the type annotation is the last one among them, and so is the initial value. -/
structure VariableBinding.ReadFrom (source : String) (declaration pattern : Node)
    (siblings : List Node) (record : VariableBinding) : Prop where
  decorators : record.toDecorators = Decorators.ofNode source declaration
  keyword : record.keyword = bindingKeyword source declaration pattern
  name : patternName? source pattern = some record.name
  annotatedType : record.annotatedType =
    (siblings.filter Node.isNotePart).getLast?.bind (notedType? source)
  initializedValue : record.initializedValue =
    (siblings.filter Node.isValuePart).getLast?.bind (Node.text? source)

/-- Every pattern with a name has a record. -/
theorem VariableBinding.exists_readFrom {source : String} {pattern : Node} {name : String}
    (named : patternName? source pattern = some name) (declaration : Node) (siblings : List Node) :
    ∃ record : VariableBinding,
      record.name = name ∧ record.ReadFrom source declaration pattern siblings :=
  ⟨{ Decorators.ofNode source declaration with
      keyword := bindingKeyword source declaration pattern
      name
      annotatedType := (siblings.filter Node.isNotePart).getLast?.bind (notedType? source)
      initializedValue := (siblings.filter Node.isValuePart).getLast?.bind (Node.text? source) },
    rfl, rfl, rfl, named, rfl, rfl⟩

/-- The declaration counts only for the decorators and the keyword of the record. -/
theorem VariableBinding.ReadFrom.eq_of_heading_eq {source : String}
    {declaration declaration' pattern : Node} {siblings : List Node}
    {record record' : VariableBinding}
    (one : record.ReadFrom source declaration pattern siblings)
    (other : record'.ReadFrom source declaration' pattern siblings)
    (sameDecorators : Decorators.ofNode source declaration = Decorators.ofNode source declaration')
    (sameKeyword : bindingKeyword source declaration pattern =
      bindingKeyword source declaration' pattern) :
    record = record' := by
  have decorators : record.toDecorators = record'.toDecorators := by
    rw [one.decorators, sameDecorators, other.decorators]
  have keyword : record.keyword = record'.keyword := by
    rw [one.keyword, sameKeyword, other.keyword]
  have name : record.name = record'.name := Option.some.inj (one.name.symm.trans other.name)
  have noted := one.annotatedType.trans other.annotatedType.symm
  have value := one.initializedValue.trans other.initializedValue.symm
  calc
    record = ⟨⟨⟨record.toDecorators, record.keyword⟩, record.name⟩, record.annotatedType,
        record.initializedValue⟩ := rfl
    _ = ⟨⟨⟨record'.toDecorators, record'.keyword⟩, record'.name⟩, record'.annotatedType,
        record'.initializedValue⟩ := by rw [decorators, keyword, name, noted, value]
    _ = record' := rfl

/-- A pattern can be read exactly when it stands in a property declaration and has a name, and the
record is determined by the place. -/
theorem binding_ofPlace_eq_ok_iff {source : String} {place : Place} {record : VariableBinding} :
    VariableBinding.ofPlace source place = .ok record ↔
      ∃ declaration, place.parent = some declaration ∧ declaration.kind ∈ bindingParents ∧
        record.name ≠ "" ∧
        record.ReadFrom source declaration place.node place.bindingStretch := by
  have notes : place.bindingParts.filter Node.isTypeNote =
      place.bindingStretch.filter Node.isNotePart := List.filter_filter
  have values : place.bindingParts.filter Node.isInitialValue =
      place.bindingStretch.filter Node.isValuePart := List.filter_filter
  rw [VariableBinding.ofPlace, notes, values]
  cases place.parent with
  | none => simp
  | some declaration =>
      dsimp only
      split
      · next stray =>
          have other : declaration.kind ∉ bindingParents := by simpa using stray
          simp [other]
      · next inDeclaration =>
          have binds : declaration.kind ∈ bindingParents := by simpa using inDeclaration
          rw [bind_eq_ok_iff]
          constructor
          · rintro ⟨name, nameEq, recordEq⟩
            cases recordEq
            obtain ⟨found, nonempty⟩ := requireName_eq_ok_iff.mp nameEq
            exact ⟨declaration, rfl, binds, nonempty, rfl, rfl, found, rfl, rfl⟩
          · rintro ⟨other, otherEq, -, nonempty, readFrom⟩
            cases otherEq
            refine ⟨record.name, requireName_eq_ok_iff.mpr ⟨readFrom.name, nonempty⟩, ?_⟩
            apply congrArg Except.ok
            exact VariableBinding.ReadFrom.eq_of_heading_eq ⟨rfl, rfl, readFrom.name, rfl, rfl⟩
              readFrom rfl rfl

/-! ### The keyword in the head of a declaration -/

/-- Where the first children have a keyword, the others count only by the first binding pattern
among them. -/
theorem bindingKeywordIn?_eq_of_head {source : String} {declaration declaration' : Node} {row : Row}
    {head rest rest' : List Node} (childrenEq : declaration.children = head ++ rest)
    (childrenEq' : declaration'.children = head ++ rest')
    (stated : (bindingKeywordIn? source (.mk row head)).isSome = true)
    (same : rest.find? (·.kind == "value_binding_pattern") =
      rest'.find? (·.kind == "value_binding_pattern")) :
    ∃ word, bindingKeywordIn? source declaration = some word ∧
      bindingKeywordIn? source declaration' = some word := by
  have patterns : declaration.childOfKind? "value_binding_pattern" =
      declaration'.childOfKind? "value_binding_pattern" := by
    rw [Node.childOfKind?, Node.childOfKind?, childrenEq, childrenEq', List.find?_append,
      List.find?_append, same]
  obtain ⟨word, wordEq⟩ := Option.isSome_iff_exists.mp stated
  rcases Option.or_eq_some_iff.mp wordEq with inside | ⟨-, beside⟩
  · -- The keyword stands in the first binding pattern of the head, which is the first of all.
    obtain ⟨pattern, patternEq, inPattern⟩ := Option.bind_eq_some_iff.mp inside
    have first : declaration.childOfKind? "value_binding_pattern" = some pattern := by
      rw [Node.childOfKind?, childrenEq, List.find?_append]
      exact Option.or_eq_some_iff.mpr (.inl patternEq)
    refine ⟨word, ?_, ?_⟩
    · rw [bindingKeywordIn?, first, Option.bind_some, inPattern, Option.some_or]
    · rw [bindingKeywordIn?, ← patterns, first, Option.bind_some, inPattern, Option.some_or]
  · -- The head has the first token, whatever the binding patterns say.
    obtain ⟨token, tokenEq, rfl⟩ := Option.map_eq_some_iff.mp beside
    have first : ∀ {node : Node} {others : List Node}, node.children = head ++ others →
        node.firstToken? ["let", "var"] = some token.kind := by
      intro node others split
      rw [Node.firstToken?, split, List.find?_append]
      exact Option.map_eq_some_iff.mpr ⟨token, Option.or_eq_some_iff.mpr (.inl tokenEq), rfl⟩
    rw [bindingKeywordIn?, bindingKeywordIn?, ← patterns, first childrenEq, first childrenEq']
    cases ((declaration.childOfKind? "value_binding_pattern").bind fun pattern =>
        (pattern.lookupText? source "mutability").or (pattern.firstToken? ["let", "var"])) with
    | none => exact ⟨token.kind, rfl, rfl⟩
    | some other => exact ⟨other, rfl, rfl⟩

/-! ### Property declarations in segments -/

/-- A segment with one binding in it.  Its pattern has a name, and neither a modifier list nor a
binding pattern stands after it. -/
structure Segment.HoldsBinding (source : String) (segment : Segment) : Prop extends
    Segment.Framed segment where
  named : ∃ name, patternName? source segment.element = some name ∧ name ≠ ""
  plain : ∀ node ∈ segment.parts, node.kind ≠ "modifiers" ∧ node.kind ≠ "value_binding_pattern"

/-- A property declaration laid out in segments: a head with the keyword in it and without patterns,
and the segments with commas between them. -/
structure BindingLayout (source : String) (declaration : Node) (head : List Node)
    (segments : List Segment) : Prop where
  isDeclaration : declaration.kind ∈ bindingParents
  headOnly : ∀ node ∈ head, node.isElement = false
  stated : (bindingKeywordIn? source (.mk declaration.row head)).isSome = true
  holdBindings : ∀ segment ∈ segments, segment.HoldsBinding source
  children : ∃ nodes, declaration.children = head ++ nodes ∧ Segment.Listed segments nodes

/-- Whether a child of a property declaration counts for all its bindings: a modifier list, or a
pattern that can hold the keyword. -/
def Node.isBindingDecoration (node : Node) : Bool :=
  node.kind == "modifiers" || node.kind == "value_binding_pattern"

theorem isBindingDecoration_of_isToken {node : Node} {spelling : String}
    (isToken : node.isToken spelling = true)
    (other : spelling ≠ "modifiers" ∧ spelling ≠ "value_binding_pattern") :
    node.isBindingDecoration = false := by
  simp [Node.isBindingDecoration, kind_of_isToken isToken, other]

theorem isBindingDecoration_of_isComment {node : Node} (isComment : node.isComment = true) :
    node.isBindingDecoration = false := by
  rcases Bool.or_eq_true_iff.mp isComment with comment | comment
  · simp [Node.isBindingDecoration, eq_of_beq comment]
  · simp [Node.isBindingDecoration, eq_of_beq comment]

/-- Segments count for all bindings at most by their patterns. -/
theorem Segment.Listed.filter_isBindingDecoration {source : String} {segments : List Segment}
    {nodes : List Node} (listed : Segment.Listed segments nodes)
    (holds : ∀ segment ∈ segments, segment.HoldsBinding source) :
    nodes.filter Node.isBindingDecoration =
      (segments.map Segment.element).filter Node.isBindingDecoration := by
  apply listed.filter_eq
  · intro node isComma
    exact isBindingDecoration_of_isToken isComma (by decide)
  · intro segment member node inside
    exact isBindingDecoration_of_isComment ((holds segment member).comments node inside).1
  · intro segment member node inside
    simp [Node.isBindingDecoration, (holds segment member).plain node inside]

namespace BindingLayout

variable {source : String} {declaration : Node} {head : List Node} {segments : List Segment}
  (layout : BindingLayout source declaration head segments)

include layout

/-- The patterns of the declaration are those of the segments, each at its place. -/
theorem standsAt :
    List.Forall₂ (Segment.StandsAt (Node.isToken ",") declaration) segments
      (bindingPatterns declaration) := by
  obtain ⟨nodes, childrenEq, listed⟩ := layout.children
  have framed : ∀ segment ∈ segments, segment.Framed := fun segment member =>
    (layout.holdBindings segment member).toFramed
  have split : declaration.children = head ++ (nodes ++ []) := by rw [childrenEq, List.append_nil]
  obtain ⟨stand, found⟩ := listed.standsAt_childPlaces split layout.headOnly framed
    (fun _ isComma => isComma) rfl (by simp)
  have patterns : bindingPatterns declaration =
      declaration.childPlaces.filter (·.node.isElement) := if_neg (ne_true_of_eq_false found)
  rw [patterns]
  exact stand

/-- Every segment gives one record, in order. -/
theorem exists_records :
    ∃ records, VariableBinding.ofDeclaration source declaration = .ok records ∧
      List.Forall₂ (fun segment record =>
        record.ReadFrom source declaration segment.element segment.parts) segments records := by
  apply exists_mapM_of_forall₂ layout.standsAt
  intro segment member place stands
  have holds := layout.holdBindings segment member
  have stretchEq : place.bindingStretch = segment.parts :=
    stands.takeWhile_following fun node inside => (holds.parts node inside).2
  obtain ⟨name, nameEq, nonempty⟩ := holds.named
  obtain ⟨record, rfl, readFrom⟩ :=
    VariableBinding.exists_readFrom nameEq declaration segment.parts
  refine ⟨record, binding_ofPlace_eq_ok_iff.mpr ?_, readFrom⟩
  rw [stands.node, stretchEq]
  exact ⟨declaration, stands.parent, layout.isDeclaration, nonempty, readFrom⟩

/-- Two declarations with the same head and the same decorating patterns have the same decorators
and the same keyword. -/
theorem heading_eq {declaration' : Node} {segments' : List Segment}
    (layout' : BindingLayout source declaration' head segments')
    (same : (segments.map Segment.element).filter Node.isBindingDecoration =
      (segments'.map Segment.element).filter Node.isBindingDecoration) :
    Decorators.ofNode source declaration = Decorators.ofNode source declaration' ∧
      ∃ word, bindingKeywordIn? source declaration = some word ∧
        bindingKeywordIn? source declaration' = some word := by
  obtain ⟨nodes, childrenEq, listed⟩ := layout.children
  obtain ⟨nodes', childrenEq', listed'⟩ := layout'.children
  have filtered : nodes.filter Node.isBindingDecoration =
      nodes'.filter Node.isBindingDecoration := by
    rw [listed.filter_isBindingDecoration layout.holdBindings,
      listed'.filter_isBindingDecoration layout'.holdBindings, same]
  have lists : declaration.childOfKind? "modifiers" = declaration'.childOfKind? "modifiers" := by
    rw [Node.childOfKind?, Node.childOfKind?, childrenEq, childrenEq', List.find?_append,
      List.find?_append]
    congr 1
    refine find?_eq_of_filter_eq ?_ filtered
    intro node passed
    rw [Node.isBindingDecoration, passed, Bool.true_or]
  have patterns : nodes.find? (·.kind == "value_binding_pattern") =
      nodes'.find? (·.kind == "value_binding_pattern") := by
    refine find?_eq_of_filter_eq ?_ filtered
    intro node passed
    rw [Node.isBindingDecoration, passed, Bool.or_true]
  refine ⟨?_, bindingKeywordIn?_eq_of_head childrenEq childrenEq' layout.stated patterns⟩
  rw [Decorators.ofNode, Decorators.ofNode, lists]

end BindingLayout

/-! ### Patterns without fields -/

/-- The keyword is searched by kind, by token and by look-up. -/
theorem bindingKeywordIn?_withoutFields (source : String) (node : Node) :
    bindingKeywordIn? source node.withoutFields = bindingKeywordIn? source node := by
  rw [bindingKeywordIn?, bindingKeywordIn?, childOfKind?_withoutFields, firstToken?_withoutFields,
    Option.bind_map]
  rfl

/-- A binding without fields has the same record or the same fault. -/
theorem binding_ofPlace_withoutFields (source : String) (place : Place) :
    VariableBinding.ofPlace source place.withoutFields = VariableBinding.ofPlace source place := by
  have parts : place.withoutFields.bindingParts = place.bindingParts.map Node.unfielded := by
    rw [Place.bindingParts, Place.bindingParts, ← filter_map_of_same Node.unfielded fun _ => rfl,
      Place.withoutFields, List.takeWhile_map]
    rfl
  have note : (place.withoutFields.bindingParts.filter Node.isTypeNote).getLast?.bind
      (notedType? source) =
      (place.bindingParts.filter Node.isTypeNote).getLast?.bind (notedType? source) := by
    rw [parts, filter_map_of_same Node.unfielded fun _ => rfl, List.getLast?_map, Option.bind_map]
    rfl
  have value : (place.withoutFields.bindingParts.filter Node.isInitialValue).getLast?.bind
      (Node.text? source) =
      (place.bindingParts.filter Node.isInitialValue).getLast?.bind (Node.text? source) := by
    rw [parts, filter_map_of_same Node.unfielded fun _ => rfl, List.getLast?_map, Option.bind_map]
    rfl
  rw [VariableBinding.ofPlace, VariableBinding.ofPlace]
  dsimp only
  rw [note, value]
  cases parentEq : place.parent with
  | none => simp [Place.withoutFields, parentEq]
  | some declaration =>
      have decorators := decorators_withoutFields source declaration .variableBinding
      rw [Kind.decorators_of_bareModifiers_eq_nil rfl,
        Kind.decorators_of_bareModifiers_eq_nil rfl] at decorators
      simp only [Place.withoutFields, parentEq, Option.map_some, decorators,
        bindingKeywordIn?_withoutFields]
      rfl

/-- Where the nodes under the field `name` are the nodes of kind `pattern`, the patterns are found
without fields too. -/
theorem bindingPatterns_withoutFields {node : Node}
    (patterns : ∀ child ∈ node.children, child.isElement = (child.kind == "pattern")) :
    bindingPatterns node.withoutFields = (bindingPatterns node).map Place.withoutFields := by
  have byKind : node.childPlaces.filter (·.node.isElement) =
      node.childPlaces.filter (·.node.kind == "pattern") := by
    apply List.filter_congr
    intro place member
    exact patterns place.node (mem_children_of_mem_childPlaces member)
  have withFields : bindingPatterns node =
      if (node.childPlaces.filter (·.node.isElement)).isEmpty
      then node.childPlaces.filter (·.node.kind == "pattern")
      else node.childPlaces.filter (·.node.isElement) := rfl
  have without : bindingPatterns node.withoutFields =
      node.withoutFields.childPlaces.filter (·.node.kind == "pattern") :=
    if_pos (isEmpty_elements_withoutFields node)
  rw [without, withFields, byKind, ite_self, childPlaces_withoutFields, List.filter_map]
  rfl

theorem ofDeclaration_withoutFields (source : String) {node : Node}
    (patterns : ∀ child ∈ node.children, child.isElement = (child.kind == "pattern")) :
    VariableBinding.ofDeclaration source node.withoutFields =
      VariableBinding.ofDeclaration source node := by
  rw [VariableBinding.ofDeclaration, bindingPatterns_withoutFields patterns, List.mapM_map]
  congr 1
  funext place
  exact binding_ofPlace_withoutFields source place

/-! ### All bindings of a declaration -/

/-- A property declaration that is laid out in segments gives one variable for each of them, in
order.  The name of a variable is that of the segment's pattern, its type annotation and its initial
value are the last ones after the pattern in that segment, and all variables have the same
attributes, modifiers and keyword.  In any other layout with the same head and that segment,
whatever stands before and after it, the segment has the same variable, as long as no pattern of the
other segments is a modifier list or a node that can hold the keyword.  Where the patterns are known
by their kind too, the variables are the same without fields. -/
theorem variables_follow_segments {source : String} {declaration : Node} {head : List Node}
    {segments : List Segment} (layout : BindingLayout source declaration head segments) :
    ∃ records, VariableBinding.ofDeclaration source declaration = .ok records ∧
      List.Forall₂ (fun segment record =>
        record.ReadFrom source declaration segment.element segment.parts) segments records ∧
      (∀ one ∈ records, ∀ other ∈ records, one.toHeading = other.toHeading) ∧
      (∀ (declaration' : Node) (segment : Segment) (before after before' after' : List Segment),
        segments = before ++ segment :: after →
        BindingLayout source declaration' head (before' ++ segment :: after') →
        (∀ other ∈ before ++ after, other.element.isBindingDecoration = false) →
        (∀ other ∈ before' ++ after', other.element.isBindingDecoration = false) →
        ∃ records', VariableBinding.ofDeclaration source declaration' = .ok records' ∧
          records'[before'.length]? = records[before.length]?) ∧
      ((∀ child ∈ declaration.children, child.isElement = (child.kind == "pattern")) →
        VariableBinding.ofDeclaration source declaration.withoutFields = .ok records) := by
  obtain ⟨records, succeeded, related⟩ := layout.exists_records
  refine ⟨records, succeeded, related, ?_, ?_, ?_⟩
  · obtain ⟨-, word, wordEq, -⟩ := layout.heading_eq layout rfl
    have headed : List.Forall₂ (fun record _ => record.toHeading =
        ⟨Decorators.ofNode source declaration, word⟩ ∧ True) records segments := by
      apply related.flip.imp
      intro record segment readFrom
      have keyword : record.keyword = word := by
        rw [readFrom.keyword, bindingKeyword, wordEq, Option.some_or, Option.getD_some]
      rw [← readFrom.decorators, ← keyword]
      exact ⟨rfl, trivial⟩
    have headings := ((List.forall₂_and_left records segments).mp headed).1
    intro one oneMember other otherMember
    rw [headings one oneMember, headings other otherMember]
  · rintro declaration' segment before after before' after' rfl layout' plain plain'
    obtain ⟨records', succeeded', related'⟩ := layout'.exists_records
    refine ⟨records', succeeded', ?_⟩
    obtain ⟨record, recordEq, readFrom⟩ := getElem?_of_forall₂ related
    obtain ⟨record', recordEq', readFrom'⟩ := getElem?_of_forall₂ related'
    obtain ⟨decorators, word, wordEq, wordEq'⟩ := layout.heading_eq layout' (by
      rw [segment.filter_elements_around plain, segment.filter_elements_around plain'])
    have keyword : bindingKeyword source declaration' segment.element =
        bindingKeyword source declaration segment.element := by
      rw [bindingKeyword, bindingKeyword, wordEq, wordEq']
    rw [recordEq, recordEq', readFrom'.eq_of_heading_eq readFrom decorators.symm keyword]
  · intro patterns
    rw [ofDeclaration_withoutFields source patterns, succeeded]

/-- A pattern under the field `name` that binds one identifier.  Of several the first is found by
looking up `name`. -/
def boundPattern (start stop : Nat) (lookups : List String) : Node :=
  (Node.rule "pattern" start stop lookups
    [.rule "simple_identifier" start stop ["bound_identifier"] []]).asElement

/-- The text of `valueAndAccessor`. -/
def valueAndAccessorText : String :=
  "var a = 1, /**/ b: Int { 2 }"

/-- The head of `valueAndAccessor`, with the keyword inside a binding pattern. -/
def variableHead : List Node :=
  [.rule "value_binding_pattern" 0 3 [] [.token "var" 0 3 ["mutability"]]]

/-- The segment of a binding with an initial value. -/
def valueSegment : Segment :=
  { comments := [],
    element := boundPattern 4 5 ["name"],
    parts := [.token "=" 6 7 [], .rule "integer_literal" 8 9 ["value"] []] }

/-- The segment of a binding with a comment before it, a type annotation and an accessor block. -/
def accessorSegment : Segment :=
  { comments := [.rule "multiline_comment" 11 15 [] []],
    element := boundPattern 16 17 [],
    parts :=
      [.rule "type_annotation" 17 22 []
        [.token ":" 17 18 [], .rule "user_type" 19 22 ["type"] []],
       .rule "computed_property" 23 28 [] [.rule "statements" 25 26 [] []]] }

/-- The tree of a property declaration with the given nodes after its keyword. -/
def variableDeclaration (nodes : List Node) : Node :=
  .rule "property_declaration" 0 28 [] (variableHead ++ nodes)

/-- The tree of a binding with an initial value and a binding with an accessor block. -/
def valueAndAccessor : Node :=
  variableDeclaration (valueSegment.nodes ++ .token "," 9 10 [] :: accessorSegment.nodes)

/-- The accessor block is no initial value, and its binding has the same record when the other one
is taken away and when there are no fields. -/
theorem variables_of_valueAndAccessor :
    BindingLayout valueAndAccessorText valueAndAccessor variableHead
      [valueSegment, accessorSegment] ∧
    BindingLayout valueAndAccessorText (variableDeclaration accessorSegment.nodes) variableHead
      [accessorSegment] ∧
    ∃ records records',
      VariableBinding.ofDeclaration valueAndAccessorText valueAndAccessor = .ok records ∧
      VariableBinding.ofDeclaration valueAndAccessorText valueAndAccessor.withoutFields =
        .ok records ∧
      VariableBinding.ofDeclaration valueAndAccessorText
        (variableDeclaration accessorSegment.nodes) = .ok records' ∧
      records.map (·.render) = ["var a = 1", "var b: Int"] ∧ records'[0]? = records[1]? := by
  have value : valueSegment.HoldsBinding valueAndAccessorText :=
    ⟨⟨by decide, rfl, by decide⟩, ⟨"a", by decide +kernel, by decide⟩, by decide⟩
  have accessor : accessorSegment.HoldsBinding valueAndAccessorText :=
    ⟨⟨by decide, rfl, by decide⟩, ⟨"b", by decide +kernel, by decide⟩, by decide⟩
  have both : BindingLayout valueAndAccessorText valueAndAccessor variableHead
      [valueSegment, accessorSegment] :=
    ⟨by decide, by decide, by decide +kernel, by simp [value, accessor], _, rfl,
      .more valueSegment rfl rfl (.last accessorSegment)⟩
  have alone : BindingLayout valueAndAccessorText (variableDeclaration accessorSegment.nodes)
      variableHead [accessorSegment] :=
    ⟨by decide, by decide, by decide +kernel, by simp [accessor], _, rfl, .last accessorSegment⟩
  obtain ⟨records, succeeded, -, -, kept, fieldless⟩ := variables_follow_segments both
  obtain ⟨records', succeeded', same⟩ := kept _ accessorSegment [valueSegment] [] [] [] rfl alone
    (by decide) (by simp)
  have texts : (VariableBinding.ofDeclaration valueAndAccessorText valueAndAccessor).map
      (List.map (·.render)) = .ok ["var a = 1", "var b: Int"] := by
    decide +kernel
  rw [succeeded] at texts
  exact ⟨both, alone, records, records', succeeded, fieldless (by decide), succeeded',
    Except.ok.inj texts, same⟩

/-- The text of `twoLetters`. -/
def twoLettersText : String :=
  "let a, /**/ b"

/-- The tree of two bindings with a comment between them, from that comment and the second
pattern. -/
def twoLetters (comment second : Node) : Node :=
  .rule "property_declaration" 0 13 []
    [.token "let" 0 3 [], boundPattern 4 5 ["name"], .token "," 5 6 [], comment, second]

/-- The comment of `twoLetters`. -/
def twoLettersComment : Node :=
  .rule "multiline_comment" 7 11 [] []

/-- The segments of `twoLetters`. -/
def twoLettersSegments (second : Node) : List Segment :=
  [{ comments := [], element := boundPattern 4 5 ["name"], parts := [] },
   { comments := [twoLettersComment], element := second, parts := [] }]

/-- A modifier list in the place of a pattern. -/
def modifierPattern : Node :=
  (Node.rule "modifiers" 12 13 [] [.rule "property_modifier" 12 13 [] []]).asElement

/-- A node that can hold the keyword in the place of a pattern. -/
def keywordPattern : Node :=
  (Node.rule "value_binding_pattern" 12 13 [] [.token "var" 12 13 []]).asElement

/-- Any node with a name can stand in the place of the second pattern. -/
theorem twoLetters_layout {second : Node} (isElement : second.isElement = true)
    (named : patternName? twoLettersText second = some "b") :
    BindingLayout twoLettersText (twoLetters twoLettersComment second) [.token "let" 0 3 []]
      (twoLettersSegments second) := by
  have first : Segment.HoldsBinding twoLettersText
      { comments := [], element := boundPattern 4 5 ["name"], parts := [] } :=
    ⟨⟨by decide, rfl, by decide⟩, ⟨"a", by decide +kernel, by decide⟩, by decide⟩
  have last : Segment.HoldsBinding twoLettersText
      { comments := [twoLettersComment], element := second, parts := [] } :=
    ⟨⟨List.forall_mem_singleton.mpr ⟨rfl, rfl⟩, isElement, by simp⟩,
      ⟨"b", named, by decide⟩, by simp⟩
  have stated : (bindingKeywordIn? twoLettersText
      (.rule "property_declaration" 0 13 [] [.token "let" 0 3 []])).isSome = true := by
    decide +kernel
  refine ⟨List.mem_cons_self, by decide, stated, ?_, _, rfl, .more _ rfl rfl (.last _)⟩
  simp only [twoLettersSegments, List.forall_mem_cons]
  exact ⟨first, last, by simp⟩

/-- A modifier list or a keyword in the place of a pattern shows on the record of its neighbour, and
a comment under the field `name` has a record beside those of the segments. -/
theorem variables_beyond_own_segments :
    (∀ second ∈ [boundPattern 12 13 [], modifierPattern, keywordPattern],
      BindingLayout twoLettersText (twoLetters twoLettersComment second) [.token "let" 0 3 []]
        (twoLettersSegments second)) ∧
    [boundPattern 12 13 [], modifierPattern, keywordPattern].map (fun second =>
      (VariableBinding.ofDeclaration twoLettersText (twoLetters twoLettersComment second)).map
        (List.map (·.render))) =
      [.ok ["let a", "let b"], .ok ["b let a", "b let b"], .ok ["var a", "var b"]] ∧
    (VariableBinding.ofDeclaration twoLettersText
      (twoLetters twoLettersComment.asElement (boundPattern 12 13 []))).map (List.map (·.name)) =
      .ok ["a", "/**/", "b"] := by
  refine ⟨?_, by decide +kernel, by decide +kernel⟩
  simp only [List.forall_mem_cons]
  exact ⟨twoLetters_layout rfl (by decide +kernel), twoLetters_layout rfl (by decide +kernel),
    twoLetters_layout rfl (by decide +kernel), by simp⟩

end Synopsis
