/-
Module: Synopsis.Proofs.Segments
Purpose: A declaration that lists elements is a head and then one segment for each element, with
  commas between them.  The elements of a case declaration are read one for each segment, and
  nothing of one segment gets into the record of another.
Main exports:
  Segment, Segment.Framed, Segment.Listed, Segment.StandsAt, Segment.Listed.standsAt, CaseLayout,
  case_records_follow_segments
-/
import Synopsis.Proofs.Payloads

namespace Synopsis

universe u v

/-! ### Segments -/

/-- Whether a node stands under the field `name`, as the elements of a list do. -/
def Node.isElement (node : Node) : Bool :=
  node.field == some "name"

theorem kind_of_isToken {node : Node} {spelling : String} (isToken : node.isToken spelling = true) :
    node.kind = spelling := by
  rw [Node.isToken, Bool.and_eq_true] at isToken
  exact eq_of_beq isToken.2

/-- One element of a list with what surrounds it: comments before it and other nodes after it. -/
structure Segment where
  comments : List Node
  element : Node
  parts : List Node

namespace Segment

/-- The nodes of a segment in order. -/
def nodes (segment : Segment) : List Node :=
  segment.comments ++ segment.element :: segment.parts

/-- A segment as it stands between two commas: its element is the only node under the field
`name`. -/
structure Framed (segment : Segment) : Prop where
  comments : ∀ node ∈ segment.comments, node.isComment = true ∧ node.isElement = false
  element : segment.element.isElement = true
  parts : ∀ node ∈ segment.parts, node.isElement = false ∧ node.isToken "," = false

/-- The nodes of some segments with a comma between each two. -/
inductive Listed : List Segment → List Node → Prop where
  | last (segment : Segment) : Listed [segment] segment.nodes
  | more (segment : Segment) {comma : Node} {segments : List Segment} {nodes : List Node}
      (isComma : comma.isToken "," = true) (unfielded : comma.isElement = false)
      (rest : Listed segments nodes) :
      Listed (segment :: segments) (segment.nodes ++ comma :: nodes)

/-- The place of the element of a segment.  The parts of the segment follow it, and then nothing or
a node that ends the segment. -/
structure StandsAt (ends : Node → Bool) (parent : Node) (segment : Segment) (place : Place) :
    Prop where
  node : place.node = segment.element
  parent : place.parent = some parent
  following : ∃ rest, place.following = segment.parts ++ rest ∧ rest.head?.all ends = true

/-- Up to the next end there are the parts of the segment. -/
theorem StandsAt.takeWhile_following {ends : Node → Bool} {parent : Node} {segment : Segment}
    {place : Place} (stands : segment.StandsAt ends parent place)
    (inside : ∀ node ∈ segment.parts, ends node = false) :
    place.following.takeWhile (!ends ·) = segment.parts := by
  obtain ⟨rest, followingEq, ended⟩ := stands.following
  have passed : ∀ node ∈ segment.parts, (!ends node) = true := by
    intro node member
    rw [inside node member]
    rfl
  rw [followingEq, List.takeWhile_append_of_pos passed]
  cases rest with
  | nil => simp
  | cons next others =>
      have stops : ends next = true := by simpa using ended
      simp [stops]

end Segment

/-! ### The places of the elements -/

/-- A list with elements under the field `name` has these and no others. -/
theorem caseElements_eq_filter {entry : Node}
    (found : (entry.childPlaces.filter (·.node.isElement)).isEmpty = false) :
    caseElements entry = entry.childPlaces.filter (·.node.isElement) :=
  if_neg (ne_true_of_eq_false found)

/-- Children that are no elements have no places among those of the elements. -/
theorem filter_isElement_go_append (parent : Node) {front : List Node}
    (unfielded : ∀ node ∈ front, node.isElement = false) (back : List Node) :
    (Node.childPlaces.go parent (front ++ back)).filter (·.node.isElement) =
      (Node.childPlaces.go parent back).filter (·.node.isElement) := by
  induction front with
  | nil => rfl
  | cons node rest inductionHypothesis =>
      rw [List.forall_mem_cons] at unfielded
      rw [List.cons_append, Node.childPlaces.go, List.filter_cons_of_neg (by simp [unfielded.1])]
      exact inductionHypothesis unfielded.2

/-- The element is what a segment has among the places of the elements. -/
theorem Segment.Framed.filter_isElement_go {segment : Segment} (framed : segment.Framed)
    (parent : Node) (rest : List Node) :
    (Node.childPlaces.go parent (segment.nodes ++ rest)).filter (·.node.isElement) =
      ⟨segment.element, some parent, segment.parts ++ rest⟩ ::
        (Node.childPlaces.go parent rest).filter (·.node.isElement) := by
  rw [Segment.nodes, List.append_assoc,
    filter_isElement_go_append parent fun node member => (framed.comments node member).2,
    List.cons_append, Node.childPlaces.go, List.filter_cons_of_pos (by exact framed.element),
    filter_isElement_go_append parent fun node member => (framed.parts node member).1]

/-- The elements of a list have their places one for each segment. -/
theorem Segment.Listed.standsAt {ends : Node → Bool} {segments : List Segment}
    {nodes closing : List Node} (listed : Segment.Listed segments nodes) (parent : Node)
    (framed : ∀ segment ∈ segments, segment.Framed)
    (comma : ∀ node : Node, node.isToken "," = true → ends node = true)
    (closed : closing.head?.all ends = true)
    (unfielded : ∀ node ∈ closing, node.isElement = false) :
    List.Forall₂ (Segment.StandsAt ends parent) segments
      ((Node.childPlaces.go parent (nodes ++ closing)).filter (·.node.isElement)) := by
  induction listed with
  | last segment =>
      rw [(framed segment List.mem_cons_self).filter_isElement_go]
      have none : (Node.childPlaces.go parent closing).filter (·.node.isElement) = [] := by
        simpa [Node.childPlaces.go] using filter_isElement_go_append parent unfielded []
      rw [none]
      exact .cons ⟨rfl, rfl, closing, rfl, closed⟩ .nil
  | @more segment commaNode segments nodes isComma commaUnfielded rest inductionHypothesis =>
      rw [List.forall_mem_cons] at framed
      rw [List.append_assoc, framed.1.filter_isElement_go, List.cons_append, Node.childPlaces.go,
        List.filter_cons_of_neg (by simp [commaUnfielded])]
      refine .cons ⟨rfl, rfl, _, rfl, ?_⟩ (inductionHypothesis framed.2)
      simpa using comma commaNode isComma

theorem Segment.Listed.ne_nil {segments : List Segment} {nodes : List Node}
    (listed : Segment.Listed segments nodes) : segments ≠ [] := by
  cases listed with
  | last => exact List.cons_ne_nil _ _
  | more => exact List.cons_ne_nil _ _

/-- The elements of a node whose children are a head and then a list, each at its place. -/
theorem Segment.Listed.standsAt_childPlaces {ends : Node → Bool} {segments : List Segment}
    {head nodes closing : List Node} {parent : Node} (listed : Segment.Listed segments nodes)
    (childrenEq : parent.children = head ++ (nodes ++ closing))
    (headOnly : ∀ node ∈ head, node.isElement = false)
    (framed : ∀ segment ∈ segments, segment.Framed)
    (comma : ∀ node : Node, node.isToken "," = true → ends node = true)
    (closed : closing.head?.all ends = true)
    (unfielded : ∀ node ∈ closing, node.isElement = false) :
    List.Forall₂ (Segment.StandsAt ends parent) segments
        (parent.childPlaces.filter (·.node.isElement)) ∧
      (parent.childPlaces.filter (·.node.isElement)).isEmpty = false := by
  have stand := listed.standsAt parent framed comma closed unfielded
  rw [← filter_isElement_go_append parent headOnly, ← childrenEq] at stand
  refine ⟨stand, ?_⟩
  rw [List.isEmpty_eq_false_iff]
  intro empty
  rw [Node.childPlaces] at empty
  rw [empty] at stand
  exact listed.ne_nil (List.forall₂_nil_right_iff.mp stand)

/-- A run over items that are each the counterpart of something succeeds when each step does, and
what the steps establish holds of the results in order. -/
theorem exists_mapM_of_forall₂ {ι : Type u} {α β ε : Type v} {R : ι → α → Prop} {S : ι → β → Prop}
    {read : α → Except ε β} {items : List ι} {counterparts : List α}
    (related : List.Forall₂ R items counterparts)
    (step : ∀ item ∈ items, ∀ counterpart, R item counterpart →
      ∃ result, read counterpart = .ok result ∧ S item result) :
    ∃ results, counterparts.mapM read = .ok results ∧ List.Forall₂ S items results := by
  induction related with
  | nil => exact ⟨[], rfl, .nil⟩
  | cons head _ inductionHypothesis =>
      rw [List.forall_mem_cons] at step
      obtain ⟨result, resultEq, holds⟩ := step.1 _ head
      obtain ⟨results, resultsEq, hold⟩ := inductionHypothesis step.2
      refine ⟨result :: results, ?_, .cons holds hold⟩
      rw [List.mapM_cons, resultEq, resultsEq]
      rfl

/-! ### What a list has besides its elements -/

/-- A search for something that is always kept finds the same among what is kept. -/
theorem find?_eq_of_filter_eq {α : Type u} {keeps test : α → Bool} {items others : List α}
    (narrower : ∀ item, test item = true → keeps item = true)
    (same : items.filter keeps = others.filter keeps) :
    items.find? test = others.find? test := by
  have restrict : ∀ items : List α, items.find? test = (items.filter keeps).find? test := by
    intro items
    rw [List.find?_filter]
    congr 1
    funext item
    cases passed : test item with
    | false => simp
    | true => simp [narrower item passed]
  rw [restrict, same, ← restrict]

section

variable {test : Node → Bool}

theorem Segment.filter_nodes {segment : Segment}
    (comments : ∀ node ∈ segment.comments, test node = false)
    (parts : ∀ node ∈ segment.parts, test node = false) :
    segment.nodes.filter test = [segment.element].filter test := by
  have front : segment.comments.filter test = [] :=
    List.filter_eq_nil_iff.mpr (by simpa using comments)
  have back : segment.parts.filter test = [] :=
    List.filter_eq_nil_iff.mpr (by simpa using parts)
  rw [Segment.nodes, List.filter_append, front, List.nil_append, ← List.singleton_append,
    List.filter_append, back, List.append_nil]

/-- A test that fails on everything besides the elements passes the elements only. -/
theorem Segment.Listed.filter_eq {segments : List Segment} {nodes : List Node}
    (listed : Segment.Listed segments nodes)
    (comma : ∀ node : Node, node.isToken "," = true → test node = false)
    (comments : ∀ segment ∈ segments, ∀ node ∈ segment.comments, test node = false)
    (parts : ∀ segment ∈ segments, ∀ node ∈ segment.parts, test node = false) :
    nodes.filter test = (segments.map Segment.element).filter test := by
  induction listed with
  | last segment =>
      exact Segment.filter_nodes (comments segment List.mem_cons_self)
        (parts segment List.mem_cons_self)
  | @more segment commaNode segments nodes isComma _ _ inductionHypothesis =>
      rw [List.forall_mem_cons] at comments parts
      have tail : (commaNode :: nodes).filter test =
          (segments.map Segment.element).filter test := by
        rw [List.filter_cons_of_neg (by simp [comma commaNode isComma]),
          inductionHypothesis comments.2 parts.2]
      rw [List.filter_append, Segment.filter_nodes comments.1 parts.1, tail, ← List.filter_append]
      rfl

/-- Of the elements around one segment none counts when the test fails on all the others. -/
theorem Segment.filter_elements_around {before after : List Segment} (segment : Segment)
    (others : ∀ other ∈ before ++ after, test other.element = false) :
    ((before ++ segment :: after).map Segment.element).filter test =
      [segment.element].filter test := by
  rw [List.forall_mem_append] at others
  have front : (before.map Segment.element).filter test = [] :=
    List.filter_eq_nil_iff.mpr (by simpa using others.1)
  have back : (after.map Segment.element).filter test = [] :=
    List.filter_eq_nil_iff.mpr (by simpa using others.2)
  rw [List.map_append, List.filter_append, front, List.nil_append, List.map_cons,
    ← List.singleton_append, List.filter_append, back, List.append_nil]

end

/-! ### Decorators of a list of cases -/

/-- Whether a child of a case declaration decorates its cases: a modifier list, or the token that
counts as a modifier. -/
def Node.isCaseDecoration (node : Node) : Bool :=
  node.kind == "modifiers" || node.isToken "indirect"

/-- Only decorating children count for the decorators of a case declaration. -/
theorem decorators_eq_of_filter_eq (source : String) {entry entry' : Node}
    (same : entry.children.filter Node.isCaseDecoration =
      entry'.children.filter Node.isCaseDecoration) :
    Kind.enumCase.decorators source entry = Kind.enumCase.decorators source entry' := by
  have list : entry.childOfKind? "modifiers" = entry'.childOfKind? "modifiers" := by
    refine find?_eq_of_filter_eq ?_ same
    intro node passed
    rw [Node.isCaseDecoration, passed, Bool.true_or]
  have token : entry.firstToken? ["indirect"] = entry'.firstToken? ["indirect"] := by
    apply congrArg (Option.map Node.kind)
    refine find?_eq_of_filter_eq ?_ same
    intro node passed
    have isIndirect : node.isToken "indirect" = true := by simpa [Node.isToken] using passed
    rw [Node.isCaseDecoration, isIndirect, Bool.or_true]
  rw [Kind.decorators, Kind.decorators, Decorators.ofNode, Decorators.ofNode, list]
  exact congrArg (Decorators.withToken · _) token

theorem isCaseDecoration_of_isToken {node : Node} {spelling : String}
    (isToken : node.isToken spelling = true)
    (other : spelling ≠ "modifiers" ∧ spelling ≠ "indirect") : node.isCaseDecoration = false := by
  simp [Node.isCaseDecoration, Node.isToken, kind_of_isToken isToken, other]

theorem isCaseDecoration_of_isComment {node : Node} (isComment : node.isComment = true) :
    node.isCaseDecoration = false := by
  rcases Bool.or_eq_true_iff.mp isComment with comment | comment
  · simp [Node.isCaseDecoration, Node.isToken, eq_of_beq comment]
  · simp [Node.isCaseDecoration, Node.isToken, eq_of_beq comment]

/-! ### Case declarations in segments -/

theorem exists_text?_of_isLegible {source : String} {node : Node}
    (legible : node.isLegible source = true) :
    ∃ text, node.text? source = some text ∧ text ≠ "" := by
  have nonempty := text?_all_isEmpty source node
  rw [legible] at nonempty
  cases found : node.text? source with
  | none => simp [found] at nonempty
  | some text => exact ⟨text, rfl, by simpa [found] using nonempty⟩

/-- A segment with one case in it.  The name is legible, and nothing after it ends the element
early, introduces cases or decorates them. -/
structure Segment.HoldsCase (source : String) (segment : Segment) : Prop extends
    Segment.Framed segment where
  legible : segment.element.isLegible source = true
  plain : ∀ node ∈ segment.parts, node.isToken ";" = false ∧ node.isToken "case" = false ∧
    node.isToken "indirect" = false ∧ node.kind ≠ "modifiers"

/-- A case declaration laid out in segments: a head without elements, the segments with commas
between them, and semicolons at the end. -/
structure CaseLayout (source : String) (entry : Node) (head : List Node)
    (segments : List Segment) : Prop where
  isEntry : entry.kind = "enum_entry"
  headOnly : ∀ node ∈ head, node.isElement = false
  holdCases : ∀ segment ∈ segments, segment.HoldsCase source
  children : ∃ nodes closing, entry.children = head ++ (nodes ++ closing) ∧
    Segment.Listed segments nodes ∧
    ∀ node ∈ closing, node.isToken ";" = true ∧ node.isElement = false

theorem Segment.Listed.filter_isCaseDecoration {source : String} {segments : List Segment}
    {nodes : List Node} (listed : Segment.Listed segments nodes)
    (holds : ∀ segment ∈ segments, segment.HoldsCase source) :
    nodes.filter Node.isCaseDecoration =
      (segments.map Segment.element).filter Node.isCaseDecoration := by
  apply listed.filter_eq
  · intro node isComma
    exact isCaseDecoration_of_isToken isComma (by decide)
  · intro segment member node inside
    exact isCaseDecoration_of_isComment ((holds segment member).comments node inside).1
  · intro segment member node inside
    obtain ⟨-, -, notIndirect, notModifiers⟩ := (holds segment member).plain node inside
    simp [Node.isCaseDecoration, notIndirect, notModifiers]

namespace CaseLayout

variable {source : String} {entry : Node} {head : List Node} {segments : List Segment}
  (layout : CaseLayout source entry head segments)

include layout

theorem filter_isCaseDecoration :
    entry.children.filter Node.isCaseDecoration =
      head.filter Node.isCaseDecoration ++
        (segments.map Segment.element).filter Node.isCaseDecoration := by
  obtain ⟨nodes, closing, childrenEq, listed, closes⟩ := layout.children
  have none : closing.filter Node.isCaseDecoration = [] := by
    rw [List.filter_eq_nil_iff]
    intro node member
    rw [isCaseDecoration_of_isToken (closes node member).1 (by decide)]
    exact Bool.false_ne_true
  rw [childrenEq, List.filter_append, List.filter_append, none, List.append_nil,
    listed.filter_isCaseDecoration layout.holdCases]

/-- The elements of the declaration are those of the segments, each at its place. -/
theorem standsAt :
    List.Forall₂ (Segment.StandsAt Node.endsElement entry) segments (caseElements entry) := by
  obtain ⟨nodes, closing, childrenEq, listed, closes⟩ := layout.children
  have comma : ∀ node : Node, node.isToken "," = true → node.endsElement = true := by
    intro node isComma
    rw [Node.endsElement, isComma, Bool.true_or]
  have closed : closing.head?.all Node.endsElement = true := by
    rw [Option.all_eq_true]
    intro node first
    rw [Node.endsElement, (closes node (List.mem_of_head? first)).1, Bool.or_true]
  have framed : ∀ segment ∈ segments, segment.Framed := fun segment member =>
    (layout.holdCases segment member).toFramed
  obtain ⟨stand, found⟩ := listed.standsAt_childPlaces childrenEq layout.headOnly framed comma
    closed fun node member => (closes node member).2
  rw [caseElements_eq_filter found]
  exact stand

/-- Every segment gives one record, in order. -/
theorem exists_records :
    ∃ records, EnumCase.ofEntry source entry = .ok records ∧
      List.Forall₂ (fun segment record =>
        record.ReadFrom source entry segment.element segment.parts) segments records := by
  apply exists_mapM_of_forall₂ layout.standsAt
  intro segment member place stands
  have holds := layout.holdCases segment member
  have stretchEq : place.stretch = segment.parts := by
    apply stands.takeWhile_following
    intro node inside
    rw [Node.endsElement, (holds.parts node inside).2, (holds.plain node inside).1, Bool.or_self]
  obtain ⟨name, nameEq, nonempty⟩ := exists_text?_of_isLegible holds.legible
  obtain ⟨record, rfl, readFrom⟩ := EnumCase.exists_readFrom nameEq entry segment.parts
  refine ⟨record, ofPlace_eq_ok_iff.mpr ?_, readFrom⟩
  rw [stands.node, stretchEq]
  exact ⟨entry, stands.parent, layout.isEntry, nonempty, readFrom⟩

end CaseLayout

/-- Two lists of segments around the same one have the same decorating elements when the other
segments have none. -/
theorem filter_isCaseDecoration_around {before after : List Segment} (segment : Segment)
    (others : ∀ other ∈ before ++ after, other.element.isCaseDecoration = false) :
    ((before ++ segment :: after).map Segment.element).filter Node.isCaseDecoration =
      [segment.element].filter Node.isCaseDecoration :=
  segment.filter_elements_around others

/-- What is related in order is related at the same position. -/
theorem getElem?_of_forall₂ {α : Type u} {β : Type v} {R : α → β → Prop} {before after : List α}
    {item : α} {results : List β} (related : List.Forall₂ R (before ++ item :: after) results) :
    ∃ result, results[before.length]? = some result ∧ R item result := by
  induction before generalizing results with
  | nil =>
      cases related with
      | cons head _ => exact ⟨_, rfl, head⟩
  | cons first rest inductionHypothesis =>
      cases related with
      | cons _ tail => exact inductionHypothesis tail

/-- A case declaration that is laid out in segments gives one record for each of them, in order.
The name of a record is the text of the segment's element, its payload and its raw value are the
last ones after the element in that segment, and all records have the same attributes, modifiers
and keyword.  In any other layout with the same head and that segment, whatever stands before and
after it, the segment has the same record, as long as no element of the other segments is a
modifier list or the token `indirect`. -/
theorem case_records_follow_segments {source : String} {entry : Node} {head : List Node}
    {segments : List Segment} (layout : CaseLayout source entry head segments) :
    ∃ records, EnumCase.ofEntry source entry = .ok records ∧
      List.Forall₂ (fun segment record =>
        record.ReadFrom source entry segment.element segment.parts) segments records ∧
      (∀ one ∈ records, ∀ other ∈ records, one.toHeading = other.toHeading) ∧
      ∀ (entry' : Node) (segment : Segment) (before after before' after' : List Segment),
        segments = before ++ segment :: after →
        CaseLayout source entry' head (before' ++ segment :: after') →
        (∀ other ∈ before ++ after, other.element.isCaseDecoration = false) →
        (∀ other ∈ before' ++ after', other.element.isCaseDecoration = false) →
        ∃ records', EnumCase.ofEntry source entry' = .ok records' ∧
          records'[before'.length]? = records[before.length]? := by
  obtain ⟨records, succeeded, related⟩ := layout.exists_records
  refine ⟨records, succeeded, related, ?_, ?_⟩
  · have headed : List.Forall₂ (fun record _ => record.toHeading =
        ⟨Kind.enumCase.decorators source entry, Kind.enumCase.keyword⟩ ∧ True)
        records segments := by
      apply related.flip.imp
      intro record segment readFrom
      rw [← readFrom.decorators, ← readFrom.keyword]
      exact ⟨rfl, trivial⟩
    have headings := ((List.forall₂_and_left records segments).mp headed).1
    intro one oneMember other otherMember
    rw [headings one oneMember, headings other otherMember]
  · rintro entry' segment before after before' after' rfl layout' plain plain'
    obtain ⟨records', succeeded', related'⟩ := layout'.exists_records
    refine ⟨records', succeeded', ?_⟩
    obtain ⟨record, recordEq, readFrom⟩ := getElem?_of_forall₂ related
    obtain ⟨record', recordEq', readFrom'⟩ := getElem?_of_forall₂ related'
    have decorators : Kind.enumCase.decorators source entry' =
        Kind.enumCase.decorators source entry := by
      apply decorators_eq_of_filter_eq
      rw [layout.filter_isCaseDecoration, layout'.filter_isCaseDecoration,
        filter_isCaseDecoration_around segment plain, filter_isCaseDecoration_around segment plain']
    rw [recordEq, recordEq', readFrom'.eq_of_decorators_eq readFrom decorators]

/-- The same node under the field `name`. -/
def Node.asElement (node : Node) : Node :=
  .mk { node.row with field := some "name" } node.children

/-- An identifier under the field `name`.  Of several the first is found by looking up `name`. -/
def fieldedIdentifier (start stop : Nat) (lookups : List String) : Node :=
  (Node.rule "simple_identifier" start stop lookups []).asElement

/-- The text of `payloadAndRawValue`. -/
def payloadAndRawValueText : String :=
  "case a(Int), /**/ b = 1;"

/-- The segment of a case with a payload. -/
def payloadSegment : Segment :=
  { comments := [],
    element := fieldedIdentifier 5 6 ["name"],
    parts :=
      [.rule "enum_type_parameters" 6 11 []
        [.token "(" 6 7 [], .rule "user_type" 7 10 [] [], .token ")" 10 11 []]] }

/-- The segment of a case with a comment before it and a raw value. -/
def rawValueSegment : Segment :=
  { comments := [.rule "multiline_comment" 13 17 [] []],
    element := fieldedIdentifier 18 19 [],
    parts := [.token "=" 20 21 [], .rule "integer_literal" 22 23 [] []] }

/-- The tree of a case declaration with the given nodes after its keyword. -/
def caseDeclaration (stop : Nat) (nodes : List Node) : Node :=
  .rule "enum_entry" 0 stop [] (.token "case" 0 4 [] :: nodes)

/-- The tree of a case with a payload and a case with a raw value. -/
def payloadAndRawValue : Node :=
  caseDeclaration 24
    (payloadSegment.nodes ++ .token "," 11 12 [] :: rawValueSegment.nodes ++ [.token ";" 23 24 []])

/-- The case with the raw value has the same record when the other case is taken away. -/
theorem records_of_payloadAndRawValue :
    CaseLayout payloadAndRawValueText payloadAndRawValue [.token "case" 0 4 []]
      [payloadSegment, rawValueSegment] ∧
    CaseLayout payloadAndRawValueText (caseDeclaration 24 rawValueSegment.nodes)
      [.token "case" 0 4 []] [rawValueSegment] ∧
    ∃ records records', EnumCase.ofEntry payloadAndRawValueText payloadAndRawValue = .ok records ∧
      EnumCase.ofEntry payloadAndRawValueText (caseDeclaration 24 rawValueSegment.nodes) =
        .ok records' ∧
      records.map (·.render) = ["case a(Int)", "case b = 1"] ∧ records'[0]? = records[1]? := by
  have payload : payloadSegment.HoldsCase payloadAndRawValueText :=
    ⟨⟨by decide, rfl, by decide⟩, by decide +kernel, by decide⟩
  have rawValue : rawValueSegment.HoldsCase payloadAndRawValueText :=
    ⟨⟨by decide, rfl, by decide⟩, by decide +kernel, by decide⟩
  have both : CaseLayout payloadAndRawValueText payloadAndRawValue [.token "case" 0 4 []]
      [payloadSegment, rawValueSegment] :=
    ⟨rfl, by decide, by simp [payload, rawValue], _, [.token ";" 23 24 []], rfl,
      .more payloadSegment rfl rfl (.last rawValueSegment), by decide⟩
  have alone : CaseLayout payloadAndRawValueText (caseDeclaration 24 rawValueSegment.nodes)
      [.token "case" 0 4 []] [rawValueSegment] :=
    ⟨rfl, by decide, by simp [rawValue], _, [], rfl, .last rawValueSegment, by simp⟩
  obtain ⟨records, succeeded, -, -, kept⟩ := case_records_follow_segments both
  obtain ⟨records', succeeded', same⟩ := kept _ rawValueSegment [payloadSegment] [] [] [] rfl alone
    (by decide) (by simp)
  have texts : (EnumCase.ofEntry payloadAndRawValueText payloadAndRawValue).map
      (List.map (·.render)) = .ok ["case a(Int)", "case b = 1"] := by
    decide +kernel
  rw [succeeded] at texts
  exact ⟨both, alone, records, records', succeeded, succeeded', Except.ok.inj texts, same⟩

/-- The text of `indirectNeighbour`. -/
def indirectNeighbourText : String :=
  "case a, indirect"

/-- The segment of the case `a`. -/
def letterSegment : Segment :=
  { comments := [], element := fieldedIdentifier 5 6 ["name"], parts := [] }

/-- A segment whose element is the token that counts as a modifier. -/
def indirectSegment : Segment :=
  { comments := [], element := (Node.token "indirect" 8 16 []).asElement, parts := [] }

/-- The tree of two cases, of which the second is called `indirect` by that token itself. -/
def indirectNeighbour : Node :=
  caseDeclaration 16 (letterSegment.nodes ++ .token "," 6 7 [] :: indirectSegment.nodes)

/-- The text of `listedLetters`. -/
def listedLettersText : String :=
  "case a, /**/ b"

/-- The tree of two cases with a comment between them, from the nodes before the last one. -/
def listedLetters (keyword first comma comment : Node) : Node :=
  .rule "enum_entry" 0 14 [] [keyword, first, comma, comment, fieldedIdentifier 13 14 []]

/-- The keyword of `listedLetters`. -/
def lettersKeyword : Node :=
  .token "case" 0 4 []

/-- The first case of `listedLetters`. -/
def lettersFirst : Node :=
  fieldedIdentifier 5 6 ["name"]

/-- The comma of `listedLetters`. -/
def lettersComma : Node :=
  .token "," 6 7 []

/-- The comment of `listedLetters`. -/
def lettersComment : Node :=
  .rule "multiline_comment" 8 12 [] []

/-- A segment whose element is the token `indirect` shows on the record of its neighbour, and a
comment under the field `name` has a record beside those of the segments. -/
theorem records_beyond_own_segments :
    CaseLayout indirectNeighbourText (caseDeclaration 16 letterSegment.nodes)
      [.token "case" 0 4 []] [letterSegment] ∧
    CaseLayout indirectNeighbourText indirectNeighbour [.token "case" 0 4 []]
      [letterSegment, indirectSegment] ∧
    EnumCase.ofEntry indirectNeighbourText (caseDeclaration 16 letterSegment.nodes) =
      .ok [bareCase "a"] ∧
    (∃ first second, EnumCase.ofEntry indirectNeighbourText indirectNeighbour =
      .ok [first, second] ∧ first ≠ bareCase "a") ∧
    (EnumCase.ofEntry listedLettersText
      (listedLetters lettersKeyword lettersFirst lettersComma lettersComment.asElement)).map
        (List.map (·.name)) = .ok ["a", "/**/", "b"] := by
  have letter : letterSegment.HoldsCase indirectNeighbourText :=
    ⟨⟨by decide, rfl, by decide⟩, by decide +kernel, by decide⟩
  have token : indirectSegment.HoldsCase indirectNeighbourText :=
    ⟨⟨by decide, rfl, by decide⟩, by decide +kernel, by decide⟩
  refine ⟨?_, ?_, by decide +kernel,
    ⟨{ bareCase "a" with modifiers := [{ name := "indirect", detail := none }] },
      { bareCase "indirect" with modifiers := [{ name := "indirect", detail := none }] },
      by decide +kernel, by decide⟩,
    by decide +kernel⟩
  · exact ⟨rfl, by decide, by simp [letter], _, [], rfl, .last letterSegment, by simp⟩
  · exact ⟨rfl, by decide, by simp [letter, token], _, [], rfl,
      .more letterSegment rfl rfl (.last indirectSegment), by simp⟩

end Synopsis
