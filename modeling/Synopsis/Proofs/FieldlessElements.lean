/-
Module: Synopsis.Proofs.FieldlessElements
Purpose: The elements of a case declaration are found by position where the tree has no fields.  In
  a declaration as the grammar lays it out this finds the elements that the fields name, so taking
  the fields away changes neither its records nor its fault.
Main exports:
  Node.unfielded, Node.withoutFields, ofPlace_withoutFields, ofEntry_withoutFields,
  IdentifierLayout, ofEntry_agrees_without_fields
-/
import Synopsis.Proofs.Segments

namespace Synopsis

/-! ### Taking the fields away -/

namespace Node

/-- The same node under no field of its parent: no traversal reports one, and no look-up finds the
node. -/
def unfielded (node : Node) : Node :=
  .mk { node.row with field := none, lookups := [] } node.children

/-- The same node with the fields taken away from all its children. -/
def withoutFields (node : Node) : Node :=
  .mk node.row (node.children.map unfielded)

@[simp] theorem kind_unfielded (node : Node) : node.unfielded.kind = node.kind := rfl

@[simp] theorem isComment_unfielded (node : Node) : node.unfielded.isComment = node.isComment := rfl

@[simp] theorem isToken_unfielded (spelling : String) (node : Node) :
    node.unfielded.isToken spelling = node.isToken spelling := rfl

end Node

/-- The same place in a tree with no fields on the children of the parent. -/
def Place.withoutFields (place : Place) : Place :=
  ⟨place.node.unfielded, place.parent.map Node.withoutFields, place.following.map Node.unfielded⟩

/-- A test that does not see a change of the nodes passes the same nodes. -/
theorem filter_map_of_same (change : Node → Node) {test : Node → Bool}
    (same : ∀ node : Node, test (change node) = test node) (nodes : List Node) :
    (nodes.map change).filter test = (nodes.filter test).map change := by
  rw [List.filter_map]
  congr 2
  funext node
  exact same node

theorem find?_map_of_same (change : Node → Node) {test : Node → Bool}
    (same : ∀ node : Node, test (change node) = test node) (nodes : List Node) :
    (nodes.map change).find? test = (nodes.find? test).map change := by
  rw [List.find?_map]
  congr 2
  funext node
  exact same node

section

variable (change : Node → Node)

theorem childOfKind?_map_children (kinds : ∀ node : Node, (change node).kind = node.kind)
    (kind : String) (node : Node) :
    (Node.mk node.row (node.children.map change)).childOfKind? kind =
      (node.childOfKind? kind).map change := by
  apply find?_map_of_same change
  intro child
  rw [kinds child]

theorem firstToken?_map_children (kinds : ∀ node : Node, (change node).kind = node.kind)
    (names : ∀ node : Node, (change node).named = node.named)
    (spellings : List String) (node : Node) :
    (Node.mk node.row (node.children.map change)).firstToken? spellings =
      node.firstToken? spellings := by
  have same : ∀ child : Node, (!(change child).named && spellings.contains (change child).kind) =
      (!child.named && spellings.contains child.kind) := by
    intro child
    rw [kinds child, names child]
  rw [Node.firstToken?, Node.firstToken?, Node.children, find?_map_of_same change same,
    Option.map_map]
  apply congrArg (Option.map · _)
  funext child
  exact kinds child

/-- Decorators are searched by kind and read from the children of their list. -/
theorem decorators_map_children (kinds : ∀ node : Node, (change node).kind = node.kind)
    (children : ∀ node : Node, (change node).children = node.children)
    (source : String) (node : Node) :
    Decorators.ofNode source (.mk node.row (node.children.map change)) =
      Decorators.ofNode source node := by
  rw [Decorators.ofNode, Decorators.ofNode, childOfKind?_map_children change kinds]
  cases node.childOfKind? "modifiers" with
  | none => rfl
  | some modifiers =>
      rw [Option.map_some]
      dsimp only
      rw [Node.namedChildren, children modifiers]
      rfl

end

theorem childOfKind?_withoutFields (kind : String) (node : Node) :
    node.withoutFields.childOfKind? kind = (node.childOfKind? kind).map Node.unfielded :=
  childOfKind?_map_children Node.unfielded (fun _ => rfl) kind node

theorem firstToken?_withoutFields (spellings : List String) (node : Node) :
    node.withoutFields.firstToken? spellings = node.firstToken? spellings :=
  firstToken?_map_children Node.unfielded (fun _ => rfl) (fun _ => rfl) spellings node

/-! ### Reading an element without fields -/

/-- Decorators are searched by kind and by token. -/
theorem decorators_withoutFields (source : String) (entry : Node) (kind : Kind) :
    kind.decorators source entry.withoutFields = kind.decorators source entry := by
  rw [Kind.decorators, Kind.decorators, firstToken?_withoutFields]
  apply congrArg (Decorators.withToken _)
  exact decorators_map_children Node.unfielded (fun _ => rfl) (fun _ => rfl) source entry

theorem stretch_withoutFields (place : Place) :
    place.withoutFields.stretch = place.stretch.map Node.unfielded := by
  rw [Place.stretch, Place.withoutFields, List.takeWhile_map]
  rfl

/-- An element without fields has the same record or the same fault. -/
theorem ofPlace_withoutFields (source : String) (place : Place) :
    EnumCase.ofPlace source place.withoutFields = EnumCase.ofPlace source place := by
  have payload : (place.withoutFields.caseParts.filter Node.isPayload).getLast?.map
      (associatedValues source) =
      (place.caseParts.filter Node.isPayload).getLast?.map (associatedValues source) := by
    rw [filter_isPayload_caseParts, filter_isPayload_caseParts, stretch_withoutFields,
      filter_map_of_same Node.unfielded fun _ => rfl, List.getLast?_map, Option.map_map]
    rfl
  have raw : (place.withoutFields.caseParts.filter (!Node.isPayload ·)).getLast?.bind
      (Node.text? source) =
      (place.caseParts.filter (!Node.isPayload ·)).getLast?.bind (Node.text? source) := by
    rw [filter_not_isPayload_caseParts, filter_not_isPayload_caseParts, stretch_withoutFields,
      filter_map_of_same Node.unfielded fun _ => rfl, List.getLast?_map, Option.bind_map]
    rfl
  rw [EnumCase.ofPlace, EnumCase.ofPlace]
  dsimp only
  rw [payload, raw]
  cases parentEq : place.parent with
  | none => simp [Place.withoutFields, parentEq]
  | some entry =>
      have decorators := decorators_withoutFields source entry .enumCase
      simp only [Kind.decorators, Kind.bareModifiers] at decorators
      simp only [Place.withoutFields, parentEq, Option.map_some, decorators]
      rfl

/-! ### Finding the elements without fields -/

theorem childPlaces_go_withoutFields (parent : Node) (nodes : List Node) :
    Node.childPlaces.go parent.withoutFields (nodes.map Node.unfielded) =
      (Node.childPlaces.go parent nodes).map Place.withoutFields := by
  induction nodes with
  | nil => rfl
  | cons node rest inductionHypothesis =>
      rw [List.map_cons, Node.childPlaces.go, inductionHypothesis]
      rfl

theorem childPlaces_withoutFields (node : Node) :
    node.withoutFields.childPlaces = node.childPlaces.map Place.withoutFields :=
  childPlaces_go_withoutFields node node.children

theorem isEmpty_elements_withoutFields (node : Node) :
    (node.withoutFields.childPlaces.filter (·.node.isElement)).isEmpty = true := by
  rw [childPlaces_withoutFields, List.filter_map, List.isEmpty_map, List.isEmpty_iff,
    List.filter_eq_nil_iff]
  intro place _
  exact Bool.false_ne_true

theorem positionalElements_map_withoutFields (expecting : Bool) (places : List Place) :
    positionalElements expecting (places.map Place.withoutFields) =
      (positionalElements expecting places).map Place.withoutFields := by
  induction places generalizing expecting with
  | nil => rfl
  | cons place rest inductionHypothesis =>
      simp only [List.map_cons, positionalElements, inductionHypothesis]
      have node : place.withoutFields.node = place.node.unfielded := rfl
      simp only [node, Node.isComment_unfielded, Node.isToken_unfielded, Node.kind_unfielded]
      split
      · rfl
      split
      · rfl
      split
      · rfl
      · rfl

/-- Without fields the elements are read that stand at the right positions. -/
theorem ofEntry_withoutFields (source : String) (entry : Node) :
    EnumCase.ofEntry source entry.withoutFields =
      (positionalElements false entry.childPlaces).mapM (EnumCase.ofPlace source) := by
  have elements : caseElements entry.withoutFields =
      (positionalElements false entry.childPlaces).map Place.withoutFields := by
    rw [← positionalElements_map_withoutFields, ← childPlaces_withoutFields]
    exact if_pos (isEmpty_elements_withoutFields entry)
  rw [EnumCase.ofEntry, elements, List.mapM_map]
  congr 1
  funext place
  exact ofPlace_withoutFields source place

/-! ### The search by position, step by step -/

/-- Comments change nothing in what is expected. -/
theorem positionalElements_go_comments (parent : Node) {comments : List Node}
    (areComments : ∀ node ∈ comments, node.isComment = true) (expecting : Bool)
    (back : List Node) :
    positionalElements expecting (Node.childPlaces.go parent (comments ++ back)) =
      positionalElements expecting (Node.childPlaces.go parent back) := by
  induction comments with
  | nil => rfl
  | cons node rest inductionHypothesis =>
      rw [List.forall_mem_cons] at areComments
      rw [List.cons_append, Node.childPlaces.go, positionalElements, if_pos areComments.1]
      exact inductionHypothesis areComments.2

/-- Where no element is expected, nothing but `case` and a comma makes one expected. -/
theorem positionalElements_go_plain (parent : Node) {front : List Node}
    (plain : ∀ node ∈ front, node.isToken "case" = false ∧ node.isToken "," = false)
    (back : List Node) :
    positionalElements false (Node.childPlaces.go parent (front ++ back)) =
      positionalElements false (Node.childPlaces.go parent back) := by
  induction front with
  | nil => rfl
  | cons node rest inductionHypothesis =>
      rw [List.forall_mem_cons] at plain
      obtain ⟨⟨notCase, notComma⟩, others⟩ := plain
      simpa [Node.childPlaces.go, positionalElements, notCase, notComma] using
        inductionHypothesis others

/-- After `case` and after a comma an element is expected. -/
theorem positionalElements_go_opener (parent : Node) {node : Node}
    (opens : node.isToken "case" = true ∨ node.isToken "," = true) (expecting : Bool)
    (rest : List Node) :
    positionalElements expecting (Node.childPlaces.go parent (node :: rest)) =
      positionalElements true (Node.childPlaces.go parent rest) := by
  have notComment : node.isComment = false := by
    rcases opens with isCase | isComma
    · simp [Node.isComment, kind_of_isToken isCase]
    · simp [Node.isComment, kind_of_isToken isComma]
  rw [Node.childPlaces.go, positionalElements, if_neg (ne_true_of_eq_false notComment),
    if_pos (Bool.or_eq_true_iff.mpr opens)]

theorem positionalElements_go_identifier (parent : Node) {node : Node}
    (identifier : node.kind = "simple_identifier") (rest : List Node) :
    positionalElements true (Node.childPlaces.go parent (node :: rest)) =
      ⟨node, some parent, rest⟩ :: positionalElements false (Node.childPlaces.go parent rest) := by
  simp [Node.childPlaces.go, positionalElements, Node.isComment, Node.isToken, identifier]

/-! ### Declarations of identifiers -/

/-- A segment whose element is an identifier, with nothing after it that introduces cases. -/
structure Segment.HoldsIdentifier (segment : Segment) : Prop extends
    Segment.Framed segment where
  identifier : segment.element.kind = "simple_identifier"
  plain : ∀ node ∈ segment.parts, node.isToken "case" = false

/-- Where an element is expected, a segment has its element there and no other. -/
theorem Segment.HoldsIdentifier.positionalElements_go {segment : Segment}
    (holds : segment.HoldsIdentifier) (parent : Node) (rest : List Node) :
    positionalElements true (Node.childPlaces.go parent (segment.nodes ++ rest)) =
      ⟨segment.element, some parent, segment.parts ++ rest⟩ ::
        positionalElements false (Node.childPlaces.go parent rest) := by
  have plain : ∀ node ∈ segment.parts, node.isToken "case" = false ∧ node.isToken "," = false :=
    fun node member => ⟨holds.plain node member, (holds.parts node member).2⟩
  rw [Segment.nodes, List.append_assoc,
    positionalElements_go_comments parent fun node member => (holds.comments node member).1,
    List.cons_append, positionalElements_go_identifier parent holds.identifier,
    positionalElements_go_plain parent plain]

/-- The elements of a list at the right positions are those under the field `name`. -/
theorem Segment.Listed.positionalElements_go {segments : List Segment} {nodes : List Node}
    (listed : Segment.Listed segments nodes) (parent : Node)
    (hold : ∀ segment ∈ segments, segment.HoldsIdentifier) :
    positionalElements true (Node.childPlaces.go parent nodes) =
      (Node.childPlaces.go parent nodes).filter (·.node.isElement) := by
  -- Both searches pass one segment at a time; only after a comma does the one by position expect
  -- the next element.
  induction listed with
  | last segment =>
      have holds := hold segment List.mem_cons_self
      have positional := holds.positionalElements_go parent []
      have fielded := holds.toFramed.filter_isElement_go parent []
      rw [List.append_nil] at positional fielded
      rw [positional, fielded]
      rfl
  | @more segment comma segments nodes isComma unfielded _ inductionHypothesis =>
      rw [List.forall_mem_cons] at hold
      rw [hold.1.positionalElements_go, hold.1.toFramed.filter_isElement_go,
        positionalElements_go_opener parent (.inr isComma), inductionHypothesis hold.2,
        Node.childPlaces.go, List.filter_cons_of_neg (by simp [unfielded])]

/-- A case declaration laid out as the grammar does it: a head, the keyword `case`, and the segments
of the identifiers with commas between them.  Only the identifiers stand under the field `name`. -/
structure IdentifierLayout (entry : Node) (head : List Node) (keyword : Node)
    (segments : List Segment) : Prop where
  headOnly : ∀ node ∈ head, node.isElement = false ∧ node.isToken "case" = false ∧
    node.isToken "," = false
  isCase : keyword.isToken "case" = true
  unfielded : keyword.isElement = false
  holdIdentifiers : ∀ segment ∈ segments, segment.HoldsIdentifier
  children : ∃ nodes, entry.children = head ++ keyword :: nodes ∧ Segment.Listed segments nodes

theorem IdentifierLayout.positionalElements_eq {entry keyword : Node} {head : List Node}
    {segments : List Segment} (layout : IdentifierLayout entry head keyword segments) :
    positionalElements false entry.childPlaces = caseElements entry := by
  obtain ⟨nodes, childrenEq, listed⟩ := layout.children
  have fielded : entry.childPlaces.filter (·.node.isElement) =
      positionalElements false entry.childPlaces := by
    rw [Node.childPlaces, childrenEq,
      filter_isElement_go_append entry fun node member => (layout.headOnly node member).1,
      positionalElements_go_plain entry fun node member => (layout.headOnly node member).2,
      positionalElements_go_opener entry (.inl layout.isCase),
      listed.positionalElements_go entry layout.holdIdentifiers, Node.childPlaces.go,
      List.filter_cons_of_neg (by simp [layout.unfielded])]
  -- Whether the fields are used or not, the elements are the same places.
  have choice : caseElements entry =
      if (entry.childPlaces.filter (·.node.isElement)).isEmpty
      then positionalElements false entry.childPlaces
      else entry.childPlaces.filter (·.node.isElement) := rfl
  rw [choice, fielded, ite_self]

/-- In a case declaration laid out as the grammar does it, the search by position finds the elements
that the fields name: with the fields taken away from its children the declaration has the same
records, or the same fault. -/
theorem ofEntry_agrees_without_fields (source : String) {entry keyword : Node} {head : List Node}
    {segments : List Segment} (layout : IdentifierLayout entry head keyword segments) :
    EnumCase.ofEntry source entry.withoutFields = EnumCase.ofEntry source entry := by
  rw [ofEntry_withoutFields, layout.positionalElements_eq, EnumCase.ofEntry]

/-- The text of `identifierAsRawValue`. -/
def identifierAsRawValueText : String :=
  "indirect case a, /**/ b = c"

/-- The segment of a case without parts. -/
def partlessSegment : Segment :=
  { comments := [], element := fieldedIdentifier 14 15 ["name"], parts := [] }

/-- The segment of a case with an identifier as its raw value. -/
def identifierSegment : Segment :=
  { comments := [.rule "multiline_comment" 17 21 [] []],
    element := fieldedIdentifier 22 23 [],
    parts := [.token "=" 24 25 [], .rule "simple_identifier" 26 27 [] []] }

/-- The tree of two cases, of which the second has an identifier as its raw value. -/
def identifierAsRawValue : Node :=
  .rule "enum_entry" 0 27 []
    (.token "indirect" 0 8 [] :: .token "case" 9 13 [] ::
      (partlessSegment.nodes ++ .token "," 15 16 [] :: identifierSegment.nodes))

/-- The identifier after `=` is no element, with fields or without them. -/
theorem cases_of_fieldless_identifierAsRawValue :
    IdentifierLayout identifierAsRawValue [.token "indirect" 0 8 []] (.token "case" 9 13 [])
      [partlessSegment, identifierSegment] ∧
    (EnumCase.ofEntry identifierAsRawValueText identifierAsRawValue.withoutFields).map
      (List.map (·.render)) = .ok ["indirect case a", "indirect case b = c"] := by
  have partless : partlessSegment.HoldsIdentifier :=
    ⟨⟨by decide, rfl, by decide⟩, rfl, by decide⟩
  have identifier : identifierSegment.HoldsIdentifier :=
    ⟨⟨by decide, rfl, by decide⟩, rfl, by decide⟩
  have layout : IdentifierLayout identifierAsRawValue [.token "indirect" 0 8 []]
      (.token "case" 9 13 []) [partlessSegment, identifierSegment] :=
    ⟨by decide, rfl, rfl, by simp [partless, identifier], _, rfl,
      .more partlessSegment rfl rfl (.last identifierSegment)⟩
  refine ⟨layout, ?_⟩
  rw [ofEntry_agrees_without_fields identifierAsRawValueText layout]
  decide +kernel

/-- The tree of two cases with the keyword, the comma or the comment under the field `name`. -/
def markedLetters : List Node :=
  [listedLetters (.token "case" 0 4 ["name"]) (fieldedIdentifier 5 6 []) lettersComma
    lettersComment,
   listedLetters lettersKeyword lettersFirst lettersComma.asElement lettersComment,
   listedLetters lettersKeyword lettersFirst lettersComma lettersComment.asElement]

/-- A keyword, a comma or a comment under the field `name` is an element as long as there are
fields, but not without them. -/
theorem elements_lost_without_fields :
    markedLetters.map (fun entry =>
      (EnumCase.ofEntry listedLettersText entry).map (List.map (·.name))) =
      [.ok ["case", "a", "b"], .ok ["a", ",", "b"], .ok ["a", "/**/", "b"]] ∧
    ∀ entry ∈ markedLetters,
      (EnumCase.ofEntry listedLettersText entry.withoutFields).map (List.map (·.name)) =
        .ok ["a", "b"] := by
  decide +kernel

end Synopsis
