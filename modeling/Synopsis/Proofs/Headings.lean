/-
Module: Synopsis.Proofs.Headings
Purpose: Where the heading of a record comes from.  For each kind of declaration there are tokens
  that count as modifiers, texts that can be the keyword and texts that can be the name; every
  record that is read from a node has its decorators, keyword and name from there.
Main exports:
  Ensures, Kind.bareModifiers, Kind.decorators, Kind.keywordTexts, Kind.nameTexts, Kind.Heads,
  heads_read, heads_of_mem_read, Ensures.of_mem_read, heads_of_mem_cases
-/
import Synopsis.Proofs.MissingParts

namespace Synopsis

/-! ### What a step establishes -/

/-- Whenever a step succeeds, its result has a property. -/
def Ensures {α : Type} (Post : α → Prop) (outcome : Except Fault α) : Prop :=
  ∀ result, outcome = .ok result → Post result

namespace Ensures

variable {α β ι : Type} {Post : α → Prop} {After : β → Prop}

theorem ok {result : α} (holds : Post result) : Ensures Post (.ok result) := by
  intro other same
  cases same
  exact holds

theorem error (fault : Fault) : Ensures Post (.error fault) := by
  intro other same
  cases same

theorem bind {first : Except Fault α} {next : α → Except Fault β} (before : Ensures Post first)
    (rest : ∀ middle, Post middle → Ensures After (next middle)) :
    Ensures After (first >>= next) := by
  intro result succeeded
  obtain ⟨middle, middleEq, nextEq⟩ := bind_eq_ok_iff.mp succeeded
  exact rest middle (before middle middleEq) result nextEq

/-- A single record is a list of records. -/
theorem singleton {outcome : Except Fault α} (ensured : Ensures Post outcome) :
    Ensures (fun results => ∀ result ∈ results, Post result) (outcome.map ([·])) := by
  intro results succeeded
  obtain ⟨only, onlyEq, rfl⟩ := map_eq_ok_iff.mp succeeded
  intro result member
  rw [List.mem_singleton.mp member]
  exact ensured only onlyEq

/-- What each item of a run establishes holds of all results. -/
theorem mapM {read : ι → Except Fault β} {items : List ι}
    (every : ∀ item ∈ items, Ensures After (read item)) :
    Ensures (fun results => ∀ result ∈ results, After result) (items.mapM read) := by
  intro results succeeded
  have related := mapM_eq_ok_iff.mp succeeded
  clear succeeded
  induction related with
  | nil => simp
  | cons readEq _ inductionHypothesis =>
      rw [List.forall_mem_cons]
      refine ⟨every _ List.mem_cons_self _ readEq, inductionHypothesis ?_⟩
      intro item member
      exact every item (List.mem_cons_of_mem _ member)

end Ensures

/-- A required name is the given text, and it is not empty. -/
theorem ensures_requireName (node : Node) (what : String) (name : Option String) :
    Ensures (fun result => name = some result ∧ result ≠ "") (requireName node what name) := by
  intro result succeeded
  rw [requireName] at succeeded
  split at succeeded
  · next text found =>
      cases succeeded
      rw [Option.filter_eq_some_iff] at found
      exact ⟨found.1, by simpa using found.2⟩
  · cases succeeded

/-! ### The sources of a heading -/

namespace Kind

/-- The tokens outside the modifier list that count as modifiers of a declaration. -/
def bareModifiers : Kind → List String
  | .enumeration | .enumCase => ["indirect"]
  | .function | .initializer => ["class"]
  | .operator => ["prefix", "infix", "postfix"]
  | _ => []

/-- The attributes and modifiers of a declaration node of the kind. -/
def decorators (source : String) (node : Node) (kind : Kind) : Decorators :=
  (Decorators.ofNode source node).withToken (node.firstToken? kind.bareModifiers)

/-- The texts of a node that can be the keyword of a declaration in place of the kind's usual
one. -/
def keywordTexts (source : String) (node : Node) : Kind → List String
  | .classType | .structType | .extension | .enumeration => (typeKeyword? source node).toList
  | .protocol => (node.lookupText? source "declaration_kind").toList
  | .initializer => (node.lookupText? source "name").toList
  | .variableBinding => (node :: node.children).filterMap (bindingKeywordIn? source)
  | _ => []

/-- The texts of a node that can be the name of a declaration.  An import joins several; what has
no name is called by its keyword. -/
def nameTexts (source : String) (node : Node) : Kind → List String
  | .associatedType | .classType | .enumeration | .extension | .protocol | .structType
  | .typeAlias => (node.lookupText? source "name").toList
  | .enumCase => (caseElements node).filterMap (·.node.text? source)
  | .function => (functionName? source node).toList
  | .moduleImport => [String.intercalate "." (importPath source node)]
  | .operator => ((node.childAfter? "operator").bind (Node.text? source)).toList
  | .precedenceGroup => ((node.childOfKind? "simple_identifier").bind (Node.text? source)).toList
  | .variableBinding => (bindingPatterns node).filterMap (patternName? source ·.node)
  | .initializer => Kind.initializer.keyword :: keywordTexts source node .initializer
  | .deinitializer => [Kind.deinitializer.keyword]
  | .subscript => [Kind.subscript.keyword]

end Kind

/-- A heading and a name have their parts from the given node.  Only an import can have an empty
name. -/
structure Kind.Heads (source : String) (node : Node) (kind : Kind) (heading : Heading)
    (name : String) : Prop where
  decorators : heading.toDecorators = kind.decorators source node
  keyword : heading.keyword ∈ kind.keyword :: kind.keywordTexts source node
  nameText : name ∈ kind.nameTexts source node
  named : kind = .moduleImport ∨ name ≠ ""

theorem Node.firstToken?_nil (node : Node) : node.firstToken? [] = none := by
  simp [Node.firstToken?]

/-- A token counts for nothing where none counts as a modifier. -/
theorem Kind.decorators_of_bareModifiers_eq_nil {kind : Kind} (bare : kind.bareModifiers = [])
    (source : String) (node : Node) :
    kind.decorators source node = Decorators.ofNode source node := by
  rw [Kind.decorators, bare, Node.firstToken?_nil, Decorators.withToken]

section

variable {source : String} {node : Node} {kind : Kind} {heading : Heading} {name : String}

/-- The heading of a declaration whose modifiers stand in the modifier list only. -/
theorem Kind.Heads.of_listed (bare : kind.bareModifiers = [])
    (decorators : heading.toDecorators = Decorators.ofNode source node)
    (keyword : heading.keyword ∈ kind.keyword :: kind.keywordTexts source node)
    (named : name ∈ kind.nameTexts source node ∧ name ≠ "") :
    kind.Heads source node heading name where
  decorators := by rw [decorators, Kind.decorators_of_bareModifiers_eq_nil bare]
  keyword := keyword
  nameText := named.1
  named := .inr named.2

theorem getD_mem_cons_toList (found : Option String) (usual : String) :
    found.getD usual ∈ usual :: found.toList := by
  cases found with
  | none => exact List.mem_cons_self
  | some text => simp

theorem ne_empty_of_lookupText? {field text : String}
    (found : node.lookupText? source field = some text) : text ≠ "" := by
  rw [Node.lookupText?, Option.filter_eq_some_iff] at found
  simpa using found.2

/-- A required name comes from the text that was offered for it. -/
theorem ensures_named (what : String) (offered : Option String) :
    Ensures (fun name => name ∈ offered.toList ∧ name ≠ "") (requireName node what offered) := by
  intro name succeeded
  obtain ⟨found, nonempty⟩ := ensures_requireName node what offered name succeeded
  exact ⟨Option.mem_toList.mpr found, nonempty⟩

end

/-! ### Types -/

section

variable (source : String) (node : Node)

theorem ensures_typeDeclaration (keyword what : String) (decorators : Decorators) :
    Ensures (fun record => record.toHeading = { decorators with keyword } ∧
        record.name ∈ (node.lookupText? source "name").toList ∧ record.name ≠ "")
      (TypeDeclaration.ofNode source keyword what decorators node) :=
  (ensures_named what _).bind fun _ named => .ok ⟨rfl, named⟩

/-- The kinds that share the grammar's class declaration node have their headings alike. -/
theorem heads_nominalType (kind : Kind) (bare : kind.bareModifiers = [])
    (keywords : kind.keywordTexts source node = (typeKeyword? source node).toList)
    (names : kind.nameTexts source node = (node.lookupText? source "name").toList) :
    Ensures (fun record => kind.Heads source node record.toHeading record.name)
      (nominalType source kind.keyword node) := by
  intro record succeeded
  obtain ⟨heading, named⟩ := ensures_typeDeclaration source node _ _ _ record succeeded
  rw [heading]
  refine .of_listed bare rfl ?_ (names ▸ named)
  rw [keywords]
  exact getD_mem_cons_toList _ _

theorem heads_extension :
    Ensures (fun record => Kind.extension.Heads source node record.toHeading record.name)
      (Extension.ofNode source node) :=
  (heads_nominalType source node .extension rfl rfl rfl).bind fun _ heads => .ok heads

theorem heads_protocol :
    Ensures (fun record => Kind.protocol.Heads source node record.toHeading record.name)
      (protocolType source node) := by
  intro record succeeded
  obtain ⟨heading, named⟩ := ensures_typeDeclaration source node _ _ _ record succeeded
  rw [heading]
  exact .of_listed rfl rfl (getD_mem_cons_toList _ _) named

theorem heads_associatedType :
    Ensures (fun record => Kind.associatedType.Heads source node record.toHeading record.name)
      (AssociatedType.ofNode source node) :=
  (ensures_named _ _).bind fun _ named => .ok (.of_listed rfl rfl List.mem_cons_self named)

theorem heads_typeAlias :
    Ensures (fun record => Kind.typeAlias.Heads source node record.toHeading record.name)
      (TypeAlias.ofNode source node) :=
  (ensures_named _ _).bind fun _ named => .ok (.of_listed rfl rfl List.mem_cons_self named)

/-! ### Elements -/

theorem heads_enumCase :
    Ensures (fun records => ∀ record ∈ records,
        Kind.enumCase.Heads source node record.toHeading record.name)
      (EnumCase.ofEntry source node) := by
  refine .mapM fun place member => ?_
  rw [EnumCase.ofPlace, parent_of_mem_caseElements member]
  dsimp only
  split
  · exact .error _
  · refine (ensures_requireName node "case" _).bind fun name named => .ok ?_
    refine ⟨rfl, List.mem_cons_self, ?_, .inr named.2⟩
    exact List.mem_filterMap.mpr ⟨place, member, named.1⟩

theorem heads_enumeration :
    Ensures (fun record => Kind.enumeration.Heads source node record.toHeading record.name ∧
        ∀ element ∈ record.cases, ∃ entry ∈ enumerationEntries node,
          Kind.enumCase.Heads source entry element.toHeading element.name)
      (Enumeration.ofNode source node) := by
  refine (ensures_typeDeclaration source node _ _ _).bind fun declaration headed => ?_
  have entries : Ensures (fun blocks => ∀ block ∈ blocks, ∃ entry ∈ enumerationEntries node,
      ∀ element ∈ block, Kind.enumCase.Heads source entry element.toHeading element.name)
      ((enumerationEntries node).mapM (EnumCase.ofEntry source)) := by
    refine .mapM fun entry member block succeeded => ?_
    exact ⟨entry, member, heads_enumCase source entry block succeeded⟩
  refine entries.bind fun blocks every => .ok ⟨?_, ?_⟩
  · obtain ⟨heading, named, nonempty⟩ := headed
    refine ⟨?_, ?_, named, .inr nonempty⟩
    · rw [heading]
      rfl
    · rw [heading]
      exact getD_mem_cons_toList _ _
  · intro element inside
    obtain ⟨block, member, inBlock⟩ := List.mem_flatten.mp inside
    obtain ⟨entry, isEntry, heads⟩ := every block member
    exact ⟨entry, isEntry, heads element inBlock⟩

theorem mem_children_of_mem_childPlaces {node : Node} {place : Place}
    (member : place ∈ node.childPlaces) : place.node ∈ node.children := by
  have every : ∀ {children : List Node}, place ∈ Node.childPlaces.go node children →
      place.node ∈ children := by
    intro children
    induction children with
    | nil => simp [Node.childPlaces.go]
    | cons child rest inductionHypothesis =>
        rw [Node.childPlaces.go, List.mem_cons]
        rintro (rfl | later)
        · exact List.mem_cons_self
        · exact List.mem_cons_of_mem _ (inductionHypothesis later)
  exact every member

theorem mem_children_of_mem_bindingPatterns {node : Node} {place : Place}
    (member : place ∈ bindingPatterns node) : place.node ∈ node.children :=
  mem_children_of_mem_childPlaces ((bindingPatterns_sublist node).subset member)

theorem heads_variableBinding :
    Ensures (fun records => ∀ record ∈ records,
        Kind.variableBinding.Heads source node record.toHeading record.name)
      (VariableBinding.ofDeclaration source node) := by
  refine .mapM fun place member => ?_
  rw [VariableBinding.ofPlace, parent_of_mem_bindingPatterns member]
  dsimp only
  split
  · exact .error _
  · refine (ensures_requireName node "variable" _).bind fun name named => .ok ?_
    refine .of_listed rfl rfl ?_ ⟨List.mem_filterMap.mpr ⟨place, member, named.1⟩, named.2⟩
    -- The keyword stands beside the pattern, else inside it, else it is the usual one.
    cases beside : bindingKeywordIn? source node with
    | some word =>
        refine List.mem_cons_of_mem _ (List.mem_filterMap.mpr ⟨node, List.mem_cons_self, ?_⟩)
        simp [beside]
    | none =>
        cases inside : bindingKeywordIn? source place.node with
        | some word =>
            have child := mem_children_of_mem_bindingPatterns member
            refine List.mem_cons_of_mem _
              (List.mem_filterMap.mpr ⟨place.node, List.mem_cons_of_mem _ child, ?_⟩)
            simp [inside]
        | none => exact List.mem_cons_self

/-! ### Callables, operators and imports -/

theorem heads_function :
    Ensures (fun record => Kind.function.Heads source node record.toHeading record.name)
      (Function.ofNode source node) :=
  (ensures_named _ _).bind fun _ named =>
    .ok ⟨rfl, List.mem_cons_self, named.1, .inr named.2⟩

theorem heads_initializer :
    Kind.initializer.Heads source node (Initializer.ofNode source node).toHeading
      (Initializer.ofNode source node).keyword := by
  have keyword : (Initializer.ofNode source node).keyword ∈
      "init" :: (node.lookupText? source "name").toList := getD_mem_cons_toList _ _
  refine ⟨rfl, keyword, keyword, .inr ?_⟩
  rcases List.mem_cons.mp keyword with usual | stated
  · rw [usual]
    decide
  · exact ne_empty_of_lookupText? (Option.mem_toList.mp stated)

theorem heads_deinitializer :
    Kind.deinitializer.Heads source node (Deinitializer.ofNode source node).toHeading "deinit" :=
  .of_listed rfl rfl List.mem_cons_self ⟨List.mem_cons_self, by decide⟩

theorem heads_subscript :
    Kind.subscript.Heads source node (Subscript.ofNode source node).toHeading "subscript" :=
  .of_listed rfl rfl List.mem_cons_self ⟨List.mem_cons_self, by decide⟩

theorem heads_operator :
    Ensures (fun record => Kind.operator.Heads source node record.toHeading record.name ∧
        record.toDecorators.fixity? = some record.fixity)
      (OperatorDeclaration.ofNode source node) := by
  rw [OperatorDeclaration.ofNode]
  cases stated : (operatorDecorators source node).fixity? with
  | none => exact .error _
  | some fixity =>
      refine (ensures_named _ _).bind fun name named => .ok ⟨?_, stated⟩
      exact ⟨rfl, List.mem_cons_self, named.1, .inr named.2⟩

theorem heads_precedenceGroup :
    Ensures (fun record => Kind.precedenceGroup.Heads source node record.toHeading record.name)
      (PrecedenceGroup.ofNode source node) :=
  (ensures_named _ _).bind fun _ named => .ok (.of_listed rfl rfl List.mem_cons_self named)

/-- The name of an import joins its path, which has at least one component. -/
theorem heads_import :
    Ensures (fun record => Kind.moduleImport.Heads source node record.toHeading record.name ∧
        record.pathComponents = importPath source node ∧ importPath source node ≠ [])
      (ModuleImport.ofNode source node) := by
  rw [ModuleImport.ofNode]
  cases path : importPath source node with
  | nil => exact .error _
  | cons first rest =>
      refine .ok ⟨⟨?_, List.mem_cons_self, ?_, .inl rfl⟩, rfl, List.cons_ne_nil _ _⟩
      · rw [Kind.decorators_of_bareModifiers_eq_nil rfl]
      · rw [Kind.nameTexts, path]
        exact List.mem_cons_self

end

/-! ### All kinds -/

/-- Whatever kind a node is read as, the records have their headings from it. -/
theorem heads_read (source : String) (node : Node) (kind : Kind) :
    Ensures (fun records => ∀ record ∈ records, kind.Heads source node
        (Declaration.of kind record).heading (Declaration.of kind record).name)
      (kind.read source node) := by
  cases kind with
  | associatedType => exact (heads_associatedType source node).singleton
  | enumCase => exact heads_enumCase source node
  | classType => exact (heads_nominalType source node .classType rfl rfl rfl).singleton
  | deinitializer => exact .ok (List.forall_mem_singleton.mpr (heads_deinitializer source node))
  | enumeration =>
      exact Ensures.singleton fun record succeeded =>
        (heads_enumeration source node record succeeded).1
  | extension => exact (heads_extension source node).singleton
  | function => exact (heads_function source node).singleton
  | moduleImport =>
      exact Ensures.singleton fun record succeeded => (heads_import source node record succeeded).1
  | initializer => exact .ok (List.forall_mem_singleton.mpr (heads_initializer source node))
  | operator =>
      exact Ensures.singleton fun record succeeded =>
        (heads_operator source node record succeeded).1
  | precedenceGroup => exact (heads_precedenceGroup source node).singleton
  | protocol => exact (heads_protocol source node).singleton
  | structType => exact (heads_nominalType source node .structType rfl rfl rfl).singleton
  | subscript => exact .ok (List.forall_mem_singleton.mpr (heads_subscript source node))
  | typeAlias => exact (heads_typeAlias source node).singleton
  | variableBinding => exact heads_variableBinding source node

/-- Every declaration that is read from a node has its heading from that node. -/
theorem heads_of_mem_read {source : String} {kind : Kind} {node : Node}
    {declarations : List Declaration}
    (succeeded : Declaration.read source kind node = .ok declarations) :
    ∀ declaration ∈ declarations,
      kind.Heads source node declaration.heading declaration.name := by
  obtain ⟨records, readEq, rfl⟩ := map_eq_ok_iff.mp succeeded
  rw [List.forall_mem_map]
  exact heads_read source node kind records readEq

/-- What the reader of a kind establishes of its records holds of the records that stand wrapped
among the declarations of a node. -/
theorem Ensures.of_mem_read {source : String} {kind : Kind} {node : Node}
    {declarations : List Declaration} {Post : kind.Record → Prop}
    (ensured : Ensures (fun records => ∀ record ∈ records, Post record) (kind.read source node))
    (succeeded : Declaration.read source kind node = .ok declarations) {record : kind.Record}
    (member : Declaration.of kind record ∈ declarations) : Post record := by
  obtain ⟨records, readEq, rfl⟩ := map_eq_ok_iff.mp succeeded
  rw [List.mem_map_of_injective (Declaration.of_injective kind)] at member
  exact ensured records readEq record member

/-- Every case inside an enumeration that is read from a node has its heading from a case
declaration of that node. -/
theorem heads_of_mem_cases {source : String} {node : Node} {declarations : List Declaration}
    {record : Enumeration} {element : EnumCase}
    (succeeded : Declaration.read source .enumeration node = .ok declarations)
    (member : .enumeration record ∈ declarations) (inside : element ∈ record.cases) :
    ∃ entry ∈ enumerationEntries node,
      Kind.enumCase.Heads source entry element.toHeading element.name := by
  have elements : Ensures (fun records => ∀ record ∈ records, ∀ element ∈ record.cases,
      ∃ entry ∈ enumerationEntries node,
        Kind.enumCase.Heads source entry element.toHeading element.name)
      (Kind.enumeration.read source node) :=
    Ensures.singleton fun one oneEq => (heads_enumeration source node one oneEq).2
  exact elements.of_mem_read succeeded member element inside

end Synopsis
