/-
Module: Synopsis.Proofs.MissingParts
Purpose: When a collection fails.  Each kind of declaration has parts it cannot be read without; a
  collection fails exactly when a node that the selector takes lacks such a part, and the fault
  names a node of the tree and what it lacks.
Main exports:
  Foretold, Node.isLegible, Kind.lacks, Fault.Reports, collect_fails_iff_part_missing
-/
import Synopsis.Proofs.EnumerationCases
import Synopsis.Proofs.Trimming

namespace Synopsis

/-! ### Outcomes that can be foretold -/

/-- A step that fails exactly when something is missing, and then with a fault that is known. -/
inductive Foretold {α : Type} (Known : Fault → Prop) : Bool → Except Fault α → Prop where
  | fine (result : α) : Foretold Known false (.ok result)
  | missing {fault : Fault} (known : Known fault) : Foretold Known true (.error fault)

namespace Foretold

variable {α β ι : Type} {Known : Fault → Prop} {lacks : Bool} {outcome : Except Fault α}

theorem fails_iff (foretold : Foretold Known lacks outcome) :
    (∃ fault, outcome = .error fault) ↔ lacks = true := by
  cases foretold with
  | fine result => simp
  | missing known => simp

theorem known (foretold : Foretold Known lacks outcome) {fault : Fault}
    (failed : outcome = .error fault) : Known fault := by
  cases foretold with
  | fine result => cases failed
  | missing known =>
      cases failed
      exact known

theorem imp {Other : Fault → Prop} (weaker : ∀ {fault}, Known fault → Other fault)
    (foretold : Foretold Known lacks outcome) : Foretold Other lacks outcome := by
  cases foretold with
  | fine result => exact .fine result
  | missing known => exact .missing (weaker known)

theorem map (foretold : Foretold Known lacks outcome) (change : α → β) :
    Foretold Known lacks (outcome.map change) := by
  cases foretold with
  | fine result => exact .fine (change result)
  | missing known => exact .missing known

theorem bind {others : Bool} {next : α → Except Fault β} (first : Foretold Known lacks outcome)
    (second : ∀ result, Foretold Known others (next result)) :
    Foretold Known (lacks || others) (outcome >>= next) := by
  cases first with
  | fine result => exact second result
  | missing known => exact .missing known

/-- A last step that cannot fail. -/
theorem bind_ok {finish : α → β} (foretold : Foretold Known lacks outcome) :
    Foretold Known lacks (outcome >>= fun result => .ok (finish result)) :=
  foretold.map finish

/-- A run fails exactly when one of its items does. -/
theorem mapM {read : ι → Except Fault β} {lacksItem : ι → Bool} {items : List ι}
    (every : ∀ item ∈ items, Foretold Known (lacksItem item) (read item)) :
    Foretold Known (items.any lacksItem) (items.mapM read) := by
  induction items with
  | nil => exact .fine []
  | cons item rest inductionHypothesis =>
      rw [List.mapM_cons, List.any_cons]
      have others := inductionHypothesis fun other member =>
        every other (List.mem_cons_of_mem _ member)
      exact (every item List.mem_cons_self).bind fun result => others.bind_ok

end Foretold

/-! ### Legible nodes -/

namespace Node

/-- Whether the bytes of a node are a text. -/
def isDecodable (source : String) (node : Node) : Bool :=
  (decode? source node.row.start node.row.stop).isSome

/-- Whether the bytes of a node are a text with something else than blanks in it. -/
def isLegible (source : String) (node : Node) : Bool :=
  (decode? source node.row.start node.row.stop).any (·.toList.any (!Text.isBlank ·))

end Node

/-- The text of a node is missing or empty exactly when the node is not legible. -/
theorem text?_all_isEmpty (source : String) (node : Node) :
    (node.text? source).all (·.isEmpty) = !node.isLegible source := by
  rw [Node.text?, Node.isLegible]
  cases decode? source node.row.start node.row.stop with
  | none => rfl
  | some text =>
      have empty : (trimmed text).isEmpty = !text.toList.any (!Text.isBlank ·) := by
        rw [Bool.eq_iff_iff, String.isEmpty_iff, trimmed, String.ofList_eq_empty_iff,
          trim_eq_nil_iff]
        simp
      simpa using empty

theorem bind_text?_all_isEmpty (source : String) (child : Option Node) :
    (child.bind (Node.text? source)).all (·.isEmpty) = !child.any (Node.isLegible source) := by
  cases child with
  | none => rfl
  | some node => exact text?_all_isEmpty source node

/-- A first choice that is dropped when empty, with a second one behind it. -/
theorem filter_or_all_isEmpty (first second : Option String) :
    ((first.filter (!·.isEmpty)).or second).all (·.isEmpty) =
      (first.all (·.isEmpty) && second.all (·.isEmpty)) := by
  cases first with
  | none => rfl
  | some text =>
      cases empty : text.isEmpty with
      | true => simp [Option.filter, empty]
      | false => simp [Option.filter, empty]

/-! ### What each kind of declaration needs -/

/-- Whether no child under the field `name` is legible. -/
def lacksName (source : String) (node : Node) : Bool :=
  !(node.lookup? "name").any (Node.isLegible source)

/-- Whether one of the elements of a case declaration is not legible. -/
def lacksCaseName (source : String) (entry : Node) : Bool :=
  (caseElements entry).any (!·.node.isLegible source)

/-- Whether no fixity stands among the modifiers and the tokens of an operator declaration. -/
def lacksFixity (source : String) (node : Node) : Bool :=
  !((Decorators.ofNode source node).modifiers.any (Fixity.allWords.contains ·.name) ||
    node.children.any fun child => !child.named && Fixity.allWords.contains child.kind)

/-- Whether a child of an import is, or holds, a readable component of its path. -/
def holdsComponent (source : String) (child : Node) : Bool :=
  if child.kind == "identifier" then
    (child.childrenOfKind "simple_identifier").any (Node.isDecodable source) ||
      child.isDecodable source
  else child.kind == "simple_identifier" && child.isDecodable source

/-- Whether a node lacks a part that a declaration of the kind cannot be read without. -/
def Kind.lacks (source : String) (node : Node) : Kind → Bool
  | .classType | .structType | .extension | .protocol | .associatedType | .typeAlias =>
      lacksName source node
  | .enumeration =>
      lacksName source node || (enumerationEntries node).any (lacksCaseName source)
  | .enumCase => lacksCaseName source node
  | .function =>
      lacksName source node && !(node.childAfter? "func").any (Node.isLegible source)
  | .operator =>
      lacksFixity source node || !(node.childAfter? "operator").any (Node.isLegible source)
  | .precedenceGroup => !(node.childOfKind? "simple_identifier").any (Node.isLegible source)
  | .variableBinding =>
      (bindingPatterns node).any fun place =>
        (patternName? source place.node).all (·.isEmpty)
  | .moduleImport => !node.children.any (holdsComponent source)
  | .initializer | .deinitializer | .subscript => false

/-- The faults that say what a node lacks. -/
inductive Fault.Reports (node : Node) : Fault → Prop where
  | unnamed (what : String) : Reports node (.unnamed node.kind what)
  | noFixity : Reports node (.noFixity node.kind)
  | noModulePath : Reports node (.noModulePath node.kind)

/-- A reported part is said to be required by the node and not found. -/
theorem Fault.Reports.message {node : Node} {fault : Fault} (reports : fault.Reports node) :
    ∃ expected, fault.message = violation node.kind expected "none" := by
  cases reports with
  | unnamed what => exact ⟨_, rfl⟩
  | noFixity => exact ⟨_, rfl⟩
  | noModulePath => exact ⟨_, rfl⟩

/-! ### Readers -/

theorem foretold_requireName (node : Node) (what : String) (name : Option String) :
    Foretold (Fault.Reports node) (name.all (·.isEmpty)) (requireName node what name) := by
  rw [requireName]
  cases name with
  | none => exact .missing (.unnamed what)
  | some text =>
      cases empty : text.isEmpty with
      | true => simpa [Option.filter, empty] using .missing (.unnamed what)
      | false => simpa [Option.filter, empty] using .fine text

theorem lookupText?_all_isEmpty (source : String) (node : Node) :
    (node.lookupText? source "name").all (·.isEmpty) = lacksName source node := by
  simp [Node.lookupText?, lacksName, bind_text?_all_isEmpty]

theorem foretold_lookupText? (source : String) (node : Node) (what : String) :
    Foretold (Fault.Reports node) (lacksName source node)
      (requireName node what (node.lookupText? source "name")) := by
  rw [← lookupText?_all_isEmpty]
  exact foretold_requireName _ _ _

theorem foretold_typeDeclaration (source keyword what : String) (decorators : Decorators)
    (node : Node) :
    Foretold (Fault.Reports node) (lacksName source node)
      (TypeDeclaration.ofNode source keyword what decorators node) :=
  (foretold_lookupText? source node what).bind_ok

theorem foretold_function (source : String) (node : Node) :
    Foretold (Fault.Reports node) (Kind.lacks source node .function)
      (Function.ofNode source node) := by
  have lacks : (functionName? source node).all (·.isEmpty) = Kind.lacks source node .function := by
    rw [functionName?, Node.lookupText?, filter_or_all_isEmpty, bind_text?_all_isEmpty,
      bind_text?_all_isEmpty]
    rfl
  rw [← lacks]
  exact (foretold_requireName node "function" (functionName? source node)).bind_ok

/-! The elements of a declaration are read from places whose parent is the declaration, so the
faults about stray elements do not arise. -/

theorem parent_of_mem_childPlaces {node : Node} {place : Place}
    (member : place ∈ node.childPlaces) : place.parent = some node := by
  have every : ∀ {children : List Node}, place ∈ Node.childPlaces.go node children →
      place.parent = some node := by
    intro children
    induction children with
    | nil => simp [Node.childPlaces.go]
    | cons child rest inductionHypothesis =>
        rw [Node.childPlaces.go, List.mem_cons]
        rintro (rfl | later)
        · rfl
        · exact inductionHypothesis later
  exact every member

theorem positionalElements_sublist (expecting : Bool) (places : List Place) :
    (positionalElements expecting places).Sublist places := by
  fun_induction positionalElements expecting places with
  | case1 => exact .slnil
  | case2 expecting place rest _ inductionHypothesis => exact inductionHypothesis.cons place
  | case3 expecting place rest _ _ inductionHypothesis => exact inductionHypothesis.cons place
  | case4 expecting place rest _ _ _ inductionHypothesis =>
      exact inductionHypothesis.cons_cons place
  | case5 expecting place rest _ _ _ inductionHypothesis => exact inductionHypothesis.cons place

/-- The elements of a case declaration stand at places of its children. -/
theorem caseElements_sublist (entry : Node) : (caseElements entry).Sublist entry.childPlaces := by
  rw [caseElements]
  split
  · exact positionalElements_sublist false entry.childPlaces
  · exact List.filter_sublist

/-- The patterns of a property declaration stand at places of its children. -/
theorem bindingPatterns_sublist (node : Node) :
    (bindingPatterns node).Sublist node.childPlaces := by
  rw [bindingPatterns]
  split
  · exact List.filter_sublist
  · exact List.filter_sublist

theorem parent_of_mem_caseElements {entry : Node} {place : Place}
    (member : place ∈ caseElements entry) : place.parent = some entry :=
  parent_of_mem_childPlaces ((caseElements_sublist entry).subset member)

theorem parent_of_mem_bindingPatterns {node : Node} {place : Place}
    (member : place ∈ bindingPatterns node) : place.parent = some node :=
  parent_of_mem_childPlaces ((bindingPatterns_sublist node).subset member)

theorem foretold_entry (source : String) {entry : Node} (isEntry : entry.kind = "enum_entry") :
    Foretold (Fault.Reports entry) (lacksCaseName source entry)
      (EnumCase.ofEntry source entry) := by
  apply Foretold.mapM
  intro place member
  rw [EnumCase.ofPlace, parent_of_mem_caseElements member, ← text?_all_isEmpty]
  simp only [isEntry, bne_self_eq_false, Bool.false_eq_true, if_false]
  exact (foretold_requireName entry "case" (place.node.text? source)).bind_ok

theorem foretold_bindings (source : String) {node : Node}
    (binds : bindingParents.contains node.kind = true) :
    Foretold (Fault.Reports node) (Kind.lacks source node .variableBinding)
      (VariableBinding.ofDeclaration source node) := by
  apply Foretold.mapM
  intro place member
  rw [VariableBinding.ofPlace, parent_of_mem_bindingPatterns member]
  simp only [binds, Bool.not_true, Bool.false_eq_true, if_false]
  exact (foretold_requireName node "variable" (patternName? source place.node)).bind_ok

theorem foretold_precedenceGroup (source : String) (node : Node) :
    Foretold (Fault.Reports node) (Kind.lacks source node .precedenceGroup)
      (PrecedenceGroup.ofNode source node) := by
  rw [Kind.lacks, ← bind_text?_all_isEmpty]
  exact (foretold_requireName node "precedence group" _).bind_ok

/-! ### Operators and imports -/

theorem ofWord?_isSome (text : String) :
    (Fixity.ofWord? text).isSome = Fixity.allWords.contains text := by
  rw [Fixity.ofWord?, List.isSome_find?, Fixity.allWords, List.contains_eq_any_beq, List.any_map]
  exact List.any_congr rfl fun fixity => BEq.comm

theorem fixity?_isSome (decorators : Decorators) :
    decorators.fixity?.isSome = decorators.modifiers.any (Fixity.allWords.contains ·.name) := by
  rw [Decorators.fixity?, List.isSome_findSome?]
  simp only [ofWord?_isSome]

/-- A token is added as a modifier, or a modifier of its name is there already. -/
theorem any_modifiers_withToken (test : String → Bool) (token : Option String)
    (decorators : Decorators) :
    (decorators.withToken token).modifiers.any (fun modifier => test modifier.name) =
      (decorators.modifiers.any (fun modifier => test modifier.name) || token.any test) := by
  cases token with
  | none => simp [Decorators.withToken]
  | some name =>
      rw [Decorators.withToken]
      split
      · next present =>
          obtain ⟨modifier, member, nameEq⟩ := List.any_eq_true.mp present
          cases passed : test name with
          | false => simp [passed]
          | true =>
              have found : decorators.modifiers.any (fun modifier => test modifier.name) = true :=
                List.any_eq_true.mpr ⟨modifier, member, by rw [eq_of_beq nameEq, passed]⟩
              rw [found, Bool.true_or]
      · simp

theorem firstToken?_any (spellings : List String) (node : Node) :
    (node.firstToken? spellings).any spellings.contains =
      node.children.any fun child => !child.named && spellings.contains child.kind := by
  rw [Node.firstToken?, ← List.isSome_find?]
  cases found : node.children.find? fun child => !child.named && spellings.contains child.kind with
  | none => rfl
  | some child =>
      have passed := List.find?_some found
      rw [Bool.and_eq_true] at passed
      simpa using passed.2

theorem fixity?_isNone (source : String) (node : Node) :
    (operatorDecorators source node).fixity?.isNone = lacksFixity source node := by
  rw [← Option.not_isSome, fixity?_isSome, operatorDecorators,
    any_modifiers_withToken Fixity.allWords.contains, firstToken?_any, lacksFixity]

theorem foretold_operator (source : String) (node : Node) :
    Foretold (Fault.Reports node) (Kind.lacks source node .operator)
      (OperatorDeclaration.ofNode source node) := by
  rw [OperatorDeclaration.ofNode, Kind.lacks, ← bind_text?_all_isEmpty, ← fixity?_isNone]
  cases (operatorDecorators source node).fixity? with
  | none => exact .missing .noFixity
  | some fixity => exact (foretold_requireName node "operator" _).bind_ok

theorem text?_eq_none_iff {source : String} {node : Node} :
    node.text? source = none ↔ node.isDecodable source = false := by
  rw [Node.text?, Option.map_eq_none_iff, Node.isDecodable, Option.isSome_eq_false_iff,
    Option.isNone_iff_eq_none]

theorem importComponents_eq_nil_iff {source : String} {child : Node} :
    importComponents source child = [] ↔ holdsComponent source child = false := by
  have parts : (child.childrenOfKind "simple_identifier").filterMap (Node.text? source) = [] ↔
      (child.childrenOfKind "simple_identifier").any (Node.isDecodable source) = false := by
    rw [List.filterMap_eq_nil_iff, List.any_eq_false]
    simp only [text?_eq_none_iff, Bool.not_eq_true]
  rw [importComponents, holdsComponent]
  split
  · by_cases noParts : (child.childrenOfKind "simple_identifier").filterMap
        (Node.text? source) = []
    · simp [noParts, parts.mp noParts, text?_eq_none_iff]
    · have decodable := mt parts.mpr noParts
      rw [Bool.not_eq_false] at decodable
      simp [noParts, decodable]
  · split
    · next isSimple => simp [isSimple, text?_eq_none_iff]
    · next other => simp [other]

theorem foretold_import (source : String) (node : Node) :
    Foretold (Fault.Reports node) (Kind.lacks source node .moduleImport)
      (ModuleImport.ofNode source node) := by
  have lacks : (importPath source node).isEmpty = Kind.lacks source node .moduleImport := by
    rw [Bool.eq_iff_iff, List.isEmpty_iff, importPath, List.flatMap_eq_nil_iff, Kind.lacks]
    simp [importComponents_eq_nil_iff]
  rw [ModuleImport.ofNode, ← lacks]
  cases (importPath source node).isEmpty with
  | true => exact .missing .noModulePath
  | false => exact .fine _

/-! ### Whole trees -/

/-- A fault about a node of the tree. -/
def Fault.Within (root : Node) (fault : Fault) : Prop :=
  ∃ node ∈ root.preorder, fault.Reports node

theorem Node.mem_preorder_self (node : Node) : node ∈ node.preorder := by
  rw [node.preorder_eq]
  exact List.mem_cons_self

theorem Node.mem_preorder_of_mem_children {node child : Node} (member : child ∈ node.children) :
    child ∈ node.preorder := by
  rw [node.preorder_eq]
  exact List.mem_cons_of_mem _ ((Node.sublist_preorderAll _).subset member)

theorem Fault.Reports.within {node : Node} {fault : Fault} (reports : fault.Reports node) :
    fault.Within node :=
  ⟨node, node.mem_preorder_self, reports⟩

theorem Fault.Within.trans {root node : Node} {fault : Fault} (within : fault.Within node)
    (member : node ∈ root.preorder) : fault.Within root := by
  obtain ⟨inner, innerMember, reports⟩ := within
  exact ⟨inner, (Node.preorder_sublist_of_mem member).subset innerMember, reports⟩

/-- A case declaration of an enumeration is a case declaration two levels below. -/
theorem mem_enumerationEntries {node entry : Node} (member : entry ∈ enumerationEntries node) :
    entry.kind = "enum_entry" ∧ entry ∈ node.preorder := by
  rw [enumerationEntries] at member
  cases found : enumerationBody? node with
  | none => simp [found] at member
  | some body =>
      simp only [found, Node.childrenOfKind, List.mem_filter, beq_iff_eq] at member
      have bodyMember := Node.mem_preorder_of_mem_children (mem_children_of_enumerationBody? found)
      have entryMember := Node.mem_preorder_of_mem_children member.1
      exact ⟨member.2, (Node.preorder_sublist_of_mem bodyMember).subset entryMember⟩

theorem foretold_enumeration (source : String) (node : Node) :
    Foretold (Fault.Within node) (Kind.lacks source node .enumeration)
      (Enumeration.ofNode source node) := by
  refine Foretold.bind ((foretold_typeDeclaration _ _ _ _ _).imp Fault.Reports.within) ?_
  intro declaration
  refine Foretold.bind_ok (Foretold.mapM ?_)
  intro entry member
  obtain ⟨isEntry, inside⟩ := mem_enumerationEntries member
  exact (foretold_entry source isEntry).imp fun reports => reports.within.trans inside

theorem binds_of_ofNode? {source : String} {node : Node}
    (classified : Kind.ofNode? source node = some .variableBinding) :
    bindingParents.contains node.kind = true := by
  unfold Kind.ofNode? at classified
  split at classified
  · simpa using kind_of_typeKeyword classified
  all_goals simp_all [bindingParents]

/-- A node that was classified as a kind can be read as that kind unless it lacks a part. -/
theorem foretold_read {source : String} {node : Node} {kind : Kind}
    (classified : Kind.ofNode? source node = some kind) :
    Foretold (Fault.Within node) (kind.lacks source node) (kind.read source node) := by
  have named := fun what => foretold_lookupText? source node what
  have types := fun keyword what decorators =>
    foretold_typeDeclaration source keyword what decorators node
  cases kind with
  | associatedType => exact ((named _).bind_ok.map _).imp Fault.Reports.within
  | enumCase =>
      exact (foretold_entry source (ofNode?_eq_enumCase_iff.mp classified)).imp
        Fault.Reports.within
  | classType => exact ((types _ _ _).map _).imp Fault.Reports.within
  | deinitializer => exact .fine _
  | enumeration => exact (foretold_enumeration source node).map _
  | extension => exact ((types _ _ _).bind_ok.map _).imp Fault.Reports.within
  | function => exact ((foretold_function source node).map _).imp Fault.Reports.within
  | moduleImport => exact ((foretold_import source node).map _).imp Fault.Reports.within
  | initializer => exact .fine _
  | operator => exact ((foretold_operator source node).map _).imp Fault.Reports.within
  | precedenceGroup =>
      exact ((foretold_precedenceGroup source node).map _).imp Fault.Reports.within
  | protocol => exact ((types _ _ _).map _).imp Fault.Reports.within
  | structType => exact ((types _ _ _).map _).imp Fault.Reports.within
  | subscript => exact .fine _
  | typeAlias => exact ((named _).bind_ok.map _).imp Fault.Reports.within
  | variableBinding =>
      exact (foretold_bindings source (binds_of_ofNode? classified)).imp Fault.Reports.within

/-- Whether a selector takes a node that lacks a part. -/
def Selector.finds (source : String) (selector : Selector) (node : Node) : Bool :=
  (selector.take? source node).any fun kind => kind.lacks source node

theorem foretold_contribution (source : String) (selector : Selector) (node : Node) :
    Foretold (Fault.Within node) (selector.finds source node)
      (contribution source selector node) := by
  rw [Selector.finds]
  cases kept : selector.take? source node with
  | none =>
      rw [contribution_of_take?_eq_none kept]
      exact .fine []
  | some kind =>
      rw [contribution_of_take? kept, Declaration.read]
      rw [Selector.take?, Option.filter_eq_some_iff] at kept
      exact (foretold_read kept.1).map _

theorem foretold_collect (source : String) (selector : Selector) (root : Node) :
    Foretold (Fault.Within root) (root.preorder.any (selector.finds source))
      (collect source selector root) := by
  rw [collect_eq_yieldAll_contribution]
  refine Foretold.map (Foretold.mapM ?_) _
  intro node member
  exact (foretold_contribution source selector node).imp fun within => within.trans member

/-- A collection fails exactly when a node of a kind that the selector accepts lacks a part that
this kind cannot be read without.  Each fault names a node of the tree and what it lacks; faults
about elements outside their declarations do not arise. -/
theorem collect_fails_iff_part_missing (source : String) (selector : Selector) (root : Node) :
    ((∃ fault, collect source selector root = .error fault) ↔
      ∃ node ∈ root.preorder, ∃ kind, Kind.ofNode? source node = some kind ∧
        selector.accepts kind = true ∧ kind.lacks source node = true) ∧
    (∀ fault, collect source selector root = .error fault →
      ∃ node ∈ root.preorder, fault.Reports node ∧
        ∃ expected, fault.message = Fault.violation node.kind expected "none") := by
  have foretold := foretold_collect source selector root
  constructor
  · rw [foretold.fails_iff, List.any_eq_true]
    refine exists_congr fun node => and_congr_right fun _ => ?_
    rw [Selector.finds, Option.any_eq_true]
    refine exists_congr fun kind => ?_
    rw [Selector.take?, Option.filter_eq_some_iff, and_assoc]
  · intro fault failed
    obtain ⟨node, member, reports⟩ := foretold.known failed
    exact ⟨node, member, reports, reports.message⟩

/-- The tree of `enum E { case   }`, whose case declaration has an element of one blank. -/
def namelessCase : Node :=
  .rule "source_file" 0 17 []
    [.rule "class_declaration" 0 17 []
      [.token "enum" 0 4 ["declaration_kind"],
       .rule "type_identifier" 5 6 ["name"] [],
       .rule "enum_class_body" 7 17 ["body"]
        [.rule "enum_entry" 9 15 []
          [.token "case" 9 13 [], .rule "simple_identifier" 14 15 [] []]]]]

/-- The text of `namelessCase`. -/
def namelessCaseText : String :=
  "enum E { case   }"

/-- The enumeration has a name of its own and fails through its case, which the fault names. -/
theorem collect_of_namelessCase :
    collect namelessCaseText (.only .enumeration) namelessCase =
      .error (.unnamed "enum_entry" "case") ∧
    (∃ node ∈ namelessCase.preorder, ∃ kind, Kind.ofNode? namelessCaseText node = some kind ∧
      (Selector.only .enumeration).accepts kind = true ∧
      kind.lacks namelessCaseText node = true) ∧
    ∃ node ∈ namelessCase.preorder, (Fault.unnamed "enum_entry" "case").Reports node := by
  have failed : collect namelessCaseText (.only .enumeration) namelessCase =
      .error (.unnamed "enum_entry" "case") := by
    decide +kernel
  have condition :=
    collect_fails_iff_part_missing namelessCaseText (.only .enumeration) namelessCase
  obtain ⟨node, member, reports, _⟩ := condition.2 _ failed
  exact ⟨failed, condition.1.mp ⟨_, failed⟩, node, member, reports⟩

end Synopsis
