/-
Module: Synopsis.Proofs.Keywords
Purpose: The keyword of a declaration names its kind.  Most keywords are fixed or decide the kind of
  the node themselves; three are copied from a field of the grammar, and name the kind as long as
  the field holds what the grammar puts there.
Main exports:
  KeywordField, KeywordField.all, KeywordsSpelled, parse_of_mem_keywordTexts,
  collect_keywords_name_kinds
-/
import Synopsis.Proofs.Naming

namespace Synopsis

/-! ### Keywords that stand in fields -/

/-- A field under which nodes of one kind hold a keyword, and the keywords it can be. -/
structure KeywordField where
  owner : String
  field : String
  keywords : List String

namespace KeywordField

/-- The keyword of a protocol. -/
def ofProtocol : KeywordField :=
  { owner := "protocol_declaration", field := "declaration_kind", keywords := ["protocol"] }

/-- The keyword of an initializer, which stands in place of a name. -/
def ofInitializer : KeywordField :=
  { owner := "init_declaration", field := "name", keywords := ["init"] }

/-- The keyword of a variable binding. -/
def ofBinding : KeywordField :=
  { owner := "value_binding_pattern", field := "mutability", keywords := ["let", "var"] }

/-- The fields whose text becomes the keyword of a record as it stands. -/
def all : List KeywordField :=
  [ofProtocol, ofInitializer, ofBinding]

end KeywordField

/-- Every text that the tree has in such a field is one of the keywords the field is for. -/
def KeywordsSpelled (source : String) (root : Node) : Prop :=
  ∀ node ∈ root.preorder, ∀ entry ∈ KeywordField.all, node.kind = entry.owner →
    ∀ text, node.lookupText? source entry.field = some text → text ∈ entry.keywords

instance (source : String) (root : Node) : Decidable (KeywordsSpelled source root) :=
  decidable_of_iff
    (∀ node ∈ root.preorder, ∀ entry ∈ KeywordField.all, node.kind = entry.owner →
      (node.lookupText? source entry.field).all entry.keywords.contains = true)
    (by simp only [KeywordsSpelled, Option.all_eq_true, List.contains_iff_mem])

/-! ### Keywords and the kinds they name -/

theorem parse_keyword (kind : Kind) : Kind.parse kind.keyword = .ok kind := by
  cases kind <;> decide +kernel

/-- A keyword that decides the kind of a class declaration node names that kind. -/
theorem parse_of_ofTypeKeyword? {word : String} {kind : Kind}
    (introduced : Kind.ofTypeKeyword? word = some kind) : Kind.parse word = .ok kind := by
  unfold Kind.ofTypeKeyword? at introduced
  split at introduced
  all_goals cases introduced
  all_goals decide +kernel

theorem parse_of_mem_bindingWords {word : String} (member : word ∈ ["let", "var"]) :
    Kind.parse word = .ok .variableBinding := by
  have every : ∀ word ∈ ["let", "var"], Kind.parse word = .ok .variableBinding := by
    decide +kernel
  exact every word member

section

variable {source : String} {root node : Node} {kind : Kind}

/-- The kinds that share the grammar's class declaration node are told apart by its keyword. -/
theorem ofTypeKeyword?_of_typeKeyword? {word : String}
    (classified : Kind.ofNode? source node = some kind)
    (shared : kind ∈ [Kind.classType, .structType, .extension, .enumeration])
    (found : typeKeyword? source node = some word) : Kind.ofTypeKeyword? word = some kind := by
  unfold Kind.ofNode? at classified
  split at classified
  · rw [found] at classified
    exact classified
  all_goals
    cases classified <;> contradiction

/-- Protocols and initializers each have one node of their own. -/
theorem kind_eq_of_ofNode? (classified : Kind.ofNode? source node = some kind) :
    (kind = .protocol → node.kind = "protocol_declaration") ∧
      (kind = .initializer → node.kind = "init_declaration") := by
  unfold Kind.ofNode? at classified
  split at classified
  · have shared := kind_of_typeKeyword classified
    constructor
    · rintro rfl
      contradiction
    · rintro rfl
      contradiction
  all_goals
    cases classified <;> simp_all

variable (spelled : KeywordsSpelled source root)

include spelled

/-- The keyword of a binding is `let` or `var`, wherever it is found. -/
theorem mem_of_bindingKeywordIn? {owner : Node} {word : String} (inside : owner ∈ root.preorder)
    (found : bindingKeywordIn? source owner = some word) : word ∈ ["let", "var"] := by
  rcases Option.or_eq_some_iff.mp found with within | ⟨-, beside⟩
  · obtain ⟨pattern, patternEq, wordEq⟩ := Option.bind_eq_some_iff.mp within
    rcases Option.or_eq_some_iff.mp wordEq with stated | ⟨-, token⟩
    · have isPattern : pattern.kind = "value_binding_pattern" := by
        simpa using List.find?_some patternEq
      have belowOwner := Node.mem_preorder_of_mem_children (List.mem_of_find?_eq_some patternEq)
      have belowRoot := (Node.preorder_sublist_of_mem inside).subset belowOwner
      exact spelled pattern belowRoot .ofBinding (by simp [KeywordField.all]) isPattern word stated
    · exact mem_of_firstToken? token
  · exact mem_of_firstToken? beside

/-- Every text that can be the keyword of a declaration names the kind of its node. -/
theorem parse_of_mem_keywordTexts {word : String} (inside : node ∈ root.preorder)
    (classified : Kind.ofNode? source node = some kind)
    (member : word ∈ kind.keyword :: kind.keywordTexts source node) :
    Kind.parse word = .ok kind := by
  rcases List.mem_cons.mp member with rfl | stated
  · exact parse_keyword kind
  · cases kind with
    | classType | structType | extension | enumeration =>
        apply parse_of_ofTypeKeyword?
        exact ofTypeKeyword?_of_typeKeyword? classified (by decide) (Option.mem_toList.mp stated)
    | protocol =>
        have isProtocol := (kind_eq_of_ofNode? classified).1 rfl
        have only := spelled node inside .ofProtocol (by simp [KeywordField.all]) isProtocol word
          (Option.mem_toList.mp stated)
        rw [List.mem_singleton.mp only]
        exact parse_keyword .protocol
    | initializer =>
        have isInitializer := (kind_eq_of_ofNode? classified).2 rfl
        have only := spelled node inside .ofInitializer (by simp [KeywordField.all]) isInitializer
          word (Option.mem_toList.mp stated)
        rw [List.mem_singleton.mp only]
        exact parse_keyword .initializer
    | variableBinding =>
        obtain ⟨owner, ownerMember, ownerEq⟩ := List.mem_filterMap.mp stated
        have ownerInside : owner ∈ root.preorder := by
          rcases List.mem_cons.mp ownerMember with rfl | child
          · exact inside
          · exact (Node.preorder_sublist_of_mem inside).subset
              (Node.mem_preorder_of_mem_children child)
        exact parse_of_mem_bindingWords (mem_of_bindingKeywordIn? spelled ownerInside ownerEq)
    | _ => simp [Kind.keywordTexts] at stated

end

/-! ### Collections -/

/-- The keyword of every collected declaration, and of every case inside a collected enumeration,
names the kind of that declaration. -/
theorem collect_keywords_name_kinds {source : String} {selector : Selector} {root : Node}
    {declarations : List Declaration} (spelled : KeywordsSpelled source root)
    (succeeded : collect source selector root = .ok declarations) :
    ∀ declaration ∈ declarations, ∀ item ∈ declaration.withCases,
      Kind.parse item.heading.keyword = .ok item.kind := by
  intro declaration member item inside
  obtain ⟨node, nodeInside, kind, block, kept, blockEq, inBlock⟩ :=
    exists_read_of_mem_collect succeeded member
  have sameKind := kind_of_mem_read blockEq declaration inBlock
  rcases Declaration.mem_withCases inside with rfl | ⟨record, element, rfl, inCases, rfl⟩
  · have classified := (Option.filter_eq_some_iff.mp kept).1
    rw [sameKind]
    exact parse_of_mem_keywordTexts spelled nodeInside classified
      (heads_of_mem_read blockEq item inBlock).keyword
  · obtain rfl : Kind.enumeration = kind := sameKind
    obtain ⟨entry, -, heads⟩ := heads_of_mem_cases blockEq inBlock inCases
    have usual : element.keyword = Kind.enumCase.keyword := List.mem_singleton.mp heads.keyword
    exact usual ▸ parse_keyword .enumCase

/-- The text of `mixedDeclarations`. -/
def mixedDeclarationsText : String :=
  "protocol P { init() } let a = 1 enum E { case x }"

/-- A protocol with an initializer, a constant and an enumeration with a case. -/
def mixedDeclarations : Node :=
  .rule "source_file" 0 49 []
    [.rule "protocol_declaration" 0 21 []
      [.token "protocol" 0 8 ["declaration_kind"],
       .rule "type_identifier" 9 10 ["name"] [],
       .rule "protocol_body" 11 21 ["body"]
        [.rule "init_declaration" 13 19 [] [.token "init" 13 17 ["name"]]]],
     .rule "property_declaration" 22 31 []
      [.rule "value_binding_pattern" 22 25 [] [.token "let" 22 25 ["mutability"]],
       .rule "pattern" 26 27 [] [.rule "simple_identifier" 26 27 ["bound_identifier"] []],
       .token "=" 28 29 [],
       .rule "integer_literal" 30 31 ["value"] []],
     .rule "class_declaration" 32 49 []
      [.token "enum" 32 36 ["declaration_kind"],
       .rule "type_identifier" 37 38 ["name"] [],
       .rule "enum_class_body" 39 49 ["body"] [caseOfLetter 41]]]

/-- Five declarations are collected from `mixedDeclarations`, three of them with a keyword from a
field, and each keyword names the kind. -/
theorem keywords_of_mixedDeclarations :
    KeywordsSpelled mixedDeclarationsText mixedDeclarations ∧
    ∃ declarations, collect mixedDeclarationsText .any mixedDeclarations = .ok declarations ∧
      declarations.map (·.heading.keyword) = ["protocol", "init", "let", "enum", "case"] ∧
      ∀ declaration ∈ declarations, ∀ item ∈ declaration.withCases,
        Kind.parse item.heading.keyword = .ok item.kind := by
  have spelled : KeywordsSpelled mixedDeclarationsText mixedDeclarations := by decide +kernel
  have keywords : (collect mixedDeclarationsText .any mixedDeclarations).map
      (List.map (·.heading.keyword)) = .ok ["protocol", "init", "let", "enum", "case"] := by
    decide +kernel
  obtain ⟨declarations, succeeded, listed⟩ := map_eq_ok_iff.mp keywords
  exact ⟨spelled, declarations, succeeded, listed, collect_keywords_name_kinds spelled succeeded⟩

end Synopsis
