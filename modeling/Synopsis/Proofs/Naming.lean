/-
Module: Synopsis.Proofs.Naming
Purpose: Names and keywords of collected declarations.  A keyword is never empty, and neither a
  keyword nor a name begins or ends with a blank.  A name is empty for one reason only: an import
  whose path is a single blank component.
Main exports:
  Unpadded, IsWord, isWord_of_mem_keywordTexts, unpadded_of_mem_nameTexts, Declaration.withCases,
  collect_names_empty_only_for_blank_imports
-/
import Synopsis.Proofs.Headings

namespace Synopsis

/-! ### Texts without blanks at their ends -/

/-- A text that neither begins nor ends with a blank. -/
def Unpadded (text : String) : Prop :=
  text.toList.head?.any Text.isBlank = false ∧ text.toList.getLast?.any Text.isBlank = false

instance (text : String) : Decidable (Unpadded text) :=
  inferInstanceAs (Decidable (_ ∧ _))

/-- A text with something in it that neither begins nor ends with a blank. -/
def IsWord (text : String) : Prop :=
  text ≠ "" ∧ Unpadded text

instance (text : String) : Decidable (IsWord text) :=
  inferInstanceAs (Decidable (_ ∧ _))

/-- Trimming leaves no blank at either end. -/
theorem unpadded_trimmed (text : String) : Unpadded (trimmed text) := by
  rw [Unpadded, trimmed, String.toList_ofList, Option.any_eq_false, Option.any_eq_false]
  constructor
  · intro c first
    exact isBlank_of_head?_trim first
  · intro c last
    rw [Text.trim, Text.trimEnd, List.getLast?_reverse] at last
    exact isBlank_of_head?_dropWhile last

/-- Texts without blanks at their ends have none when they are joined around a dot. -/
theorem Unpadded.join {left right : String} (front : Unpadded left) (back : Unpadded right) :
    Unpadded (left ++ "." ++ right) := by
  have dot : Text.isBlank '.' = false := by decide
  rw [Unpadded, String.toList_append, String.toList_append]
  constructor
  · cases chars : left.toList with
    | nil => simpa using dot
    | cons head rest =>
        have first := front.1
        rw [chars] at first
        simpa using first
  · cases chars : right.toList.getLast? with
    | none => simpa [List.getLast?_cons, chars] using dot
    | some last =>
        have final := back.2
        rw [chars] at final
        simpa [List.getLast?_cons, chars] using final

theorem unpadded_intercalate {parts : List String} (every : ∀ part ∈ parts, Unpadded part) :
    Unpadded (String.intercalate "." parts) := by
  induction parts with
  | nil => decide
  | cons part rest inductionHypothesis =>
      rw [List.forall_mem_cons] at every
      cases rest with
      | nil =>
          rw [String.intercalate_singleton]
          exact every.1
      | cons next others =>
          rw [String.intercalate_cons_cons]
          exact every.1.join (inductionHypothesis every.2)

/-- Joined parts are empty when there is nothing to join, or one empty part. -/
theorem intercalate_eq_empty_iff {parts : List String} :
    String.intercalate "." parts = "" ↔ parts = [] ∨ parts = [""] := by
  cases parts with
  | nil => simp
  | cons part rest =>
      cases rest with
      | nil => simp
      | cons next others => simp [String.intercalate_cons_cons]

/-! ### Texts of nodes -/

section

variable {source : String} {node : Node} {text : String}

theorem unpadded_of_text? (found : node.text? source = some text) : Unpadded text := by
  obtain ⟨whole, -, rfl⟩ := Option.map_eq_some_iff.mp found
  exact unpadded_trimmed whole

theorem unpadded_of_bind_text? {child : Option Node}
    (found : child.bind (Node.text? source) = some text) : Unpadded text := by
  obtain ⟨inner, -, innerEq⟩ := Option.bind_eq_some_iff.mp found
  exact unpadded_of_text? innerEq

theorem isWord_of_lookupText? {field : String}
    (found : node.lookupText? source field = some text) : IsWord text := by
  refine ⟨ne_empty_of_lookupText? found, ?_⟩
  rw [Node.lookupText?, Option.filter_eq_some_iff] at found
  exact unpadded_of_bind_text? found.1

theorem mem_of_firstToken? {spellings : List String}
    (found : node.firstToken? spellings = some text) : text ∈ spellings := by
  obtain ⟨child, childEq, rfl⟩ := Option.map_eq_some_iff.mp found
  have passed := List.find?_some childEq
  rw [Bool.and_eq_true, List.contains_iff_mem] at passed
  exact passed.2

/-! ### Keywords -/

theorem isWord_of_typeKeyword? (found : typeKeyword? source node = some text) : IsWord text := by
  rcases Option.or_eq_some_iff.mp found with stated | ⟨-, spelled⟩
  · exact isWord_of_lookupText? stated
  · have listed : text ∈ typeKeywords := by simpa using List.find?_some spelled
    have every : ∀ word ∈ typeKeywords, IsWord word := by decide
    exact every text listed

theorem isWord_of_bindingKeywordIn? (found : bindingKeywordIn? source node = some text) :
    IsWord text := by
  have tokens : ∀ word ∈ ["let", "var"], IsWord word := by decide
  rcases Option.or_eq_some_iff.mp found with inside | ⟨-, beside⟩
  · obtain ⟨pattern, -, patternEq⟩ := Option.bind_eq_some_iff.mp inside
    rcases Option.or_eq_some_iff.mp patternEq with stated | ⟨-, spelled⟩
    · exact isWord_of_lookupText? stated
    · exact tokens text (mem_of_firstToken? spelled)
  · exact tokens text (mem_of_firstToken? beside)

/-- Every text that can be the keyword of a declaration is a word. -/
theorem isWord_of_mem_keywordTexts {kind : Kind}
    (member : text ∈ kind.keyword :: kind.keywordTexts source node) : IsWord text := by
  rcases List.mem_cons.mp member with rfl | stated
  · cases kind <;> decide
  · cases kind with
    | classType | structType | extension | enumeration =>
        exact isWord_of_typeKeyword? (Option.mem_toList.mp stated)
    | protocol | initializer => exact isWord_of_lookupText? (Option.mem_toList.mp stated)
    | variableBinding =>
        obtain ⟨owner, -, ownerEq⟩ := List.mem_filterMap.mp stated
        exact isWord_of_bindingKeywordIn? ownerEq
    | _ => simp [Kind.keywordTexts] at stated

/-! ### Names -/

theorem unpadded_of_functionName? (found : functionName? source node = some text) :
    Unpadded text := by
  rcases Option.or_eq_some_iff.mp found with stated | ⟨-, beside⟩
  · exact (isWord_of_lookupText? stated).2
  · exact unpadded_of_bind_text? beside

theorem unpadded_of_patternName? (found : patternName? source node = some text) :
    Unpadded text := by
  rw [patternName?] at found
  split at found
  · exact unpadded_of_text? found
  · rcases Option.or_eq_some_iff.mp found with bound | ⟨-, whole⟩
    · rcases Option.or_eq_some_iff.mp bound with stated | ⟨-, identifier⟩
      · exact (isWord_of_lookupText? stated).2
      · exact unpadded_of_bind_text? identifier
    · exact unpadded_of_text? whole

theorem unpadded_of_mem_importPath (member : text ∈ importPath source node) : Unpadded text := by
  obtain ⟨child, -, inChild⟩ := List.mem_flatMap.mp member
  rw [importComponents] at inChild
  split at inChild
  · dsimp only at inChild
    split at inChild
    · exact unpadded_of_text? (Option.mem_toList.mp inChild)
    · obtain ⟨part, -, partEq⟩ := List.mem_filterMap.mp inChild
      exact unpadded_of_text? partEq
  · split at inChild
    · exact unpadded_of_text? (Option.mem_toList.mp inChild)
    · cases inChild

/-- No text that can be the name of a declaration begins or ends with a blank. -/
theorem unpadded_of_mem_nameTexts {kind : Kind} (member : text ∈ kind.nameTexts source node) :
    Unpadded text := by
  cases kind with
  | associatedType | classType | enumeration | extension | protocol | structType | typeAlias =>
      exact (isWord_of_lookupText? (Option.mem_toList.mp member)).2
  | enumCase =>
      obtain ⟨place, -, placeEq⟩ := List.mem_filterMap.mp member
      exact unpadded_of_text? placeEq
  | function => exact unpadded_of_functionName? (Option.mem_toList.mp member)
  | moduleImport =>
      rw [List.mem_singleton.mp member]
      exact unpadded_intercalate fun part inPath => unpadded_of_mem_importPath inPath
  | operator | precedenceGroup => exact unpadded_of_bind_text? (Option.mem_toList.mp member)
  | variableBinding =>
      obtain ⟨place, -, placeEq⟩ := List.mem_filterMap.mp member
      exact unpadded_of_patternName? placeEq
  | initializer => exact (isWord_of_mem_keywordTexts member).2
  | deinitializer | subscript =>
      rw [List.mem_singleton.mp member]
      decide

end

/-! ### Records and the cases inside them -/

namespace Declaration

/-- A declaration, and after an enumeration its cases. -/
def withCases : Declaration → List Declaration
  | .enumeration record => .enumeration record :: record.cases.map .enumCase
  | declaration => [declaration]

/-- The only cause of an empty name: an import whose path is one blank component. -/
def IsBlankImport (declaration : Declaration) : Prop :=
  ∃ record : ModuleImport, declaration = .moduleImport record ∧ record.pathComponents = [""]

theorem mem_withCases {declaration item : Declaration} (member : item ∈ declaration.withCases) :
    item = declaration ∨
      ∃ record element, declaration = .enumeration record ∧ element ∈ record.cases ∧
        item = .enumCase element := by
  unfold withCases at member
  split at member
  · next record =>
      rcases List.mem_cons.mp member with same | inside
      · exact Or.inl same
      · obtain ⟨element, elementMember, rfl⟩ := List.mem_map.mp inside
        exact Or.inr ⟨record, element, rfl, elementMember, rfl⟩
  · exact Or.inl (List.mem_singleton.mp member)

theorem mem_withCases_self (declaration : Declaration) : declaration ∈ declaration.withCases := by
  unfold withCases
  split <;> exact List.mem_cons_self

end Declaration

/-- A heading gives its declaration a keyword that is a word and a name without blanks at its
ends. -/
theorem Kind.Heads.words {source : String} {node : Node} {kind : Kind} {heading : Heading}
    {name : String} (heads : kind.Heads source node heading name) :
    IsWord heading.keyword ∧ Unpadded name :=
  ⟨isWord_of_mem_keywordTexts heads.keyword, unpadded_of_mem_nameTexts heads.nameText⟩

/-- The name of an import is empty exactly when its path is one empty component. -/
theorem import_name_eq_empty_iff (source : String) (node : Node) :
    Ensures (fun records => ∀ record ∈ records, record.name = "" ↔ record.pathComponents = [""])
      (Kind.moduleImport.read source node) := by
  apply Ensures.singleton
  intro record succeeded
  obtain ⟨heads, path, nonempty⟩ := heads_import source node record succeeded
  rw [List.mem_singleton.mp heads.nameText, path, intercalate_eq_empty_iff]
  exact or_iff_right nonempty

/-- The name of a declaration is empty exactly when it is an import of one blank component. -/
theorem name_eq_empty_iff_of_read {source : String} {kind : Kind} {node : Node}
    {declarations : List Declaration} {declaration : Declaration}
    (succeeded : Declaration.read source kind node = .ok declarations)
    (member : declaration ∈ declarations) :
    declaration.name = "" ↔ declaration.IsBlankImport := by
  have sameKind := kind_of_mem_read succeeded declaration member
  have imports : ∀ record, declaration = .moduleImport record →
      (record.name = "" ↔ record.pathComponents = [""]) := by
    rintro record rfl
    obtain rfl : Kind.moduleImport = kind := sameKind
    exact (import_name_eq_empty_iff source node).of_mem_read succeeded member
  constructor
  · intro empty
    rcases (heads_of_mem_read succeeded declaration member).named with isImport | named
    · rw [isImport] at sameKind
      cases declaration with
      | moduleImport record => exact ⟨record, rfl, (imports record rfl).mp empty⟩
      | _ => cases sameKind
    · exact absurd empty named
  · rintro ⟨record, rfl, path⟩
    exact (imports record rfl).mpr path

/-- What is read from a node, cases inside an enumeration included, has a word as its keyword and a
name without blanks at its ends, which is empty only for an import of one blank component. -/
theorem words_of_mem_withCases {source : String} {kind : Kind} {node : Node}
    {declarations : List Declaration} {declaration item : Declaration}
    (succeeded : Declaration.read source kind node = .ok declarations)
    (member : declaration ∈ declarations) (inside : item ∈ declaration.withCases) :
    IsWord item.heading.keyword ∧ Unpadded item.name ∧
      (item.name = "" ↔ item.IsBlankImport) := by
  rcases Declaration.mem_withCases inside with rfl | ⟨record, element, rfl, inCases, rfl⟩
  · obtain ⟨keyword, name⟩ := (heads_of_mem_read succeeded item member).words
    exact ⟨keyword, name, name_eq_empty_iff_of_read succeeded member⟩
  · obtain rfl : Kind.enumeration = kind := kind_of_mem_read succeeded _ member
    obtain ⟨entry, -, heads⟩ := heads_of_mem_cases succeeded member inCases
    refine ⟨heads.words.1, heads.words.2, iff_of_false ?_ ?_⟩
    · exact heads.named.resolve_left (by decide)
    · rintro ⟨other, same, -⟩
      cases same

/-- An import has the path of its node. -/
theorem pathComponents_of_read (source : String) (node : Node) :
    Ensures (fun records => ∀ record ∈ records, record.pathComponents = importPath source node)
      (Kind.moduleImport.read source node) :=
  Ensures.singleton fun record succeeded => (heads_import source node record succeeded).2.1

/-! ### Collections -/

section

variable {source : String} {selector : Selector} {root : Node} {declarations : List Declaration}

/-- An import of one blank component is collected exactly when the selector takes a node with such
a path. -/
theorem blankImport_mem_collect_iff (succeeded : collect source selector root = .ok declarations) :
    (∃ declaration ∈ declarations, declaration.IsBlankImport) ↔
      ∃ node ∈ root.preorder, selector.take? source node = some .moduleImport ∧
        importPath source node = [""] := by
  constructor
  · rintro ⟨_, member, record, rfl, path⟩
    obtain ⟨node, inside, kind, block, kept, blockEq, inBlock⟩ :=
      exists_read_of_mem_collect succeeded member
    obtain rfl : Kind.moduleImport = kind := kind_of_mem_read blockEq _ inBlock
    refine ⟨node, inside, kept, ?_⟩
    rw [← (pathComponents_of_read source node).of_mem_read blockEq inBlock]
    exact path
  · rintro ⟨node, inside, kept, path⟩
    obtain ⟨block, blockEq, collected⟩ := read_of_take?_of_collect succeeded inside kept
    obtain ⟨records, readEq, rfl⟩ := map_eq_ok_iff.mp blockEq
    obtain ⟨record, recordEq, rfl⟩ := map_eq_ok_iff.mp readEq
    refine ⟨.moduleImport record, collected _ (List.mem_map_of_mem List.mem_cons_self), record,
      rfl, ?_⟩
    rw [(heads_import source node record recordEq).2.1]
    exact path

/-- Every collected declaration, and every case inside a collected enumeration, has a keyword that
is not empty, and neither its keyword nor its name begins or ends with a blank.  Its name is empty
exactly when it is an import whose path is one blank component, so that all names are there exactly
when the selector takes no import node with such a path. -/
theorem collect_names_empty_only_for_blank_imports
    (succeeded : collect source selector root = .ok declarations) :
    (∀ declaration ∈ declarations, ∀ item ∈ declaration.withCases,
      IsWord item.heading.keyword ∧ Unpadded item.name ∧
        (item.name = "" ↔ item.IsBlankImport)) ∧
    ((∀ declaration ∈ declarations, ∀ item ∈ declaration.withCases, IsWord item.name) ↔
      ¬ ∃ node ∈ root.preorder, selector.take? source node = some .moduleImport ∧
        importPath source node = [""]) := by
  have words : ∀ declaration ∈ declarations, ∀ item ∈ declaration.withCases,
      IsWord item.heading.keyword ∧ Unpadded item.name ∧
        (item.name = "" ↔ item.IsBlankImport) := by
    intro declaration member item inside
    obtain ⟨node, -, kind, block, -, blockEq, inBlock⟩ :=
      exists_read_of_mem_collect succeeded member
    exact words_of_mem_withCases blockEq inBlock inside
  refine ⟨words, ?_⟩
  rw [← blankImport_mem_collect_iff succeeded]
  constructor
  · rintro named ⟨declaration, member, blank⟩
    have itself := declaration.mem_withCases_self
    have empty := (words declaration member declaration itself).2.2.mpr blank
    exact (named declaration member declaration itself).1 empty
  · intro noBlank declaration member item inside
    obtain ⟨-, name, emptyIff⟩ := words declaration member item inside
    refine ⟨?_, name⟩
    intro empty
    -- The cases of an enumeration are no imports, so the item is the declaration itself.
    obtain ⟨record, isImport, path⟩ := emptyIff.mp empty
    rcases Declaration.mem_withCases inside with rfl | ⟨_, element, -, -, isCase⟩
    · exact noBlank ⟨item, member, record, isImport, path⟩
    · rw [isImport] at isCase
      cases isCase

end

/-- All names of `nestedEnumerations` are there, those of the cases inside the enumerations
included. -/
theorem names_of_nestedEnumerations :
    ∃ declarations, collect nestedEnumerationsText .any nestedEnumerations = .ok declarations ∧
      declarations.length = 5 ∧
      ∀ declaration ∈ declarations, ∀ item ∈ declaration.withCases,
        IsWord item.heading.keyword ∧ IsWord item.name := by
  obtain ⟨words, named⟩ := collect_names_empty_only_for_blank_imports collect_nestedEnumerations
  have names := named.mpr (by decide +kernel)
  refine ⟨_, collect_nestedEnumerations, rfl, ?_⟩
  intro declaration member item inside
  exact ⟨(words declaration member item inside).1, names declaration member item inside⟩

/-- The tree of `import struct`, where the parser puts an empty identifier after the tokens. -/
def importWithoutPath : Node :=
  .rule "source_file" 0 13 []
    [.rule "import_declaration" 0 13 []
      [.token "import" 0 6 [],
       .token "struct" 7 13 [],
       .rule "identifier" 13 13 [] [.rule "simple_identifier" 13 13 [] []]]]

/-- The import is collected without a name. -/
theorem collect_importWithoutPath_gives_empty_name :
    ∃ declaration, collect "import struct" .any importWithoutPath = .ok [declaration] ∧
      declaration.kind = .moduleImport ∧ declaration.name = "" := by
  refine ⟨.moduleImport
    { attributes := [], modifiers := [], keyword := "import", name := "",
      importKind := some "struct", pathComponents := [""] }, ?_, rfl, rfl⟩
  decide +kernel

end Synopsis
