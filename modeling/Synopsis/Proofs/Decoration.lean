/-
Module: Synopsis.Proofs.Decoration
Purpose: The attributes and modifiers of a record are those of its node.  They stand in the first
  modifier list of the node; a token beside that list adds at most one modifier, and the fixity of
  an operator is that of its first modifier that spells one.
Main exports:
  Node.decorations, listedAttributes, listedModifiers, modifiers_withToken,
  read_carries_decorators
-/
import Synopsis.Proofs.Headings

namespace Synopsis

/-! ### The modifier list -/

/-- What stands in the first modifier list of a node, comments and tokens left out. -/
def Node.decorations (node : Node) : List Node :=
  ((node.childOfKind? "modifiers").map Node.namedChildren).getD []

/-- The attributes in the modifier list of a node, in order. -/
def listedAttributes (source : String) (node : Node) : List Attribute :=
  (node.decorations.filter Node.isAttribute).map (Attribute.ofNode source)

/-- The modifiers in the modifier list of a node, which is all that is no attribute, in order. -/
def listedModifiers (source : String) (node : Node) : List Modifier :=
  (node.decorations.filter (!Node.isAttribute ·)).map (Modifier.ofNode source)

theorem decorators_ofNode_eq (source : String) (node : Node) :
    Decorators.ofNode source node =
      { attributes := listedAttributes source node, modifiers := listedModifiers source node } := by
  rw [Decorators.ofNode, listedAttributes, listedModifiers, Node.decorations]
  cases node.childOfKind? "modifiers" with
  | none => rfl
  | some list => rfl

/-! ### Tokens that count as modifiers -/

theorem attributes_withToken (token : Option String) (decorators : Decorators) :
    (decorators.withToken token).attributes = decorators.attributes := by
  cases token with
  | none => rfl
  | some name =>
      rw [Decorators.withToken]
      split <;> rfl

/-- A token adds a modifier without detail at the end, exactly when no modifier has its name. -/
theorem modifiers_withToken (token : Option String) (decorators : Decorators) :
    ∃ extra : Option Modifier,
      (decorators.withToken token).modifiers = decorators.modifiers ++ extra.toList ∧
      ∀ modifier, extra = some modifier ↔
        modifier.detail = none ∧ token = some modifier.name ∧
          ∀ earlier ∈ decorators.modifiers, earlier.name ≠ modifier.name := by
  cases token with
  | none =>
      refine ⟨none, by simp [Decorators.withToken], ?_⟩
      simp
  | some name =>
      by_cases present : decorators.modifiers.any (·.name == name) = true
      · refine ⟨none, by simp [Decorators.withToken, present], ?_⟩
        obtain ⟨earlier, member, nameEq⟩ := List.any_eq_true.mp present
        intro modifier
        constructor
        · intro impossible
          cases impossible
        · rintro ⟨-, same, absent⟩
          cases same
          exact absurd (eq_of_beq nameEq) (absent earlier member)
      · refine ⟨some { name, detail := none }, by simp [Decorators.withToken, present], ?_⟩
        have absent : ∀ earlier ∈ decorators.modifiers, earlier.name ≠ name := by
          intro earlier member same
          exact present (List.any_eq_true.mpr ⟨earlier, member, beq_iff_eq.mpr same⟩)
        intro modifier
        constructor
        · intro same
          cases same
          exact ⟨rfl, rfl, absent⟩
        · rintro ⟨noDetail, same, -⟩
          cases modifier
          cases noDetail
          cases same
          rfl

/-! ### Fixities -/

theorem ofWord?_eq_some {text : String} {fixity : Fixity}
    (spelled : Fixity.ofWord? text = some fixity) : text = fixity.word := by
  have passed := List.find?_some spelled
  exact (eq_of_beq passed).symm

theorem not_mem_of_ofWord?_eq_none {text : String} (unspelled : Fixity.ofWord? text = none) :
    text ∉ Fixity.allWords := by
  have contains := ofWord?_isSome text
  rw [unspelled] at contains
  simpa using contains.symm

/-- The fixity of a list of decorators is the one that its first modifier with a fixity's name
spells. -/
theorem first_of_fixity?_eq_some {decorators : Decorators} {fixity : Fixity}
    (stated : decorators.fixity? = some fixity) :
    ∃ before modifier after, decorators.modifiers = before ++ modifier :: after ∧
      (∀ earlier ∈ before, earlier.name ∉ Fixity.allWords) ∧ modifier.name = fixity.word := by
  obtain ⟨before, modifier, after, split, spelled, unspelled⟩ :=
    List.findSome?_eq_some_iff.mp stated
  refine ⟨before, modifier, after, split, ?_, ofWord?_eq_some spelled⟩
  intro earlier member
  exact not_mem_of_ofWord?_eq_none (unspelled earlier member)

/-! ### Records -/

/-- Every record has the attributes in the first modifier list of its node and then the modifiers
in that list, in order.  At most one modifier follows them: it has no detail, it is the first of
the kind's bare modifiers among the tokens of the node, and it is there exactly when such a token
stands in the node and no listed modifier has its name.  An operator has the fixity that the first
of its modifiers with a fixity's name spells, and there is such a modifier. -/
theorem read_carries_decorators {source : String} {kind : Kind} {node : Node}
    {declarations : List Declaration}
    (succeeded : Declaration.read source kind node = .ok declarations) :
    ∀ declaration ∈ declarations,
      declaration.heading.attributes = listedAttributes source node ∧
      (∃ extra : Option Modifier,
        declaration.heading.modifiers = listedModifiers source node ++ extra.toList ∧
        ∀ modifier, extra = some modifier ↔
          modifier.detail = none ∧ node.firstToken? kind.bareModifiers = some modifier.name ∧
            ∀ earlier ∈ listedModifiers source node, earlier.name ≠ modifier.name) ∧
      ∀ record, declaration = .operator record →
        ∃ before modifier after, record.modifiers = before ++ modifier :: after ∧
          (∀ earlier ∈ before, earlier.name ∉ Fixity.allWords) ∧
          modifier.name = record.fixity.word := by
  intro declaration member
  have heads := heads_of_mem_read succeeded declaration member
  have decorators := heads.decorators
  rw [Kind.decorators, decorators_ofNode_eq] at decorators
  refine ⟨?_, ?_, ?_⟩
  · rw [decorators, attributes_withToken]
  · rw [decorators]
    exact modifiers_withToken _ _
  · rintro record rfl
    obtain rfl : kind = .operator := (kind_of_mem_read succeeded _ member).symm
    have fixities : Ensures (fun records => ∀ record ∈ records,
        record.toDecorators.fixity? = some record.fixity) (Kind.operator.read source node) :=
      Ensures.singleton fun one oneEq => (heads_operator source node one oneEq).2
    exact first_of_fixity?_eq_some (fixities.of_mem_read succeeded member)

/-- The tree of `@a infix prefix operator ++`, with one fixity in the modifier list and another
beside it. -/
def operatorOfTwoFixities : Node :=
  .rule "operator_declaration" 0 27 []
    [.rule "modifiers" 0 8 []
      [.rule "attribute" 0 2 [] [.token "@" 0 1 [], .rule "user_type" 1 2 [] []],
       .rule "property_behavior_modifier" 3 8 [] []],
     .token "prefix" 9 15 [],
     .token "operator" 16 24 [],
     .rule "custom_operator" 25 27 [] []]

/-- The text of `operatorOfTwoFixities`. -/
def operatorOfTwoFixitiesText : String :=
  "@a infix prefix operator ++"

/-- The token is added to the listed modifiers, and the listed one is the fixity. -/
theorem operatorOfTwoFixities_carries_decorators :
    ∃ record : OperatorDeclaration,
      Declaration.read operatorOfTwoFixitiesText .operator operatorOfTwoFixities =
        .ok [.operator record] ∧
      record.attributes = listedAttributes operatorOfTwoFixitiesText operatorOfTwoFixities ∧
      record.modifiers = listedModifiers operatorOfTwoFixitiesText operatorOfTwoFixities ++
        [{ name := "prefix", detail := none }] ∧
      ∃ before modifier after, record.modifiers = before ++ modifier :: after ∧
        (∀ earlier ∈ before, earlier.name ∉ Fixity.allWords) ∧
        modifier.name = record.fixity.word := by
  have readEq : Declaration.read operatorOfTwoFixitiesText .operator operatorOfTwoFixities =
      .ok
        [.operator
          { attributes := [{ name := "a", arguments := [] }],
            modifiers :=
              [{ name := "infix", detail := none }, { name := "prefix", detail := none }],
            keyword := "operator", name := "++", fixity := .infixOp,
            precedenceGroup := none }] := by
    decide +kernel
  obtain ⟨attributes, ⟨extra, modifiers, added⟩, fixity⟩ :=
    read_carries_decorators readEq _ List.mem_cons_self
  have extraEq : extra = some { name := "prefix", detail := none } :=
    (added _).mpr (by decide +kernel)
  rw [extraEq] at modifiers
  exact ⟨_, readEq, attributes, modifiers, fixity _ rfl⟩

end Synopsis
