/-
Module: Synopsis.Proofs.AssociatedValues
Purpose: The values of a payload.  Comments and parentheses left out, a payload is a list of groups
  with commas between them, and a group has labels before its first colon and a type and a default
  value after it.  Every group with a named node gives one value, read from that group alone.  A
  value has a default where one is written, as long as its type is written as one node.
Main exports:
  PayloadGroups, valueGroups, Divided, Parameter.ReadBeside,
  Divided.readBeside, associated_values_follow_groups, defaults_follow_single_types
-/
import Synopsis.Proofs.Collection
import Synopsis.Proofs.Cutting
import Synopsis.Record.Render

namespace Synopsis

open Text

/-! ### Groups of a payload -/

/-- The groups of a payload: of its children, comments and parentheses left out, those between two
commas. -/
def PayloadGroups (payload : Node) (groups : List (List Node)) : Prop :=
  Parted (Node.isToken ",") groups
    (payload.children.filter fun child =>
      !child.isComment && !child.isToken "(" && !child.isToken ")")

/-- The groups that hold a value are those with a named node. -/
def valueGroups (groups : List (List Node)) : List (List Node) :=
  groups.filter (·.any Node.named)

theorem payloadGroups_iff {payload : Node} {groups : List (List Node)} :
    PayloadGroups payload groups ↔ groups = cutAt (Node.isToken ",") (payloadNodes payload) := by
  have same : payloadNodes payload = payload.children.filter fun child =>
      !child.isComment && !child.isToken "(" && !child.isToken ")" := by
    rw [payloadNodes]
    apply List.filter_congr
    intro child _
    rw [Bool.not_or, Bool.not_or]
  rw [PayloadGroups, parted_iff, same]

theorem PayloadGroups.associatedValues_eq {payload : Node} {groups : List (List Node)}
    (layout : PayloadGroups payload groups) (source : String) :
    associatedValues source payload = (valueGroups groups).map (Parameter.ofGroup source) := by
  rw [associatedValues, ← payloadGroups_iff.mp layout]
  rfl

/-- What holds of each group and its value holds of the payload in order. -/
theorem PayloadGroups.forall₂ {payload : Node} {groups : List (List Node)}
    (layout : PayloadGroups payload groups) {source : String}
    {R : List Node → Parameter → Prop} (each : ∀ group, R group (Parameter.ofGroup source group)) :
    List.Forall₂ R (valueGroups groups) (associatedValues source payload) := by
  rw [layout.associatedValues_eq, List.forall₂_map_right_iff, List.forall₂_same]
  intro group _
  exact each group

/-! ### The two sides of a colon -/

/-- A group with its labels and its values.  The labels stand before the first colon; without a
colon there are none. -/
inductive Divided : List Node → List Node → List Node → Prop where
  | plain {group : List Node} (noColon : ∀ node ∈ group, node.isToken ":" = false) :
      Divided group [] group
  | labelled {labels values : List Node} {colon : Node}
      (noColon : ∀ node ∈ labels, node.isToken ":" = false) (isColon : colon.isToken ":" = true) :
      Divided (labels ++ colon :: values) labels values

theorem exists_divided (group : List Node) : ∃ labels values, Divided group labels values := by
  cases found : group.find? (Node.isToken ":") with
  | none => exact ⟨[], group, .plain (by simpa using found)⟩
  | some colon =>
      obtain ⟨isColon, labels, values, rfl, noColon⟩ := List.find?_eq_some_iff_append.mp found
      exact ⟨labels, values, .labelled (by simpa using noColon) isColon⟩

/-- A value with its names from some labels, and its type and default from some values. -/
structure Parameter.ReadBeside (source : String) (labels values : List Node)
    (parameter : Parameter) : Prop where
  firstName : parameter.firstName = (labels.filterMap (labelText? source))[0]?
  secondName : parameter.secondName = (labels.filterMap (labelText? source))[1]?
  typeName : parameter.typeName = (values.filter Node.named)[0]?.bind (Node.text? source)
  defaultArgument :
    parameter.defaultArgument = (values.filter Node.named)[1]?.bind (Node.text? source)
  variadic : parameter.variadic = false

/-- A group is read from the two sides of its colon. -/
theorem Divided.readBeside {group labels values : List Node}
    (divided : Divided group labels values) (source : String) :
    (Parameter.ofGroup source group).ReadBeside source labels values := by
  cases divided with
  | plain noColon =>
      have none : group.any (Node.isToken ":") = false := by simpa using noColon
      simp only [Parameter.ofGroup, none, Bool.false_eq_true, if_false]
      exact ⟨rfl, rfl, rfl, rfl, rfl⟩
  | @labelled _ _ colon noColon isColon =>
      have some : (labels ++ colon :: values).any (Node.isToken ":") = true := by simp [isColon]
      have before : (labels ++ colon :: values).takeWhile (!Node.isToken ":" ·) = labels := by
        rw [List.takeWhile_append_of_pos (by simpa using noColon),
          List.takeWhile_cons_of_neg (by simp [isColon]), List.append_nil]
      have after : (labels ++ colon :: values).dropWhile (!Node.isToken ":" ·) =
          colon :: values := by
        rw [List.dropWhile_append_of_pos (by simpa using noColon),
          List.dropWhile_cons_of_neg (by simp [isColon])]
      simp only [Parameter.ofGroup, some, before, after, if_true]
      exact ⟨rfl, rfl, rfl, rfl, rfl⟩

/-! ### One value for each group -/

/-- Every payload is groups with commas between them in exactly one way, and every group has its two
sides.  The payload has one value for each group with a named node, in order, and none for the other
groups.  The names of a value are read from the labels of its group, of which there are none without
a colon, its type and default from what follows them, and it is not variadic.  Two groups, of the
same payload or of different ones, that are equal have equal values; if only their labels are equal
the names are, and if only what follows the labels is equal the types and defaults are. -/
theorem associated_values_follow_groups (source : String) (payload : Node) :
    (∃! groups, PayloadGroups payload groups) ∧
    (∀ group, ∃ labels values, Divided group labels values) ∧
    ∀ groups, PayloadGroups payload groups →
      List.Forall₂ (fun group parameter => ∀ labels values, Divided group labels values →
          parameter.ReadBeside source labels values)
        (valueGroups groups) (associatedValues source payload) ∧
      ∀ (payload' : Node) (groups' : List (List Node)), PayloadGroups payload' groups' →
        ∀ (index index' : Nat) (group group' : List Node),
          (valueGroups groups)[index]? = some group →
          (valueGroups groups')[index']? = some group' →
          ∃ parameter parameter', (associatedValues source payload)[index]? = some parameter ∧
            (associatedValues source payload')[index']? = some parameter' ∧
            (group = group' → parameter = parameter') ∧
            ∀ labels values labels' values', Divided group labels values →
              Divided group' labels' values' →
              (labels = labels' → parameter.firstName = parameter'.firstName ∧
                parameter.secondName = parameter'.secondName) ∧
              (values = values' → parameter.typeName = parameter'.typeName ∧
                parameter.defaultArgument = parameter'.defaultArgument) := by
  refine ⟨⟨_, payloadGroups_iff.mpr rfl, fun groups => payloadGroups_iff.mp⟩, exists_divided, ?_⟩
  intro groups layout
  constructor
  · apply layout.forall₂
    intro group labels values divided
    exact divided.readBeside source
  · intro payload' groups' layout' index index' group group' found found'
    refine ⟨Parameter.ofGroup source group, Parameter.ofGroup source group', ?_, ?_, ?_, ?_⟩
    · rw [layout.associatedValues_eq, List.getElem?_map, found]
      rfl
    · rw [layout'.associatedValues_eq, List.getElem?_map, found']
      rfl
    · exact congrArg _
    · intro labels values labels' values' divided divided'
      have read := divided.readBeside source
      have read' := divided'.readBeside source
      constructor
      · rintro rfl
        exact ⟨read.firstName.trans read'.firstName.symm,
          read.secondName.trans read'.secondName.symm⟩
      · rintro rfl
        exact ⟨read.typeName.trans read'.typeName.symm,
          read.defaultArgument.trans read'.defaultArgument.symm⟩

/-- The text of `strayCommas`. -/
def strayCommasText : String :=
  "(_ a: Int,, /**/ B,)"

/-- A group with a colon between its labels and its values. -/
def groupOf (labels : List Node) (colon : Nat) (values : List Node) : List Node :=
  labels ++ .token ":" colon (colon + 1) [] :: values

/-- The group of the labelled value of `strayCommas`. -/
def labelledGroup : List Node :=
  groupOf [.rule "wildcard_pattern" 1 2 [] [], .rule "simple_identifier" 3 4 [] []] 4
    [.rule "user_type" 6 9 [] []]

/-- The group of the other value of `strayCommas`. -/
def unlabelledGroup : List Node :=
  [.rule "user_type" 17 18 [] []]

/-- The tree of a payload with the given nodes between its parentheses. -/
def payloadOf (stop : Nat) (nodes : List Node) : Node :=
  .rule "enum_type_parameters" 0 stop []
    (.token "(" 0 1 [] :: nodes ++ [.token ")" (stop - 1) stop []])

/-- A payload of two values with a doubled comma, a comment and a trailing comma. -/
def strayCommas : Node :=
  payloadOf 20
    (labelledGroup ++ .token "," 9 10 [] :: .token "," 10 11 [] ::
      .rule "multiline_comment" 12 16 [] [] :: unlabelledGroup ++ [.token "," 18 19 []])

/-- Two of the four groups hold a value, and the value of the second one is the same where it stands
alone. -/
theorem values_of_strayCommas :
    PayloadGroups strayCommas [labelledGroup, [], unlabelledGroup, []] ∧
    PayloadGroups (payloadOf 20 unlabelledGroup) [unlabelledGroup] ∧
    (associatedValues strayCommasText strayCommas).map (·.render) = ["_ a: Int", "B"] ∧
    ∃ value, (associatedValues strayCommasText strayCommas)[1]? = some value ∧
      (associatedValues strayCommasText (payloadOf 20 unlabelledGroup))[0]? = some value ∧
      value.firstName = none ∧ value.secondName = none := by
  have both : PayloadGroups strayCommas [labelledGroup, [], unlabelledGroup, []] :=
    payloadGroups_iff.mpr rfl
  have alone : PayloadGroups (payloadOf 20 unlabelledGroup) [unlabelledGroup] :=
    payloadGroups_iff.mpr rfl
  have texts : (associatedValues strayCommasText strayCommas).map (·.render) =
      ["_ a: Int", "B"] := by
    decide +kernel
  obtain ⟨-, -, values⟩ := associated_values_follow_groups strayCommasText strayCommas
  obtain ⟨read, apart⟩ := values _ both
  obtain ⟨value, value', found, found', same, -⟩ := apart _ _ alone 1 0 _ _ rfl rfl
  obtain rfl := same rfl
  refine ⟨both, alone, texts, value, found, found', ?_⟩
  generalize associatedValues strayCommasText strayCommas = parameters at read found
  cases read with
  | cons _ rest =>
      cases rest with
      | cons second _ =>
          cases found
          have plain := second [] unlabelledGroup (.plain (by decide))
          exact ⟨plain.firstName, plain.secondName⟩

/-! ### Default values -/

theorem named_of_isToken {node : Node} {spelling : String}
    (isToken : node.isToken spelling = true) : node.named = false := by
  rw [Node.isToken, Bool.and_eq_true] at isToken
  simpa using isToken.1

/-- Tokens between named nodes make no difference to which nodes are named. -/
theorem filter_named_append_cons {typed written : List Node} {token : Node} {spelling : String}
    (isToken : token.isToken spelling = true) :
    (typed ++ token :: written).filter Node.named =
      typed.filter Node.named ++ written.filter Node.named := by
  rw [List.filter_append, List.filter_cons_of_neg (by simp [named_of_isToken isToken])]

namespace Parameter.ReadBeside

variable {source : String} {labels values typed written : List Node} {parameter : Parameter}
  {equals : Node}

theorem defaultArgument_eq_none_iff (read : parameter.ReadBeside source labels values) :
    parameter.defaultArgument = none ↔
      ∀ first second others, values.filter Node.named = first :: second :: others →
        second.text? source = none := by
  rw [read.defaultArgument]
  cases values.filter Node.named with
  | nil => simp
  | cons type others => cases others <;> simp

section

variable (read : parameter.ReadBeside source labels (typed ++ equals :: written))
  (isEquals : equals.isToken "=" = true)

include read isEquals

theorem defaultArgument_eq :
    parameter.defaultArgument =
      (typed.filter Node.named ++ written.filter Node.named)[1]?.bind (Node.text? source) := by
  rw [read.defaultArgument, filter_named_append_cons isEquals]

/-- After a type of one node the default value is the first node that is written for it. -/
theorem defaultArgument_of_single (single : (typed.filter Node.named).length = 1) :
    parameter.defaultArgument = (written.find? Node.named).bind (Node.text? source) := by
  rw [read.defaultArgument_eq isEquals, List.getElem?_append_right (by omega), single,
    ← List.head?_filter, List.head?_eq_getElem?]

/-- Of a type of several nodes the second one is taken for the default value. -/
theorem defaultArgument_of_several (several : 1 < (typed.filter Node.named).length) :
    parameter.defaultArgument = (typed.filter Node.named)[1]?.bind (Node.text? source) := by
  rw [read.defaultArgument_eq isEquals, List.getElem?_append_left several]

/-- Without a type the first node that is written for the default value is taken for the type. -/
theorem defaultArgument_of_untyped (untyped : typed.filter Node.named = []) :
    parameter.defaultArgument = (written.filter Node.named)[1]?.bind (Node.text? source) := by
  rw [read.defaultArgument_eq isEquals, untyped, List.nil_append]

end

end Parameter.ReadBeside

/-- A value has no default exactly when no second named node with a text follows the labels of its
group, whether an equals sign stands there or not.  Where one does, and one named node stands
between the labels and the sign, the default is the text of the first named node after the sign; of
several such nodes the second one is taken for the default, and without any the second named node
after the sign is. -/
theorem defaults_follow_single_types {source : String} {payload : Node} {groups : List (List Node)}
    (layout : PayloadGroups payload groups) :
    List.Forall₂ (fun group parameter => ∀ labels values, Divided group labels values →
        (parameter.defaultArgument = none ↔
          ∀ first second others, values.filter Node.named = first :: second :: others →
            second.text? source = none) ∧
        ∀ (typed written : List Node) (equals : Node), values = typed ++ equals :: written →
          equals.isToken "=" = true →
          ((typed.filter Node.named).length = 1 →
            parameter.defaultArgument =
              (written.find? Node.named).bind (Node.text? source)) ∧
          (1 < (typed.filter Node.named).length →
            parameter.defaultArgument =
              (typed.filter Node.named)[1]?.bind (Node.text? source)) ∧
          (typed.filter Node.named = [] →
            parameter.defaultArgument =
              (written.filter Node.named)[1]?.bind (Node.text? source)))
      (valueGroups groups) (associatedValues source payload) := by
  apply layout.forall₂
  intro group labels values divided
  have read := divided.readBeside source
  refine ⟨read.defaultArgument_eq_none_iff, ?_⟩
  rintro typed written equals rfl isEquals
  exact ⟨read.defaultArgument_of_single isEquals, read.defaultArgument_of_several isEquals,
    read.defaultArgument_of_untyped isEquals⟩

/-- The text of `oneDefault`. -/
def oneDefaultText : String :=
  "(a: A, b: B = 1)"

/-- The group of a value with a label and a type. -/
def plainGroup : List Node :=
  groupOf [.rule "simple_identifier" 1 2 [] []] 2 [.rule "user_type" 4 5 [] []]

/-- The group of a value with a label, a type and a default. -/
def defaultedGroup : List Node :=
  groupOf [.rule "simple_identifier" 7 8 [] []] 8
    ([.rule "user_type" 10 11 [] []] ++ .token "=" 12 13 [] ::
      [.rule "integer_literal" 14 15 [] []])

/-- A payload of two values, of which the second has a default. -/
def oneDefault : Node :=
  payloadOf 16 (plainGroup ++ .token "," 5 6 [] :: defaultedGroup)

/-- With types of one node each the first value has no default and the second has the written
one. -/
theorem defaults_of_oneDefault :
    PayloadGroups oneDefault [plainGroup, defaultedGroup] ∧
    ∃ first second, associatedValues oneDefaultText oneDefault = [first, second] ∧
      first.defaultArgument = none ∧ second.defaultArgument = some "1" := by
  have layout : PayloadGroups oneDefault [plainGroup, defaultedGroup] :=
    payloadGroups_iff.mpr rfl
  have read := @defaults_follow_single_types oneDefaultText _ _ layout
  generalize associatedValues oneDefaultText oneDefault = values at read
  refine ⟨layout, ?_⟩
  cases read with
  | @cons _ first _ _ firstRead rest =>
      cases rest with
      | @cons _ second _ _ secondRead none =>
          cases none
          obtain ⟨plain, -⟩ := firstRead _ _ (.labelled (by decide) rfl)
          obtain ⟨-, defaulted⟩ := secondRead _ _ (.labelled (by decide) rfl)
          refine ⟨first, second, rfl, plain.mpr ?_, ?_⟩
          · intro one other others named
            cases named
          · rw [(defaulted _ _ _ rfl rfl).1 rfl]
            decide +kernel

/-- The text of `spreadTypes`. -/
def spreadTypesText : String :=
  "(f: @escaping () -> Void, n: @A Int = 1)"

/-- The group of a value with an attribute before its type and no default. -/
def spreadGroup : List Node :=
  groupOf [.rule "simple_identifier" 1 2 [] []] 2
    [.rule "type_modifiers" 4 13 [] [], .rule "function_type" 14 24 [] []]

/-- The group of a value with an attribute before its type and a default. -/
def spreadDefaultedGroup : List Node :=
  groupOf [.rule "simple_identifier" 26 27 [] []] 27
    [.rule "type_modifiers" 29 31 [] [], .rule "user_type" 32 35 [] [], .token "=" 36 37 [],
     .rule "integer_literal" 38 39 [] []]

/-- A payload of two values whose types are spread over two nodes. -/
def spreadTypes : Node :=
  payloadOf 40 (spreadGroup ++ .token "," 24 25 [] :: spreadDefaultedGroup)

/-- A type after an attribute is taken for a default value, where none is written and where another
one is. -/
theorem defaults_of_spreadTypes :
    PayloadGroups spreadTypes [spreadGroup, spreadDefaultedGroup] ∧
    (∀ node ∈ spreadGroup, node.isToken "=" = false) ∧
    (associatedValues spreadTypesText spreadTypes).map (·.defaultArgument) =
      [some "() -> Void", some "Int"] := by
  refine ⟨payloadGroups_iff.mpr rfl, by decide, by decide +kernel⟩

end Synopsis
