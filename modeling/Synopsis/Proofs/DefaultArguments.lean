/-
Module: Synopsis.Proofs.DefaultArguments
Purpose: Parameters and their default values are siblings in one list of children.  The children
  are some that come before every parameter and then one group for each parameter; a parameter has
  its default value from its own node or else from its own group, and from no other.
Main exports:
  ParameterGroup, ParameterLayout, exists_parameterLayout, Parameter.ReadFrom,
  ParameterLayout.parametersOf_eq, default_arguments_stay_with_parameters
-/
import Synopsis.Proofs.Collection
import Synopsis.Record.Render

namespace Synopsis

/-! ### Children in groups -/

/-- Whether a child of a declaration is a parameter. -/
def Node.isParameter (node : Node) : Bool :=
  node.kind == "parameter"

/-- Whether a child of a declaration is the default value of a parameter beside it. -/
def Node.isDefault (node : Node) : Bool :=
  node.field == some "default_value"

/-- A parameter and the children that come after it and before the next parameter. -/
structure ParameterGroup where
  parameter : Node
  others : List Node

namespace ParameterGroup

/-- The nodes of a group in order. -/
def nodes (group : ParameterGroup) : List Node :=
  group.parameter :: group.others

/-- The default value kept beside a parameter: the last one in its group. -/
def default? (group : ParameterGroup) : Option Node :=
  (group.others.filter Node.isDefault).getLast?

end ParameterGroup

/-- Children in order: some before every parameter, and then the groups of the parameters. -/
structure ParameterLayout (children lead : List Node) (groups : List ParameterGroup) : Prop where
  leadOnly : ∀ node ∈ lead, node.isParameter = false
  parameters : ∀ group ∈ groups, group.parameter.isParameter = true
  othersOnly : ∀ group ∈ groups, ∀ node ∈ group.others, node.isParameter = false
  children : children = lead ++ groups.flatMap ParameterGroup.nodes

/-- All children can be laid out so: a parameter takes what stands to its right up to the next
one. -/
theorem exists_parameterLayout (children : List Node) :
    ∃ lead groups, ParameterLayout children lead groups := by
  induction children with
  | nil => exact ⟨[], [], by simp, by simp, by simp, rfl⟩
  | cons child rest inductionHypothesis =>
      obtain ⟨lead, groups, layout⟩ := inductionHypothesis
      cases isParameter : child.isParameter with
      | true =>
          refine ⟨[], ⟨child, lead⟩ :: groups, by simp, ?_, ?_, ?_⟩
          · exact List.forall_mem_cons.mpr ⟨isParameter, layout.parameters⟩
          · exact List.forall_mem_cons.mpr ⟨layout.leadOnly, layout.othersOnly⟩
          · rw [layout.children]
            rfl
      | false =>
          refine ⟨child :: lead, groups, ?_, layout.parameters, layout.othersOnly, ?_⟩
          · exact List.forall_mem_cons.mpr ⟨isParameter, layout.leadOnly⟩
          · rw [layout.children]
            rfl

/-! ### Reading the children from the right -/

namespace ParameterRun

theorem cons_of_isParameter {child : Node} (isParameter : child.isParameter = true)
    (run : ParameterRun) :
    cons child run = { pending := none, entries := (child, run.pending) :: run.entries } :=
  if_pos isParameter

theorem cons_of_not_isParameter {child : Node} (notParameter : child.isParameter = false)
    (run : ParameterRun) :
    cons child run =
      if child.isDefault then { run with pending := run.pending.or (some child) } else run :=
  if_neg (ne_true_of_eq_false notParameter)

/-- Children that are no parameters leave the last default value among them waiting, unless one to
their right is waiting already. -/
theorem foldr_cons_of_no_parameter {nodes : List Node}
    (noParameter : ∀ node ∈ nodes, node.isParameter = false) (run : ParameterRun) :
    nodes.foldr cons run =
      { run with pending := run.pending.or (nodes.filter Node.isDefault).getLast? } := by
  induction nodes with
  | nil => simp
  | cons node rest inductionHypothesis =>
      rw [List.forall_mem_cons] at noParameter
      obtain ⟨notParameter, others⟩ := noParameter
      rw [List.foldr_cons, inductionHypothesis others, cons_of_not_isParameter notParameter]
      cases isDefault : node.isDefault with
      | false => rw [List.filter_cons_of_neg (by simp [isDefault]), if_neg Bool.false_ne_true]
      | true =>
          rw [List.filter_cons_of_pos isDefault, List.getLast?_cons, if_pos rfl]
          cases run.pending with
          | some waiting => rfl
          | none => cases (rest.filter Node.isDefault).getLast? <;> rfl

/-- Read from the right, groups give one entry each and leave nothing waiting. -/
theorem foldr_cons_groups {groups : List ParameterGroup}
    (parameters : ∀ group ∈ groups, group.parameter.isParameter = true)
    (othersOnly : ∀ group ∈ groups, ∀ node ∈ group.others, node.isParameter = false) :
    (groups.flatMap ParameterGroup.nodes).foldr cons { pending := none, entries := [] } =
      { pending := none,
        entries := groups.map fun group => (group.parameter, group.default?) } := by
  induction groups with
  | nil => rfl
  | cons group rest inductionHypothesis =>
      rw [List.forall_mem_cons] at parameters othersOnly
      rw [List.flatMap_cons, List.foldr_append, inductionHypothesis parameters.2 othersOnly.2,
        ParameterGroup.nodes, List.foldr_cons, foldr_cons_of_no_parameter othersOnly.1,
        cons_of_isParameter parameters.1]
      rfl

end ParameterRun

/-! ### Parameters of a layout -/

/-- The record of a parameter, read from its group.  A default value of its own comes before the one
kept beside it. -/
structure Parameter.ReadFrom (source : String) (group : ParameterGroup) (record : Parameter) :
    Prop where
  names : (record.firstName, record.secondName) = parameterNames source group.parameter
  typeName : record.typeName = parameterType? source group.parameter
  variadic : record.variadic =
    group.parameter.children.any fun child => !child.isComment && child.isEllipsis
  ownDefault : ∀ value, group.parameter.lookup? "default_value" = some value →
    record.defaultArgument = value.text? source
  keptDefault : group.parameter.lookup? "default_value" = none →
    record.defaultArgument = group.default?.bind (Node.text? source)

theorem Parameter.readFrom_ofNode (source : String) (group : ParameterGroup) :
    (Parameter.ofNode source group.parameter group.default?).ReadFrom source group where
  names := rfl
  typeName := rfl
  variadic := rfl
  ownDefault := by
    intro value own
    rw [Parameter.ofNode, own]
    rfl
  keptDefault := by
    intro none
    rw [Parameter.ofNode, none]
    rfl

section

variable {node : Node} {lead : List Node} {groups : List ParameterGroup}
  (layout : ParameterLayout node.children lead groups)

include layout

theorem ParameterLayout.parameterEntries_eq :
    parameterEntries node = groups.map fun group => (group.parameter, group.default?) := by
  rw [parameterEntries, layout.children, List.foldr_append,
    ParameterRun.foldr_cons_groups layout.parameters layout.othersOnly,
    ParameterRun.foldr_cons_of_no_parameter layout.leadOnly]

/-- What comes before the first parameter counts for nothing. -/
theorem ParameterLayout.parametersOf_eq (source : String) :
    parametersOf source node =
      groups.map fun group => Parameter.ofNode source group.parameter group.default? := by
  rw [parametersOf, layout.parameterEntries_eq, List.map_map]
  rfl

theorem ParameterLayout.childrenOfKind_eq :
    node.childrenOfKind "parameter" = groups.map ParameterGroup.parameter := by
  have group_filter : ∀ group ∈ groups,
      group.nodes.filter Node.isParameter = [group.parameter] := by
    intro group member
    have none : group.others.filter Node.isParameter = [] :=
      List.filter_eq_nil_iff.mpr (by simpa using layout.othersOnly group member)
    rw [ParameterGroup.nodes, List.filter_cons_of_pos (layout.parameters group member), none]
  have leading : lead.filter Node.isParameter = [] :=
    List.filter_eq_nil_iff.mpr (by simpa using layout.leadOnly)
  calc
    node.childrenOfKind "parameter" = node.children.filter Node.isParameter := rfl
    _ = groups.flatMap fun group => group.nodes.filter Node.isParameter := by
      rw [layout.children, List.filter_append, leading, List.nil_append, List.filter_flatMap]
    _ = groups.flatMap fun group => [group.parameter] := List.flatMap_congr group_filter
    _ = groups.map ParameterGroup.parameter := List.map_eq_flatMap.symm

end

/-- The children of every declaration are laid out in groups.  It has one parameter for each group,
that is for each child that is a parameter, in order.  The default argument is the text of a default
value of the parameter's own, else that of the last default value that stands after it and before
the next parameter, else there is none; default values before the first parameter count for nothing.
Another declaration that differs in what comes before the first parameter and in one group, in the
default value of that group or in anything else, has the same parameters but for the one of that
group. -/
theorem default_arguments_stay_with_parameters (source : String) (node : Node) :
    (∃ lead groups, ParameterLayout node.children lead groups) ∧
    ∀ (lead : List Node) (groups : List ParameterGroup),
      ParameterLayout node.children lead groups →
      groups.map ParameterGroup.parameter = node.childrenOfKind "parameter" ∧
      List.Forall₂ (fun group parameter => parameter.ReadFrom source group) groups
        (parametersOf source node) ∧
      ∀ (node' : Node) (lead' : List Node) (before after : List ParameterGroup)
        (group group' : ParameterGroup), groups = before ++ group :: after →
        ParameterLayout node'.children lead' (before ++ group' :: after) →
        (parametersOf source node').length = (parametersOf source node).length ∧
        ∀ index, index ≠ before.length →
          (parametersOf source node')[index]? = (parametersOf source node)[index]? := by
  refine ⟨exists_parameterLayout node.children, ?_⟩
  intro lead groups layout
  refine ⟨layout.childrenOfKind_eq.symm, ?_, ?_⟩
  · rw [layout.parametersOf_eq, List.forall₂_map_right_iff, List.forall₂_same]
    intro group _
    exact Parameter.readFrom_ofNode source group
  · rintro node' lead' before after group group' rfl layout'
    rw [layout.parametersOf_eq, layout'.parametersOf_eq]
    constructor
    · simp
    · intro index other
      have replaced : before ++ group' :: after =
          (before ++ group :: after).set before.length group' := by simp
      rw [List.getElem?_map, List.getElem?_map, replaced, List.getElem?_set_ne other.symm]

/-- The text of `twoDefaults`. -/
def twoDefaultsText : String :=
  "func f(a: A = 1, b: B = 2)"

/-- A parameter with a name and a type. -/
def typedParameter (start stop : Nat) : Node :=
  .rule "parameter" start stop []
    [.rule "simple_identifier" start (start + 1) ["name"] [],
     .token ":" (start + 1) (start + 2) [],
     .rule "user_type" (stop - 1) stop [] []]

/-- A default value kept beside its parameter. -/
def keptValue (start stop : Nat) : Node :=
  .mk { kind := "integer_literal", named := true, field := some "default_value", start, stop,
        lookups := [] } []

/-- What stands before the first parameter of `twoDefaults`. -/
def twoDefaultsLead : List Node :=
  [.token "func" 0 4 [], .rule "simple_identifier" 5 6 ["name"] [], .token "(" 6 7 []]

/-- The groups of `twoDefaults`, with the given nodes between the parameters. -/
def twoDefaultsGroups (between : List Node) : List ParameterGroup :=
  [⟨typedParameter 7 11, between⟩,
   ⟨typedParameter 17 21, [.token "=" 22 23 [], keptValue 24 25, .token ")" 25 26 []]⟩]

/-- The tree of a function whose second parameter has a default value, with the given nodes between
the parameters. -/
def twoDefaults (between : List Node) : Node :=
  .rule "function_declaration" 0 26 []
    (twoDefaultsLead ++ (twoDefaultsGroups between).flatMap ParameterGroup.nodes)

theorem twoDefaults_layout {between : List Node}
    (noParameter : ∀ node ∈ between, node.isParameter = false) :
    ParameterLayout (twoDefaults between).children twoDefaultsLead
      (twoDefaultsGroups between) := by
  refine ⟨by decide, ?_, ?_, rfl⟩
  · simp only [twoDefaultsGroups, List.forall_mem_cons]
    exact ⟨rfl, rfl, by simp⟩
  · simp only [twoDefaultsGroups, List.forall_mem_cons]
    exact ⟨noParameter, by decide, by simp⟩

/-- A comma between two parameters. -/
def plainBetween : List Node :=
  [.token "," 15 16 []]

/-- A default value and a comma between two parameters. -/
def valueBetween : List Node :=
  .token "=" 12 13 [] :: keptValue 14 15 :: plainBetween

/-- The second parameter keeps its default value when the first one loses its own. -/
theorem defaults_of_twoDefaults :
    ParameterLayout (twoDefaults valueBetween).children twoDefaultsLead
      (twoDefaultsGroups valueBetween) ∧
    (parametersOf twoDefaultsText (twoDefaults valueBetween)).map (·.render) =
      ["a: A = 1", "b: B = 2"] ∧
    (parametersOf twoDefaultsText (twoDefaults plainBetween)).map (·.render) =
      ["a: A", "b: B = 2"] ∧
    (parametersOf twoDefaultsText (twoDefaults plainBetween))[1]? =
      (parametersOf twoDefaultsText (twoDefaults valueBetween))[1]? := by
  have both := twoDefaults_layout (show ∀ node ∈ valueBetween, node.isParameter = false by decide)
  have one := twoDefaults_layout (show ∀ node ∈ plainBetween, node.isParameter = false by decide)
  obtain ⟨-, -, kept⟩ := (default_arguments_stay_with_parameters twoDefaultsText _).2 _ _ both
  obtain ⟨-, others⟩ := kept _ _ [] _ _ _ rfl one
  exact ⟨both, by decide +kernel, by decide +kernel, others 1 (by decide)⟩

end Synopsis
