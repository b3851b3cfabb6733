/-
Module: Synopsis.Proofs.ReturnTypes
Purpose: The return type of a function or subscript is the child that a lookup of its field finds,
  or else the first named child after the arrow.  Without the lookup a record can differ in its
  return type only, and it does where a comment between the arrow and the type is taken for it.
Main exports:
  Node.unlooked, Node.withoutLookup, function_withoutLookup, subscript_withoutLookup,
  Node.arrowComments, Node.ReturnsAfterArrow, Node.ArrowTells, return_type_after_arrow_iff
-/
import Synopsis.Proofs.FieldlessElements

namespace Synopsis

/-! ### Taking a lookup away -/

namespace Node

/-- The same node, not found by looking up `name`. -/
def unlooked (name : String) (node : Node) : Node :=
  .mk { node.row with lookups := node.row.lookups.filter (· != name) } node.children

/-- The same node with no child that looking up `name` finds. -/
def withoutLookup (name : String) (node : Node) : Node :=
  .mk node.row (node.children.map (unlooked name))

variable (name : String) (node : Node)

theorem lookup?_withoutLookup_self : (node.withoutLookup name).lookup? name = none := by
  apply List.find?_eq_none.mpr
  intro child member
  obtain ⟨original, -, rfl⟩ := List.mem_map.mp member
  simp [unlooked, row]

theorem lookupText?_withoutLookup {other : String} (different : other ≠ name) (source : String) :
    (node.withoutLookup name).lookupText? source other = node.lookupText? source other := by
  have same : ∀ child : Node, (child.unlooked name).row.lookups.contains other =
      child.row.lookups.contains other := by
    intro child
    simp [unlooked, row, different]
  rw [lookupText?, lookupText?, lookup?, withoutLookup, children,
    find?_map_of_same (unlooked name) same, Option.bind_map]
  rfl

theorem childOfKind?_withoutLookup (kind : String) :
    (node.withoutLookup name).childOfKind? kind = (node.childOfKind? kind).map (unlooked name) :=
  childOfKind?_map_children (unlooked name) (fun _ => rfl) kind node

theorem childrenOfKind_withoutLookup (kind : String) :
    (node.withoutLookup name).childrenOfKind kind =
      (node.childrenOfKind kind).map (unlooked name) :=
  filter_map_of_same (unlooked name) (fun _ => rfl) node.children

theorem firstToken?_withoutLookup (spellings : List String) :
    (node.withoutLookup name).firstToken? spellings = node.firstToken? spellings :=
  firstToken?_map_children (unlooked name) (fun _ => rfl) (fun _ => rfl) spellings node

theorem hasToken_withoutLookup (spelling : String) :
    (node.withoutLookup name).hasToken spelling = node.hasToken spelling := by
  rw [hasToken, withoutLookup, children, List.any_map]
  rfl

theorem after_withoutLookup (spelling : String) :
    (node.withoutLookup name).after spelling = (node.after spelling).map (unlooked name) := by
  rw [after, withoutLookup, children, List.dropWhile_map, ← List.map_drop]
  rfl

end Node

/-! ### Records without the lookup -/

section

variable (source name : String) (node : Node)

theorem decorators_withoutLookup :
    Decorators.ofNode source (node.withoutLookup name) = Decorators.ofNode source node :=
  decorators_map_children (Node.unlooked name) (fun _ => rfl) (fun _ => rfl) source node

theorem genericParametersOf_withoutLookup :
    genericParametersOf source (node.withoutLookup name) = genericParametersOf source node := by
  rw [genericParametersOf, genericParametersOf, Node.childOfKind?_withoutLookup]
  cases node.childOfKind? "type_parameters" with
  | none => rfl
  | some clause => rfl

theorem genericRequirementsOf_withoutLookup :
    genericRequirementsOf source (node.withoutLookup name) = genericRequirementsOf source node := by
  have entries : (whereClausesOf (node.withoutLookup name)).flatMap Node.namedChildren =
      (whereClausesOf node).flatMap Node.namedChildren := by
    rw [whereClausesOf, whereClausesOf, Node.childOfKind?_withoutLookup,
      Node.childrenOfKind_withoutLookup, List.flatMap_append, List.flatMap_append,
      List.flatMap_map]
    cases node.childOfKind? "type_parameters" with
    | none => rfl
    | some clause => rfl
  rw [genericRequirementsOf, genericRequirementsOf, entries]

theorem throwsKeyword?_withoutLookup :
    throwsKeyword? source (node.withoutLookup name) = throwsKeyword? source node := by
  rw [throwsKeyword?, throwsKeyword?, Node.childOfKind?_withoutLookup,
    Node.firstToken?_withoutLookup, Option.bind_map]
  rfl

end

/-- The same run of parameters, with none of its nodes found by looking up `name`. -/
def ParameterRun.unlooked (name : String) (run : ParameterRun) : ParameterRun :=
  { pending := run.pending.map (Node.unlooked name),
    entries := run.entries.map fun entry =>
      (entry.1.unlooked name, entry.2.map (Node.unlooked name)) }

theorem ParameterRun.cons_unlooked (name : String) (child : Node) (run : ParameterRun) :
    cons (child.unlooked name) (run.unlooked name) = (cons child run).unlooked name := by
  have kind : (child.unlooked name).kind = child.kind := rfl
  have field : (child.unlooked name).field = child.field := rfl
  rw [cons, cons, kind, field]
  split
  · rfl
  split
  · rw [unlooked, unlooked, Option.map_or]
    rfl
  · rfl

theorem ParameterRun.foldr_cons_unlooked (name : String) (nodes : List Node) (run : ParameterRun) :
    (nodes.map (Node.unlooked name)).foldr cons (run.unlooked name) =
      (nodes.foldr cons run).unlooked name := by
  induction nodes with
  | nil => rfl
  | cons node rest inductionHypothesis =>
      rw [List.map_cons, List.foldr_cons, inductionHypothesis, cons_unlooked, List.foldr_cons]

section

variable (source name : String) (node : Node)

/-- A parameter is read from its children, and its default value from its text. -/
theorem parameter_ofNode_unlooked (default? : Option Node) :
    Parameter.ofNode source (node.unlooked name) (default?.map (Node.unlooked name)) =
      Parameter.ofNode source node default? := by
  have value : ((node.lookup? "default_value").or (default?.map (Node.unlooked name))).bind
      (Node.text? source) =
      ((node.lookup? "default_value").or default?).bind (Node.text? source) := by
    cases node.lookup? "default_value" with
    | some found => rfl
    | none => cases default? <;> rfl
  exact congrArg (Parameter.mk _ _ _ _) value

theorem parametersOf_withoutLookup :
    parametersOf source (node.withoutLookup name) = parametersOf source node := by
  have entries : parameterEntries (node.withoutLookup name) = (parameterEntries node).map
      fun entry => (entry.1.unlooked name, entry.2.map (Node.unlooked name)) :=
    congrArg ParameterRun.entries
      (ParameterRun.foldr_cons_unlooked name node.children { pending := none, entries := [] })
  rw [parametersOf, entries, List.map_map]
  apply List.map_congr_left
  intro entry _
  exact parameter_ofNode_unlooked source name entry.1 entry.2

theorem functionName?_withoutLookup (different : "name" ≠ name) :
    functionName? source (node.withoutLookup name) = functionName? source node := by
  rw [functionName?, functionName?, Node.lookupText?_withoutLookup name node different,
    Node.childAfter?, Node.after_withoutLookup,
    find?_map_of_same (Node.unlooked name) fun _ => rfl, Option.bind_map]
  rfl

/-- A subscript without the lookup differs in its return type only. -/
theorem subscript_withoutLookup :
    Subscript.ofNode source (node.withoutLookup name) =
      { Subscript.ofNode source node with
        returnType := returnType? source (node.withoutLookup name) } := by
  rw [Subscript.ofNode, decorators_withoutLookup, genericParametersOf_withoutLookup,
    parametersOf_withoutLookup, genericRequirementsOf_withoutLookup]
  rfl

/-- A function without the lookup differs in its return type only, and has the same fault. -/
theorem function_withoutLookup (different : "name" ≠ name) :
    Function.ofNode source (node.withoutLookup name) =
      (Function.ofNode source node).map fun record =>
        { record with
          signature := { record.signature with
            output := returnType? source (node.withoutLookup name) } } := by
  have decorators : memberDecorators source (node.withoutLookup name) =
      memberDecorators source node := by
    rw [memberDecorators, memberDecorators, decorators_withoutLookup,
      Node.firstToken?_withoutLookup]
  have required : requireName (node.withoutLookup name) = requireName node := rfl
  rw [Function.ofNode, Function.ofNode, required, functionName?_withoutLookup _ _ _ different,
    decorators, Signature.ofNode, parametersOf_withoutLookup, throwsKeyword?_withoutLookup,
    Node.hasToken_withoutLookup, genericParametersOf_withoutLookup,
    genericRequirementsOf_withoutLookup]
  cases requireName node "function" (functionName? source node) with
  | error fault => rfl
  | ok found => rfl

end

/-! ### The first named child after the arrow -/

namespace Node

/-- The comments between the arrow of a declaration and the first other named child after it. -/
def arrowComments (node : Node) : List Node :=
  ((node.after "->").takeWhile (!isPart ·)).filter named

theorem isComment_of_mem_arrowComments {node comment : Node}
    (member : comment ∈ node.arrowComments) : comment.isComment = true := by
  rw [arrowComments, List.mem_filter] at member
  have passed := List.mem_takeWhile_imp member.1
  simpa [isPart, member.2] using passed

/-- The first named child is a comment, or the first one that is no comment. -/
theorem find?_named_eq (nodes : List Node) :
    nodes.find? named =
      ((nodes.takeWhile (!isPart ·)).filter named).head?.or (nodes.find? isPart) := by
  induction nodes with
  | nil => rfl
  | cons node rest inductionHypothesis =>
      cases part : node.isPart with
      | true =>
          have isNamed : node.named = true := (Bool.and_eq_true_iff.mp part).1
          simp [part, isNamed]
      | false =>
          cases isNamed : node.named with
          | true => simp [part, isNamed]
          | false => simpa [part, isNamed] using inductionHypothesis

/-- A declaration whose return type is told by its lookup and stands where an arrow announces it: it
is the first named child after the arrow, comments left out, and it has a text. -/
structure ReturnsAfterArrow (source : String) (node type : Node) : Prop where
  lookedUp : node.lookup? "return_type" = some type
  announced : node.namedAfter? "->" = some type
  visible : ∃ text, type.text? source = some text ∧ text ≠ ""

/-- Whether the first named child after the arrow tells the return type: no comment stands before
the type, or the first one has the very text of the type, and without a comment the type is of no
kind that ends the search. -/
def ArrowTells (source : String) (node type : Node) : Prop :=
  (∀ comment ∈ node.arrowComments.head?, comment.text? source = type.text? source) ∧
    (node.arrowComments = [] → type.kind ∉ arrowStops)

end Node

variable {source : String} {node type : Node}

/-- Without the lookup, the first named child after the arrow is taken, comment or not. -/
theorem returnType?_withoutLookup (announced : node.namedAfter? "->" = some type) :
    returnType? source (node.withoutLookup "return_type") =
      match node.arrowComments with
      | [] => if type.kind ∈ arrowStops then none else type.text? source
      | comment :: _ => comment.text? source := by
  have unstated : (node.withoutLookup "return_type").lookupText? source "return_type" = none := by
    rw [Node.lookupText?, Node.lookup?_withoutLookup_self]
    rfl
  have first : (node.after "->").find? Node.named = node.arrowComments.head?.or (some type) := by
    rw [Node.find?_named_eq, ← announced]
    rfl
  rw [returnType?, unstated, Option.none_or, Node.after_withoutLookup,
    find?_map_of_same (Node.unlooked _) fun _ => rfl, Option.bind_map, first]
  cases comments : node.arrowComments with
  | nil =>
      rw [List.head?_nil, Option.none_or, Option.bind_some]
      by_cases stops : type.kind ∈ arrowStops
      · rw [if_pos stops]
        exact if_pos (List.contains_iff_mem.mpr stops)
      · rw [if_neg stops]
        exact if_neg fun found => stops (List.contains_iff_mem.mp found)
  | cons comment rest =>
      -- A comment is of no kind that ends the search.
      have passes : comment.kind ∉ arrowStops := by
        have isComment := Node.isComment_of_mem_arrowComments (comments ▸ List.mem_cons_self)
        rw [Node.isComment, Bool.or_eq_true, beq_iff_eq, beq_iff_eq] at isComment
        obtain line | block := isComment
        · rw [line]
          decide
        · rw [block]
          decide
      exact if_neg fun found => passes (List.contains_iff_mem.mp found)

theorem Node.ReturnsAfterArrow.returnType?_eq (layout : node.ReturnsAfterArrow source type) :
    returnType? source node = type.text? source := by
  obtain ⟨text, textEq, nonempty⟩ := layout.visible
  have stated : node.lookupText? source "return_type" = some text := by
    rw [Node.lookupText?, layout.lookedUp, Option.bind_some, textEq, Option.filter_eq_some_iff]
    exact ⟨rfl, by simpa using nonempty⟩
  rw [returnType?, stated, textEq, Option.some_or]

/-- The two ways of finding the return type agree exactly when the first named child after the arrow
tells it. -/
theorem returnType?_withoutLookup_eq_iff (layout : node.ReturnsAfterArrow source type) :
    returnType? source (node.withoutLookup "return_type") = returnType? source node ↔
      node.ArrowTells source type := by
  rw [layout.returnType?_eq, returnType?_withoutLookup layout.announced, Node.ArrowTells]
  cases node.arrowComments with
  | nil =>
      obtain ⟨text, textEq, -⟩ := layout.visible
      rw [textEq]
      simp
  | cons comment rest => simp

/-- A function reports the return type of its node. -/
theorem Function.output_ofNode {record : Function}
    (read : Function.ofNode source node = .ok record) :
    record.signature.output = returnType? source node := by
  obtain ⟨name, -, built⟩ := bind_eq_ok_iff.mp read
  cases built
  rfl

/-- Let the return type of a function or subscript be told by its lookup and be the first named
child after the arrow, comments left out.  Taking the lookup away leaves the return type as it is
exactly when the first named child after the arrow tells it.  A subscript then stays as it is and so
does a function, and otherwise neither does; a function with a fault keeps its fault. -/
theorem return_type_after_arrow_iff (layout : node.ReturnsAfterArrow source type) :
    (returnType? source (node.withoutLookup "return_type") = returnType? source node ↔
      node.ArrowTells source type) ∧
    (Subscript.ofNode source (node.withoutLookup "return_type") = Subscript.ofNode source node ↔
      node.ArrowTells source type) ∧
    (∀ record, Function.ofNode source node = .ok record →
      (Function.ofNode source (node.withoutLookup "return_type") = .ok record ↔
        node.ArrowTells source type)) ∧
    ∀ fault, Function.ofNode source node = .error fault →
      Function.ofNode source (node.withoutLookup "return_type") = .error fault := by
  have agree := returnType?_withoutLookup_eq_iff layout
  refine ⟨agree, ?_, ?_, ?_⟩
  · rw [← agree, subscript_withoutLookup]
    constructor
    · intro same
      exact congrArg Subscript.returnType same
    · intro same
      rw [same]
      rfl
  · intro record read
    rw [← agree, function_withoutLookup _ _ _ (by decide), read, ← Function.output_ofNode read]
    constructor
    · intro same
      injection same with same
      exact congrArg (·.signature.output) same
    · intro same
      rw [Except.map, same]
  · intro fault failed
    rw [function_withoutLookup _ _ _ (by decide), failed]
    rfl

/-- The text of `spacedFunction`. -/
def spacedFunctionText : String :=
  "func f() /**/ -> Int /**/ {}"

/-- A function with a comment before its arrow and one after its return type. -/
def spacedFunction : Node :=
  .rule "function_declaration" 0 28 []
    [.token "func" 0 4 [], .rule "simple_identifier" 5 6 ["name"] [], .token "(" 6 7 [],
     .token ")" 7 8 [], .rule "multiline_comment" 9 13 [] [], .token "->" 14 16 [],
     .rule "user_type" 17 20 ["return_type"] [], .rule "multiline_comment" 21 25 [] [],
     .rule "function_body" 26 28 ["body"] []]

/-- Comments that do not stand between the arrow and the type do no harm. -/
theorem output_of_spacedFunction :
    spacedFunction.ReturnsAfterArrow spacedFunctionText
      (.rule "user_type" 17 20 ["return_type"] []) ∧
    returnType? spacedFunctionText spacedFunction = some "Int" ∧
    returnType? spacedFunctionText (spacedFunction.withoutLookup "return_type") = some "Int" := by
  have layout : spacedFunction.ReturnsAfterArrow spacedFunctionText
      (.rule "user_type" 17 20 ["return_type"] []) :=
    ⟨rfl, by rfl, "Int", by decide +kernel, by decide⟩
  have tells : spacedFunction.ArrowTells spacedFunctionText
      (.rule "user_type" 17 20 ["return_type"] []) := by
    have uncommented : spacedFunction.arrowComments = [] := by rfl
    rw [Node.ArrowTells, uncommented]
    exact ⟨by simp, fun _ => by decide⟩
  have read : returnType? spacedFunctionText spacedFunction = some "Int" := by decide +kernel
  obtain ⟨unchanged, -⟩ := return_type_after_arrow_iff layout
  exact ⟨layout, read, (unchanged.mpr tells).trans read⟩

/-- The text of `commentedFunction`. -/
def commentedFunctionText : String :=
  "func f() -> /**/ Int {}"

/-- A function with a comment between its arrow and its return type. -/
def commentedFunction : Node :=
  .rule "function_declaration" 0 23 []
    [.token "func" 0 4 [], .rule "simple_identifier" 5 6 ["name"] [], .token "(" 6 7 [],
     .token ")" 7 8 [], .token "->" 9 11 [], .rule "multiline_comment" 12 16 [] [],
     .rule "user_type" 17 20 ["return_type"] [], .rule "function_body" 21 23 ["body"] []]

/-- Without the lookup the comment is taken for the return type. -/
theorem output_of_commentedFunction :
    commentedFunction.ReturnsAfterArrow commentedFunctionText
      (.rule "user_type" 17 20 ["return_type"] []) ∧
    returnType? commentedFunctionText commentedFunction = some "Int" ∧
    returnType? commentedFunctionText (commentedFunction.withoutLookup "return_type") =
      some "/**/" := by
  have layout : commentedFunction.ReturnsAfterArrow commentedFunctionText
      (.rule "user_type" 17 20 ["return_type"] []) :=
    ⟨rfl, by rfl, "Int", by decide +kernel, by decide⟩
  exact ⟨layout, by decide +kernel, by decide +kernel⟩

end Synopsis
