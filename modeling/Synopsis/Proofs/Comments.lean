/-
Module: Synopsis.Proofs.Comments
Purpose: Comments never change what is collected.  A tree with comments put between any of its
  nodes looks like the tree without them to every reading but one: the return type after an arrow
  is searched among all named children when no field tells it.
Main exports:
  CommentsAdded, Node.StatesReturn, collect_ignores_comments
-/
import Synopsis.Proofs.CorrespondingCollections

namespace Synopsis

/-- The second tree is the first with comments put among the children of its nodes, at any depth and
with any offsets. -/
inductive CommentsAdded : Node → Node → Prop where
  | mk (row : Row) {children children' : List Node}
      (inside : Interleaved Node.BareComment CommentsAdded children children') :
      CommentsAdded (.mk row children) (.mk row children')

/-- The nodes whose return type is read. -/
def arrowDeclarations : List String :=
  ["function_declaration", "protocol_function_declaration", "subscript_declaration"]

/-- A declaration with an arrow has a return type under its field, as the grammar lays it out. -/
def Node.StatesReturn (source : String) (node : Node) : Prop :=
  node.kind ∈ arrowDeclarations → node.hasToken "->" = true →
    (node.lookupText? source "return_type").isSome = true

instance (source : String) (node : Node) : Decidable (node.StatesReturn source) :=
  inferInstanceAs (Decidable (_ → _))

namespace CommentsAdded

variable {left right : Node}

theorem row_eq (added : CommentsAdded left right) : right.row = left.row := by
  cases added with
  | mk row inside => rfl

theorem children (added : CommentsAdded left right) :
    Interleaved Node.BareComment CommentsAdded left.children right.children := by
  cases added with
  | mk row inside => exact inside

mutual

/-- A tree is itself with no comments added. -/
theorem refl : ∀ node : Node, CommentsAdded node node
  | .mk row children => .mk row (refl_all children)

theorem refl_all : ∀ nodes : List Node, Interleaved Node.BareComment CommentsAdded nodes nodes
  | [] => .nil
  | node :: nodes => .cons (refl node) (refl_all nodes)

end

theorem alike (source : String) : Alike source source Node.BareComment CommentsAdded where
  extra comment := comment
  kind added := congrArg Row.kind added.row_eq
  named added := congrArg Row.named added.row_eq
  field added := congrArg Row.field added.row_eq
  lookups added := congrArg Row.lookups added.row_eq
  text added := by rw [Node.text?, Node.text?, added.row_eq]
  children added _ := added.children

theorem thorough (source : String) : Thorough source source Node.BareComment CommentsAdded where
  toAlike := alike source
  below := children
  parameterType := by
    intro left right added isParameter
    have pair := (alike source).inside ⟨added, isParameter⟩ rfl
    refine (alike source).parameterType?_eq pair fun first last => ?_
    rw [spanText?, spanText?, first.row_eq, last.row_eq]

end CommentsAdded

theorem kind_of_returns {source : String} {node : Node}
    (callable : Kind.ofNode? source node = some .function ∨
      Kind.ofNode? source node = some .subscript) : node.kind ∈ arrowDeclarations := by
  unfold Kind.ofNode? at callable
  split at callable
  · rcases callable with read | read
    · simpa using kind_of_typeKeyword read
    · simpa using kind_of_typeKeyword read
  all_goals simp_all [arrowDeclarations]

/-- Comments never change the extracted records or the fault, whatever a collection takes. -/
theorem collect_ignores_comments {source : String} {root root' : Node}
    (added : CommentsAdded root root') (stated : ∀ node ∈ root.preorder, node.StatesReturn source)
    (selector : Selector) : collect source selector root' = collect source selector root := by
  have thorough := CommentsAdded.thorough source
  refine thorough.collect_eq added selector ?_
  intro left right related member callable
  have pair := thorough.matching related
  exact thorough.returnType?_eq_of_stated pair (stated left member (kind_of_returns callable))

-- Without the condition a comment after a bare arrow is taken for the return type.
example :
    collect "func f() -> /* b */" (.only .function)
      (.rule "function_declaration" 0 19 []
        [.token "func" 0 4 [], .rule "simple_identifier" 5 6 ["name"] [], .token "->" 9 11 []]) ≠
    collect "func f() -> /* b */" (.only .function)
      (.rule "function_declaration" 0 19 []
        [.token "func" 0 4 [], .rule "simple_identifier" 5 6 ["name"] [], .token "->" 9 11 [],
         .rule "multiline_comment" 12 19 [] []]) := by
  decide +kernel

/-- A block comment from one offset to another. -/
def blockComment (start stop : Nat) : Node :=
  .rule "multiline_comment" start stop [] []

theorem bareComment_blockComment (start stop : Nat) : (blockComment start stop).BareComment :=
  ⟨rfl, rfl, rfl, rfl, rfl⟩

/-- The text of `arrowFunction`. -/
def arrowFunctionText : String :=
  "func f() /* a */ -> /* b */ Int \x7b /* c */ \x7d"

/-- The tree of a function with an arrow, given the nodes before its arrow, after it and in its
body. -/
def arrowFunction (before after inside : List Node) : Node :=
  .rule "source_file" 0 43 []
    [.rule "function_declaration" 0 43 []
      ([.token "func" 0 4 [], .rule "simple_identifier" 5 6 ["name"] [], .token "(" 6 7 [],
        .token ")" 7 8 []] ++ before ++ [.token "->" 17 19 []] ++ after ++
        [.rule "user_type" 28 31 ["return_type"] [],
         .rule "function_body" 32 43 ["body"] inside])]

/-- Comments on both sides of an arrow and in the body leave the record of the function alone. -/
theorem collect_of_commented_arrowFunction :
    CommentsAdded (arrowFunction [] [] [])
      (arrowFunction [blockComment 9 16] [blockComment 20 27] [blockComment 34 41]) ∧
    (∀ node ∈ (arrowFunction [] [] []).preorder, node.StatesReturn arrowFunctionText) ∧
    collect arrowFunctionText .any
      (arrowFunction [blockComment 9 16] [blockComment 20 27] [blockComment 34 41]) =
      .ok
        [.function
          { attributes := [], modifiers := [], keyword := "func", name := "f",
            genericParameters := [],
            signature :=
              { input := [], output := some "Int", throwsKeyword := none, isAsync := false },
            genericRequirements := [] }] := by
  have added : CommentsAdded (arrowFunction [] [] [])
      (arrowFunction [blockComment 9 16] [blockComment 20 27] [blockComment 34 41]) := by
    have comment := bareComment_blockComment
    refine .mk _ (.cons (.mk _ ?_) .nil)
    refine ((((CommentsAdded.refl_all _).append (.extra (comment 9 16) .nil)).append
      (CommentsAdded.refl_all _)).append (.extra (comment 20 27) .nil)).append ?_
    exact .cons (.refl _) (.cons (.mk _ (.extra (comment 34 41) .nil)) .nil)
  have stated : ∀ node ∈ (arrowFunction [] [] []).preorder,
      node.StatesReturn arrowFunctionText := by
    decide +kernel
  refine ⟨added, stated, ?_⟩
  rw [collect_ignores_comments added stated]
  decide +kernel

end Synopsis
