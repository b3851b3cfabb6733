/-
Module: Synopsis.Proofs.Positions
Purpose: Records carry no positions.  A collection depends on the source only through the texts of
  the nodes and, for the type of a parameter, through the text between two of its children.  So a
  tree may stand anywhere in a source, with any blanks at the edges of its nodes.
Main exports:
  Row.unplaced, spanBetween?, Relocated, Node.shift, relocated_shift, collect_ignores_positions
-/
import Synopsis.Proofs.CorrespondingCollections

namespace Synopsis

/-- A row without its offsets. -/
def Row.unplaced (row : Row) : Row :=
  { row with start := 0, stop := 0 }

/-- The text from the node at one address to the node at another. -/
def spanBetween? (source : String) (root : Node) (first last : List Nat) : Option String := do
  spanText? source (← root.at? first) (← root.at? last)

/-- Two trees, each with its source, that differ at most in where their nodes stand: nodes at the
same address say the same about themselves and have the same text, if any, and the texts between
two children of a parameter are the same. -/
structure Relocated (source source' : String) (root root' : Node) : Prop where
  rows : ∀ address, (root'.at? address).map (·.row.unplaced) =
    (root.at? address).map (·.row.unplaced)
  texts : ∀ address, (root'.at? address).map (Node.text? source') =
    (root.at? address).map (Node.text? source)
  spans : ∀ address, (root.at? address).any (·.kind == "parameter") = true → ∀ first last : Nat,
    spanBetween? source' root' (address ++ [first]) (address ++ [last]) =
      spanBetween? source root (address ++ [first]) (address ++ [last])

theorem at?_eq_none_of_not_mem {root root' : Node} {address : List Nat}
    (absent : address ∉ root.addresses ++ root'.addresses) :
    root.at? address = none ∧ root'.at? address = none := by
  rw [List.mem_append, Node.mem_addresses_iff, Node.mem_addresses_iff] at absent
  simpa using absent

/-- Two trees are compared at their own addresses, of which there are finitely many. -/
theorem Relocated.of_addresses {source source' : String} {root root' : Node}
    (rows : ∀ address ∈ root.addresses ++ root'.addresses,
      (root'.at? address).map (·.row.unplaced) = (root.at? address).map (·.row.unplaced))
    (texts : ∀ address ∈ root.addresses ++ root'.addresses,
      (root'.at? address).map (Node.text? source') = (root.at? address).map (Node.text? source))
    (spans : ∀ first ∈ root.addresses ++ root'.addresses,
      ∀ last ∈ root.addresses ++ root'.addresses, first.dropLast = last.dropLast →
        (root.at? first.dropLast).any (·.kind == "parameter") = true →
          spanBetween? source' root' first last = spanBetween? source root first last) :
    Relocated source source' root root' where
  rows address := by
    by_cases member : address ∈ root.addresses ++ root'.addresses
    · exact rows address member
    · obtain ⟨absent, absent'⟩ := at?_eq_none_of_not_mem member
      simp [absent, absent']
  texts address := by
    by_cases member : address ∈ root.addresses ++ root'.addresses
    · exact texts address member
    · obtain ⟨absent, absent'⟩ := at?_eq_none_of_not_mem member
      simp [absent, absent']
  spans address isParameter first last := by
    by_cases firstMember : address ++ [first] ∈ root.addresses ++ root'.addresses
    · by_cases lastMember : address ++ [last] ∈ root.addresses ++ root'.addresses
      · exact spans _ firstMember _ lastMember (by simp) (by simpa using isParameter)
      · obtain ⟨absent, absent'⟩ := at?_eq_none_of_not_mem lastMember
        simp [spanBetween?, absent, absent']
    · obtain ⟨absent, absent'⟩ := at?_eq_none_of_not_mem firstMember
      simp [spanBetween?, absent, absent']

/-- Two nodes that stand at the same address. -/
def SameAddress (root root' left right : Node) : Prop :=
  ∃ address, root.at? address = some left ∧ root'.at? address = some right

theorem Node.at?_child {root node : Node} {address : List Nat}
    (found : root.at? address = some node) (index : Nat) :
    root.at? (address ++ [index]) = node.children[index]? := by
  rw [Node.at?_append, found, Option.bind_some, Node.at?]
  exact Option.bind_fun_some _

namespace Relocated

variable {source source' : String} {root root' left right : Node}
  (relocated : Relocated source source' root root')

include relocated

theorem row_unplaced (same : SameAddress root root' left right) :
    right.row.unplaced = left.row.unplaced := by
  obtain ⟨address, leftEq, rightEq⟩ := same
  have rows := relocated.rows address
  rw [leftEq, rightEq] at rows
  exact Option.some.inj rows

theorem text_eq (same : SameAddress root root' left right) :
    right.text? source' = left.text? source := by
  obtain ⟨address, leftEq, rightEq⟩ := same
  have texts := relocated.texts address
  rw [leftEq, rightEq] at texts
  exact Option.some.inj texts

/-- Children of the same number stand at the same address. -/
theorem children_aligned (same : SameAddress root root' left right) :
    Aligned (fun one other => SameAddress root root' one other ∧
        ∃ index : Nat, left.children[index]? = some one ∧ right.children[index]? = some other)
      left.children right.children := by
  obtain ⟨address, leftEq, rightEq⟩ := same
  apply Aligned.of_getElem?
  · intro index
    have rows := congrArg Option.isSome (relocated.rows (address ++ [index]))
    rw [Node.at?_child leftEq, Node.at?_child rightEq] at rows
    simpa using rows
  · intro index one other oneEq otherEq
    refine ⟨⟨address ++ [index], ?_, ?_⟩, index, oneEq, otherEq⟩
    · rw [Node.at?_child leftEq, oneEq]
    · rw [Node.at?_child rightEq, otherEq]

theorem alike : Alike source source' (fun _ => False) (SameAddress root root') where
  extra := False.elim
  kind same := (congrArg Row.kind (relocated.row_unplaced same) :)
  named same := (congrArg Row.named (relocated.row_unplaced same) :)
  field same := (congrArg Row.field (relocated.row_unplaced same) :)
  lookups same := (congrArg Row.lookups (relocated.row_unplaced same) :)
  text same := relocated.text_eq same
  children same _ := (relocated.children_aligned same).imp And.left

theorem spanText?_eq (same : SameAddress root root' left right)
    (isParameter : left.kind = "parameter") {first last : Nat} {one one' other other' : Node}
    (oneEq : left.children[first]? = some one) (oneEq' : right.children[first]? = some one')
    (otherEq : left.children[last]? = some other) (otherEq' : right.children[last]? = some other') :
    spanText? source' one' other' = spanText? source one other := by
  obtain ⟨address, leftEq, rightEq⟩ := same
  have spans := relocated.spans address (by simp [leftEq, isParameter]) first last
  simpa [spanBetween?, Node.at?_child leftEq, Node.at?_child rightEq, oneEq, oneEq', otherEq,
    otherEq'] using spans

theorem thorough : Thorough source source' (fun _ => False) (SameAddress root root') where
  toAlike := relocated.alike
  below same := (relocated.children_aligned same).imp And.left
  parameterType := by
    intro left right same isParameter
    refine relocated.alike.parameterType?_eq_of_narrower And.left
      (relocated.children_aligned same) ?_
    rintro one one' other other' ⟨-, first, oneEq, oneEq'⟩ ⟨-, last, otherEq, otherEq'⟩
    exact relocated.spanText?_eq same isParameter oneEq oneEq' otherEq otherEq'

theorem collect_eq (selector : Selector) :
    collect source' selector root' = collect source selector root := by
  refine relocated.thorough.collect_eq ⟨[], rfl, rfl⟩ selector ?_
  intro left right same _ _
  exact relocated.thorough.returnType?_eq_of_no_extra (relocated.thorough.matching same) id

end Relocated

/-! ### Trees behind other text -/

namespace Node

mutual

/-- The tree with every node so many bytes further on. -/
def shift (distance : Nat) : Node → Node
  | mk row children =>
      mk { row with start := distance + row.start, stop := distance + row.stop }
        (shiftAll distance children)

/-- Several trees, each so many bytes further on. -/
def shiftAll (distance : Nat) : List Node → List Node
  | [] => []
  | node :: nodes => shift distance node :: shiftAll distance nodes

end

theorem shiftAll_eq_map (distance : Nat) (nodes : List Node) :
    shiftAll distance nodes = nodes.map (shift distance) := by
  induction nodes with
  | nil => rw [shiftAll, List.map_nil]
  | cons node rest inductionHypothesis => rw [shiftAll, inductionHypothesis, List.map_cons]

theorem row_shift (distance : Nat) (node : Node) :
    (node.shift distance).row =
      { node.row with start := distance + node.row.start, stop := distance + node.row.stop } := by
  cases node with
  | mk row children => rw [shift, Node.row, Node.row]

theorem children_shift (distance : Nat) (node : Node) :
    (node.shift distance).children = node.children.map (shift distance) := by
  cases node with
  | mk row children => rw [shift, Node.children, Node.children, shiftAll_eq_map]

theorem at?_shift (distance : Nat) (node : Node) (address : List Nat) :
    (node.shift distance).at? address = (node.at? address).map (shift distance) := by
  induction address generalizing node with
  | nil => rfl
  | cons index rest inductionHypothesis =>
      rw [at?, at?, children_shift, List.getElem?_map]
      cases node.children[index]? with
      | none => rfl
      | some child => exact inductionHypothesis child

end Node

theorem decode?_append (front source : String) (start stop : Nat) :
    decode? (front ++ source) (front.utf8ByteSize + start) (front.utf8ByteSize + stop) =
      decode? source start stop := by
  rw [decode?, decode?, String.toUTF8_eq_toByteArray, String.toUTF8_eq_toByteArray,
    String.toByteArray_append, ← String.size_toByteArray, ByteArray.extract_append_size_add]

theorem pos?_eq_some_iff {source : String} {offset : String.Pos.Raw} {pos : source.Pos} :
    source.pos? offset = some pos ↔ pos.offset = offset := by
  rw [String.pos?, String.Slice.pos?]
  split
  · rw [Option.map_some, Option.some.injEq, String.Pos.ext_iff]
    exact eq_comm
  · next invalid =>
      constructor
      · intro found
        cases found
      · rintro rfl
        simp [String.Pos.Raw.isValidForSlice_eq_true_iff, pos.isValid] at invalid

/-- A cut of the source is there exactly when both ends are character boundaries in ascending order,
and then it is the bytes between them. -/
theorem slice?_eq_some_iff {source text : String} {start stop : Nat} :
    slice? source start stop = some text ↔
      (String.Pos.Raw.mk start).IsValid source ∧ (String.Pos.Raw.mk stop).IsValid source ∧
        start ≤ stop ∧ text.toByteArray = source.toByteArray.extract start stop := by
  simp only [slice?, Option.bind_eq_bind, Option.bind_eq_some_iff, pos?_eq_some_iff]
  constructor
  · rintro ⟨first, firstEq, last, lastEq, cut⟩
    split at cut
    · next ordered =>
        cases cut
        rw [String.toByteArray_extract, firstEq, lastEq]
        exact ⟨firstEq ▸ first.isValid, lastEq ▸ last.isValid, ordered, rfl⟩
    · cases cut
  · rintro ⟨validStart, validStop, ordered, bytes⟩
    refine ⟨source.pos _ validStart, rfl, source.pos _ validStop, rfl, ?_⟩
    rw [if_pos ordered, Option.some.injEq, ← String.toByteArray_inj, bytes]
    rfl

theorem isValid_append_iff (front source : String) (offset : Nat) :
    (String.Pos.Raw.mk (front.utf8ByteSize + offset)).IsValid (front ++ source) ↔
      (String.Pos.Raw.mk offset).IsValid source := by
  have back :
      String.Pos.Raw.mk (front.utf8ByteSize + offset) - front = String.Pos.Raw.mk offset := by
    simp [String.Pos.Raw.ext_iff]
  rw [String.Pos.Raw.isValid_append, back]
  constructor
  · rintro (inFront | ⟨-, valid⟩)
    · -- A boundary of the front at or behind its end is its end.
      have atEnd : offset = 0 := by
        have := inFront.le_utf8ByteSize
        simp at this
        omega
      subst atEnd
      exact String.Pos.Raw.isValid_zero
    · exact valid
  · intro valid
    exact .inr ⟨by simp [String.Pos.Raw.le_iff], valid⟩

theorem slice?_append (front source : String) (start stop : Nat) :
    slice? (front ++ source) (front.utf8ByteSize + start) (front.utf8ByteSize + stop) =
      slice? source start stop := by
  apply Option.ext
  intro text
  rw [slice?_eq_some_iff, slice?_eq_some_iff, isValid_append_iff, isValid_append_iff,
    String.toByteArray_append, ← String.size_toByteArray, ByteArray.extract_append_size_add,
    Nat.add_le_add_iff_left]

theorem text?_shift (front source : String) (node : Node) :
    (node.shift front.utf8ByteSize).text? (front ++ source) = node.text? source := by
  rw [Node.text?, Node.text?, Node.row_shift, decode?_append]

theorem spanText?_shift (front source : String) (first last : Node) :
    spanText? (front ++ source) (first.shift front.utf8ByteSize) (last.shift front.utf8ByteSize) =
      spanText? source first last := by
  rw [spanText?, spanText?, Node.row_shift, Node.row_shift, slice?_append]

/-- A tree behind other text is the tree in another place. -/
theorem relocated_shift (front source : String) (root : Node) :
    Relocated source (front ++ source) root (root.shift front.utf8ByteSize) where
  rows address := by
    rw [Node.at?_shift]
    cases root.at? address with
    | none => rfl
    | some node => simp [Node.row_shift, Row.unplaced]
  texts address := by
    rw [Node.at?_shift]
    cases root.at? address with
    | none => rfl
    | some node => simp [text?_shift]
  spans address _ first last := by
    rw [spanBetween?, spanBetween?, Node.at?_shift, Node.at?_shift]
    cases root.at? (address ++ [first]) with
    | none => rfl
    | some one =>
        cases root.at? (address ++ [last]) with
        | none => rfl
        | some other => exact spanText?_shift front source one other

/-- What is collected does not depend on where things stand.  Two trees that differ at most in the
offsets of their nodes, with the same texts under the nodes and between the children of parameters,
give the same records or the same fault; in particular a tree gives the same behind any text. -/
theorem collect_ignores_positions (source : String) (root : Node) (selector : Selector) :
    (∀ source' root', Relocated source source' root root' →
      collect source' selector root' = collect source selector root) ∧
    (∀ front : String,
      collect (front ++ source) selector (root.shift front.utf8ByteSize) =
        collect source selector root) := by
  refine ⟨fun source' root' relocated => relocated.collect_eq selector, ?_⟩
  intro front
  exact (relocated_shift front source root).collect_eq selector

/-- The tree of `func f(a: Int)` from an offset on, with some blanks more in the node of its name
and in the whole. -/
def unaryFunction (start inName inAll : Nat) : Node :=
  .rule "source_file" (start - inAll) (start + 14 + inAll) []
    [.rule "function_declaration" start (start + 14) []
      [.token "func" start (start + 4) [],
       .rule "simple_identifier" (start + 5 - inName) (start + 6) ["name"] [],
       .rule "parameter" (start + 7) (start + 13) []
        [.rule "simple_identifier" (start + 7) (start + 8) ["name"] [],
         .token ":" (start + 8) (start + 9) [],
         .rule "user_type" (start + 10) (start + 13) [] []]]]

/-- Moving a function and widening nodes by blanks leaves its record alone. -/
theorem collect_of_moved_unaryFunction :
    Relocated "func f(a: Int)" "é  func f(a: Int)\t " (unaryFunction 0 0 0) (unaryFunction 4 1 2) ∧
    collect "é  func f(a: Int)\t " .any (unaryFunction 4 1 2) =
      .ok
        [.function
          { attributes := [], modifiers := [], keyword := "func", name := "f",
            genericParameters := [],
            signature :=
              { input :=
                  [{ firstName := some "a", secondName := none, typeName := some "Int",
                     variadic := false, defaultArgument := none }],
                output := none, throwsKeyword := none, isAsync := false },
            genericRequirements := [] }] := by
  have relocated : Relocated "func f(a: Int)" "é  func f(a: Int)\t " (unaryFunction 0 0 0)
      (unaryFunction 4 1 2) := by
    apply Relocated.of_addresses
    · decide +kernel
    · decide +kernel
    · decide +kernel
  refine ⟨relocated, ?_⟩
  rw [(collect_ignores_positions _ _ _).1 _ _ relocated]
  decide +kernel

end Synopsis
