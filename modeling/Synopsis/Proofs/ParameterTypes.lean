/-
Module: Synopsis.Proofs.ParameterTypes
Purpose: The type of a parameter as it stands in the source.  It is read from the first named child
  after the colon to the last named one, so it is whole exactly when nothing but blanks belongs to
  the tokens after that.
Main exports:
  Node.isTypePiece, TypePieces, TypePieces.typeName_eq, slice?_append_append,
  parameter_type_whole_iff
-/
import Synopsis.Proofs.Positions
import Synopsis.Proofs.Trimming

namespace Synopsis

open Text

/-! ### The children that make up a type -/

/-- Whether a child after the colon of a parameter belongs to its type: comments, further colons and
the mark of a variadic parameter do not. -/
def Node.isTypePiece (node : Node) : Bool :=
  !node.isComment && !node.isToken ":" && !node.isEllipsis

/-- The children of a parameter node that make up its type, tokens included: those after its first
colon. -/
def TypePieces (node : Node) (pieces : List Node) : Prop :=
  ∃ before colon rest, node.children = before ++ colon :: rest ∧
    (∀ child ∈ before, child.isToken ":" = false) ∧ colon.isToken ":" = true ∧
    pieces = rest.filter Node.isTypePiece

/-- The named pieces of a type are those from which it is read. -/
theorem filter_named_isTypePiece (nodes : List Node) :
    (nodes.filter Node.isTypePiece).filter Node.named = nodes.filter Node.isParameterPart := by
  rw [List.filter_filter]
  apply List.filter_congr
  intro node _
  rw [Node.isTypePiece, Node.isParameterPart, Node.isPart, Node.isToken]
  cases node.named <;> simp

theorem TypePieces.filter_named {node : Node} {pieces : List Node}
    (typed : TypePieces node pieces) :
    pieces.filter Node.named = (node.after ":").filter Node.isParameterPart := by
  obtain ⟨before, colon, rest, children, noColon, isColon, rfl⟩ := typed
  have after : node.after ":" = rest := by
    rw [Node.after, children, List.dropWhile_append_of_pos (by simpa using noColon),
      List.dropWhile_cons_of_neg (by simp [isColon])]
    rfl
  rw [filter_named_isTypePiece, after]

/-- A type is read from its first piece, if that is named, to its last named one. -/
theorem TypePieces.typeName_eq {node first kept : Node} {pieces : List Node}
    (typed : TypePieces node pieces) (begins : pieces.head? = some first)
    (named : first.named = true) (keeps : (pieces.filter Node.named).getLast? = some kept)
    (source : String) (default? : Option Node) :
    (Parameter.ofNode source node default?).typeName = spanText? source first kept := by
  have head : (pieces.filter Node.named).head? = some first := by
    obtain ⟨others, rfl⟩ := List.head?_eq_some_iff.mp begins
    rw [List.filter_cons_of_pos named, List.head?_cons]
  rw [Parameter.ofNode, parameterType?, ← typed.filter_named, head, keeps]
  rfl

/-! ### Types in a source -/

/-- A part of a source is cut out between its ends. -/
theorem slice?_append_append (front text back : String) :
    slice? (front ++ text ++ back) front.utf8ByteSize (front ++ text).utf8ByteSize = some text := by
  have here : slice? (text ++ back) 0 text.utf8ByteSize = some text := by
    have atEnd := (isValid_append_iff text back 0).mpr String.Pos.Raw.isValid_zero
    refine slice?_eq_some_iff.mpr ⟨String.Pos.Raw.isValid_zero, atEnd, Nat.zero_le _, ?_⟩
    rw [String.toByteArray_append, ByteArray.extract_append_eq_left String.size_toByteArray.symm]
  have moved := slice?_append front (text ++ back) 0 text.utf8ByteSize
  rw [String.append_assoc, String.utf8ByteSize_append]
  exact moved.trans here

theorem spanText?_of_ends {first last : Node} {front text back : String}
    (starts : first.row.start = front.utf8ByteSize)
    (stops : last.row.stop = (front ++ text).utf8ByteSize) :
    spanText? (front ++ text ++ back) first last = some (trimmed text) := by
  rw [spanText?, starts, stops, slice?_append_append]
  rfl

/-- Some text at the end of a type is trimmed away exactly when it is all blanks. -/
theorem trimmed_append_eq_iff {held lost : String} :
    trimmed held = trimmed (held ++ lost) ↔ ∀ c ∈ lost.toList, isBlank c = true := by
  rw [trimmed, trimmed, String.ofList_inj, String.toList_append, eq_comm, trim_append_eq_iff]

/-- Let the pieces of the type of a parameter begin with a named one, and let the source from the
start of the first piece to the end of the last one be `text`.  If the last piece is named, the type
is that text, trimmed.  Where the last named piece ends somewhere in the text, the type is the text
up to there, and that is the whole text exactly when nothing but blanks follows. -/
theorem parameter_type_whole_iff {node first last : Node} {pieces : List Node}
    (typed : TypePieces node pieces) (begins : pieces.head? = some first)
    (named : first.named = true) (ends : pieces.getLast? = some last)
    {source front text back : String} (split : source = front ++ text ++ back)
    (starts : first.row.start = front.utf8ByteSize)
    (stops : last.row.stop = (front ++ text).utf8ByteSize) (default? : Option Node) :
    (last.named = true →
      (Parameter.ofNode source node default?).typeName = some (trimmed text)) ∧
    ∃ kept, (pieces.filter Node.named).getLast? = some kept ∧
      ∀ held lost, text = held ++ lost → kept.row.stop = (front ++ held).utf8ByteSize →
        (Parameter.ofNode source node default?).typeName = some (trimmed held) ∧
        ((Parameter.ofNode source node default?).typeName = some (trimmed text) ↔
          ∀ c ∈ lost.toList, isBlank c = true) := by
  subst split
  constructor
  · intro lastNamed
    have keeps : (pieces.filter Node.named).getLast? = some last := by
      obtain ⟨others, rfl⟩ := List.getLast?_eq_some_iff.mp ends
      rw [List.filter_append, List.filter_cons_of_pos lastNamed, List.filter_nil,
        List.getLast?_concat]
    rw [typed.typeName_eq begins named keeps, spanText?_of_ends starts stops]
  · have inside : first ∈ pieces.filter Node.named :=
      List.mem_filter.mpr ⟨List.mem_of_head? begins, named⟩
    have keeps := List.getLast?_eq_some_getLast (List.ne_nil_of_mem inside)
    refine ⟨_, keeps, ?_⟩
    rintro held lost rfl keptStops
    have parts : front ++ (held ++ lost) ++ back = front ++ held ++ (lost ++ back) := by
      simp only [String.append_assoc]
    have read : (Parameter.ofNode (front ++ (held ++ lost) ++ back) node default?).typeName =
        some (trimmed held) := by
      rw [typed.typeName_eq begins named keeps, parts, spanText?_of_ends starts keptStops]
    refine ⟨read, ?_⟩
    rw [read, Option.some.injEq, trimmed_append_eq_iff]

/-- The text of `modifiedParameter`. -/
def modifiedParameterText : String :=
  "x: inout é..."

/-- A variadic parameter with a modifier before its type. -/
def modifiedParameter : Node :=
  .rule "parameter" 0 14 []
    [.rule "simple_identifier" 0 1 ["name"] [], .token ":" 1 2 [],
     .rule "parameter_modifiers" 3 8 [] [], .rule "user_type" 9 11 ["type"] [],
     .token "..." 11 14 []]

/-- The modifier belongs to the type and the mark does not. -/
theorem type_of_modifiedParameter :
    TypePieces modifiedParameter
      [.rule "parameter_modifiers" 3 8 [] [], .rule "user_type" 9 11 ["type"] []] ∧
    modifiedParameterText = "x: " ++ "inout é" ++ "..." ∧
    (Parameter.ofNode modifiedParameterText modifiedParameter none).typeName = some "inout é" := by
  have typed : TypePieces modifiedParameter
      [.rule "parameter_modifiers" 3 8 [] [], .rule "user_type" 9 11 ["type"] []] :=
    ⟨[.rule "simple_identifier" 0 1 ["name"] []], .token ":" 1 2 [], _, rfl, by decide, rfl, rfl⟩
  have split : modifiedParameterText = "x: " ++ "inout é" ++ "..." := by decide
  obtain ⟨whole, -⟩ :=
    parameter_type_whole_iff typed rfl rfl rfl split (by decide) (by decide) none
  have text : trimmed "inout é" = "inout é" := by decide +kernel
  refine ⟨typed, split, ?_⟩
  rw [whole rfl, text]

/-- The text of `unwrappedParameter`. -/
def unwrappedParameterText : String :=
  "x: Int!"

/-- A parameter whose type is implicitly unwrapped. -/
def unwrappedParameter : Node :=
  .rule "parameter" 0 7 []
    [.rule "simple_identifier" 0 1 ["name"] [], .token ":" 1 2 [],
     .rule "user_type" 3 6 ["type"] [], .token "!" 6 7 []]

/-- The mark of an implicitly unwrapped type is lost. -/
theorem type_of_unwrappedParameter :
    TypePieces unwrappedParameter [.rule "user_type" 3 6 ["type"] [], .token "!" 6 7 []] ∧
    slice? unwrappedParameterText 3 7 = some "Int!" ∧
    (Parameter.ofNode unwrappedParameterText unwrappedParameter none).typeName = some "Int" := by
  have typed : TypePieces unwrappedParameter
      [.rule "user_type" 3 6 ["type"] [], .token "!" 6 7 []] :=
    ⟨[.rule "simple_identifier" 0 1 ["name"] []], .token ":" 1 2 [], _, rfl, by decide, rfl, rfl⟩
  exact ⟨typed, by decide +kernel, by decide +kernel⟩

end Synopsis
