/-
Module: Synopsis.Proofs.AttributeNames
Purpose: Where the name of an attribute ends.  The name is the text of the type child, and the
  arguments are cut out of the whole text at its first parenthesis.  Both views agree on where the
  name ends exactly when no parenthesis stands in the name.
Main exports:
  Argument.letters, count_letters_arguments, attribute_arguments_after_name_iff
-/
import Synopsis.Proofs.AttributeTexts

namespace Synopsis

open Text

/-! ### The characters of arguments -/

/-- The characters of the label and the value of an argument. -/
def Argument.letters (argument : Argument) : List Char :=
  (argument.name.getD "").toList ++ argument.value.toList

/-- Reading an argument loses nothing but blanks and the colon after the label. -/
theorem Argument.count_letters_ofText {c : Char} (visible : isBlank c = false) (noColon : c ≠ ':')
    (text : List Char) : (ofText text).letters.count c = text.count c := by
  rcases ofText_cases text with unlabelled | ⟨label, value, split, -, -, read⟩
  · rw [unlabelled]
    simp [letters, count_trim visible]
  · rw [read, split, List.count_append, List.count_cons_of_ne noColon.symm]
    simp [letters, count_trim visible]

/-- The arguments of a text have as many opening parentheses as the text. -/
theorem count_letters_arguments (cs : List Char) :
    (((splitTopLevel cs).map Argument.ofText).flatMap Argument.letters).count '(' =
      cs.count '(' := by
  have visible : isBlank '(' = false := by decide
  have read : (splitTopLevel cs).map ((List.count '(' ∘ Argument.letters) ∘ Argument.ofText) =
      (splitTopLevel cs).map (List.count '(') :=
    List.map_congr_left fun piece _ => Argument.count_letters_ofText visible (by decide) piece
  rw [List.count_flatMap, List.map_map, read, ← List.count_flatten,
    count_flatten_splitTopLevel visible (by decide)]

/-- Texts with different numbers of opening parentheses have different arguments. -/
theorem arguments_ne_of_count_ne {cs ds : List Char} (differ : cs.count '(' ≠ ds.count '(') :
    (splitTopLevel cs).map Argument.ofText ≠ (splitTopLevel ds).map Argument.ofText := by
  intro same
  apply differ
  rw [← count_letters_arguments cs, same, count_letters_arguments ds]

/-! ### Names and what follows them -/

namespace Attribute

/-- A given name stands, whatever the text says. -/
theorem name_ofText (name : String) (text : List Char) : (ofText (some name) text).name = name := by
  rw [ofText]
  split <;> rfl

/-- A name is in one piece or has a first parenthesis. -/
theorem parenthesis_cases (name : List Char) :
    '(' ∉ name ∨ ∃ before after, name = before ++ '(' :: after ∧ '(' ∉ before := by
  by_cases inside : '(' ∈ name
  · obtain ⟨before, after, split, absent⟩ := List.eq_append_cons_of_mem inside
    exact .inr ⟨before, after, split, absent⟩
  · exact .inl inside

section

variable {name : List Char} (given : Option String)

/-- The argument list behind a name is read as it is written exactly when the name has no
parenthesis: the text after the first parenthesis of a name has one parenthesis more than the
argument list. -/
theorem arguments_ofText_eq_iff (inner : List Char) :
    (ofText given ('@' :: (name ++ '(' :: (inner ++ [')'])))).arguments =
        (splitTopLevel inner).map Argument.ofText ↔ '(' ∉ name := by
  constructor
  · intro same
    rcases parenthesis_cases name with absent | ⟨before, after, rfl, absent⟩
    · exact absent
    · have absentSign : '(' ∉ '@' :: before := by simp [absent]
      have read : ofText given ('@' :: ((before ++ '(' :: after) ++ '(' :: (inner ++ [')']))) =
          ofText given (('@' :: before) ++ '(' :: ((after ++ '(' :: inner) ++ [')'])) := by
        simp
      rw [read, ofText_append_cons absentSign, dropClosing_append] at same
      have more : (after ++ '(' :: inner).count '(' ≠ inner.count '(' := by
        rw [List.count_append, List.count_cons_self]
        omega
      exact absurd same (arguments_ne_of_count_ne more)
  · intro absent
    have absentSign : '(' ∉ '@' :: name := by simp [absent]
    rw [← List.cons_append, ofText_append_cons absentSign, dropClosing_append]

/-- A bare name is read without arguments exactly when no more than blanks and commas stand after
its first parenthesis, one parenthesis at its end apart. -/
theorem arguments_ofText_name_eq_nil_iff :
    (ofText given ('@' :: name)).arguments = [] ↔
      '(' ∉ name ∨ ∃ before after, name = before ++ '(' :: after ∧ '(' ∉ before ∧
        ∀ c ∈ dropClosing after, isBlank c = true ∨ c = ',' := by
  have opened : ∀ before after : List Char, '(' ∉ before →
      ((ofText given ('@' :: (before ++ '(' :: after))).arguments = [] ↔
        ∀ c ∈ dropClosing after, isBlank c = true ∨ c = ',') := by
    intro before after absent
    have absentSign : '(' ∉ '@' :: before := by simp [absent]
    rw [← List.cons_append, ofText_append_cons absentSign, List.map_eq_nil_iff,
      splitTopLevel_eq_nil_iff]
  constructor
  · intro none
    rcases parenthesis_cases name with absent | ⟨before, after, rfl, absent⟩
    · exact .inl absent
    · exact .inr ⟨before, after, rfl, absent, (opened before after absent).mp none⟩
  · rintro (absent | ⟨before, after, rfl, absent, empty⟩)
    · have absentSign : '(' ∉ '@' :: name := by simp [absent]
      rw [ofText_of_not_mem absentSign]
    · exact (opened before after absent).mpr empty

end

end Attribute

/-- An attribute node whose type child says `name` has that name.  Where its text is the name with
an argument list in parentheses after it, it has the arguments of that list exactly when no
parenthesis stands in the name.  Where its text is the name alone, it has no arguments exactly when
no parenthesis stands in the name, or no more than blanks and commas after the first one, a closing
parenthesis at the end apart. -/
theorem attribute_arguments_after_name_iff {source name : String} {node : Node}
    (typed : attributeType? source node = some name) :
    (∀ inner : String, node.text? source = some ("@" ++ name ++ "(" ++ inner ++ ")") →
      (Attribute.ofNode source node).name = name ∧
      ((Attribute.ofNode source node).arguments =
          (splitTopLevel inner.toList).map Argument.ofText ↔ '(' ∉ name.toList)) ∧
    (node.text? source = some ("@" ++ name) →
      (Attribute.ofNode source node).name = name ∧
      ((Attribute.ofNode source node).arguments = [] ↔
        '(' ∉ name.toList ∨ ∃ before after, name.toList = before ++ '(' :: after ∧ '(' ∉ before ∧
          ∀ c ∈ dropClosing after, isBlank c = true ∨ c = ',')) := by
  constructor
  · intro inner textEq
    have letters : ("@" ++ name ++ "(" ++ inner ++ ")").toList =
        '@' :: (name.toList ++ '(' :: (inner.toList ++ [')'])) := by
      simp
    rw [Attribute.ofNode_eq textEq, typed, letters]
    exact ⟨Attribute.name_ofText name _, Attribute.arguments_ofText_eq_iff _ inner.toList⟩
  · intro textEq
    have letters : ("@" ++ name).toList = '@' :: name.toList := by
      simp
    rw [Attribute.ofNode_eq textEq, typed, letters]
    exact ⟨Attribute.name_ofText name _, Attribute.arguments_ofText_name_eq_nil_iff _⟩

/-- The text of `genericWrapper`. -/
def genericWrapperText : String :=
  "@Wrapper<[Int]>(1, key: (a, b))"

/-- An attribute whose name has generic arguments, up to an offset. -/
def genericWrapper (stop : Nat) : Node :=
  .rule "attribute" 0 stop [] [.token "@" 0 1 [], .rule "user_type" 1 15 [] []]

/-- A name with generic arguments and an argument list with parentheses in it, and the same name
alone. -/
theorem arguments_of_genericWrapper :
    attributeType? genericWrapperText (genericWrapper 31) = some "Wrapper<[Int]>" ∧
    (Attribute.ofNode genericWrapperText (genericWrapper 31)).arguments =
      [{ name := none, value := "1" }, { name := some "key", value := "(a, b)" }] ∧
    attributeType? genericWrapperText (genericWrapper 15) = some "Wrapper<[Int]>" ∧
    (Attribute.ofNode genericWrapperText (genericWrapper 15)).arguments = [] := by
  have typed : attributeType? genericWrapperText (genericWrapper 31) = some "Wrapper<[Int]>" := by
    decide +kernel
  have typedAlone : attributeType? genericWrapperText (genericWrapper 15) =
      some "Wrapper<[Int]>" := by
    decide +kernel
  have listed := ((attribute_arguments_after_name_iff typed).1 "1, key: (a, b)"
    (by decide +kernel)).2.mpr (by decide)
  have bare := ((attribute_arguments_after_name_iff typedAlone).2 (by decide +kernel)).2.mpr
    (.inl (by decide))
  refine ⟨typed, ?_, typedAlone, bare⟩
  rw [listed]
  decide +kernel

/-- The text of `tupleWrapper`. -/
def tupleWrapperText : String :=
  "@Wrapper<(Int, Int)>(1)"

/-- An attribute whose name has a tuple type among its generic arguments, up to an offset. -/
def tupleWrapper (stop : Nat) : Node :=
  .rule "attribute" 0 stop [] [.token "@" 0 1 [], .rule "user_type" 1 20 [] []]

/-- The tuple type in the name is taken for the argument list, with and without one behind it. -/
theorem arguments_of_tupleWrapper :
    attributeType? tupleWrapperText (tupleWrapper 23) = some "Wrapper<(Int, Int)>" ∧
    (tupleWrapper 23).text? tupleWrapperText = some "@Wrapper<(Int, Int)>(1)" ∧
    (Attribute.ofNode tupleWrapperText (tupleWrapper 23)).arguments =
      [{ name := none, value := "Int" }, { name := none, value := "Int)>(1" }] ∧
    (splitTopLevel "1".toList).map Argument.ofText = [{ name := none, value := "1" }] ∧
    attributeType? tupleWrapperText (tupleWrapper 20) = some "Wrapper<(Int, Int)>" ∧
    (tupleWrapper 20).text? tupleWrapperText = some "@Wrapper<(Int, Int)>" ∧
    (Attribute.ofNode tupleWrapperText (tupleWrapper 20)).arguments =
      [{ name := none, value := "Int" }, { name := none, value := "Int)>" }] := by
  decide +kernel

end Synopsis
