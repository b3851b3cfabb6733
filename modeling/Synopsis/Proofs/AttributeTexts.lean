/-
Module: Synopsis.Proofs.AttributeTexts
Purpose: The text of an attribute that was read is read as the same attribute.  Rendering changes
  blanks, empty arguments and a missing parenthesis, and nothing that reading depends on.
Main exports:
  Argument.ofText_trim, Argument.ofText_render, ofText_arguments_render, Attribute.spelledName,
  Attribute.ofText_append_cons, Attribute.ofText_render, Attribute.Ordinary,
  attribute_read_from_own_text
-/
import Synopsis.Proofs.Collection
import Synopsis.Proofs.Separation
import Synopsis.Record.Render

namespace Synopsis

open Text

/-! ### Labels -/

namespace Argument

/-- The value counts for a label only by whether it begins with a colon. -/
theorem isLabel_congr {label value value' : List Char}
    (same : value.head? = some ':' ↔ value'.head? = some ':') :
    isLabel label value = isLabel label value' := by
  have colon : (value.head? != some ':') = (value'.head? != some ':') := by
    rw [Bool.eq_iff_iff, bne_iff_ne, bne_iff_ne, Ne, Ne, same]
  cases label with
  | nil => rfl
  | cons first rest => rw [isLabel, isLabel, colon]

theorem head?_ne_of_isLabel {label value : List Char} (isLabel : isLabel label value = true) :
    value.head? ≠ some ':' := by
  cases label with
  | nil => cases isLabel
  | cons first rest =>
      simp only [Argument.isLabel, Bool.and_eq_true, bne_iff_ne] at isLabel
      exact isLabel.2

/-- Nothing in a label means anything to the scan. -/
theorem not_mem_marks_of_isLabel {label value : List Char} (isLabel : isLabel label value = true) :
    ∀ c ∈ label, c ∉ marks := by
  have noWord : marks.any (fun mark => isWordChar mark || mark == '_') = false := by
    decide +kernel
  cases label with
  | nil => simp
  | cons first rest =>
      simp only [Argument.isLabel, Bool.and_eq_true] at isLabel
      intro c member isMark
      have word := List.all_eq_true.mp isLabel.1.2 c member
      exact List.any_eq_false.mp noWord c isMark word

/-- The blanks around a label mean nothing to the scan either. -/
theorem not_mem_marks_of_isLabel_trim {label value : List Char}
    (isLabel : isLabel (trim label) value = true) : ∀ c ∈ label, c ∉ marks := by
  obtain ⟨front, back, split, blankFront, blankBack⟩ := exists_trim_eq label
  rw [split, List.forall_mem_append, List.forall_mem_append]
  exact ⟨fun c member => not_mem_marks_of_isBlank (blankFront c member),
    not_mem_marks_of_isLabel isLabel,
    fun c member => not_mem_marks_of_isBlank (blankBack c member)⟩

/-! ### Arguments -/

/-- An argument is read with a label, or it is the whole text. -/
theorem ofText_cases (text : List Char) :
    ofText text = { name := none, value := String.ofList (trim text) } ∨
    ∃ label value, text = label ++ ':' :: value ∧ ':' ∉ label ∧
      isLabel (trim label) value = true ∧
      ofText text = { name := some (String.ofList (trim label)),
                      value := String.ofList (trim value) } := by
  rw [ofText]
  cases divided : splitOnce [':'] text with
  | none => exact .inl rfl
  | some sides =>
      obtain ⟨label, value⟩ := sides
      obtain ⟨split, absent⟩ := splitOnce_eq_some_iff.mp divided
      dsimp only
      split
      · next labelled => exact .inr ⟨label, value, split, absent, labelled, rfl⟩
      · exact .inl rfl

/-- A text with a label is read with it. -/
theorem ofText_of_isLabel {label value : List Char} (absent : ':' ∉ label)
    (labelled : isLabel (trim label) value = true) :
    ofText (label ++ ':' :: value) =
      { name := some (String.ofList (trim label)), value := String.ofList (trim value) } := by
  rw [ofText, splitOnce_eq_some_iff.mpr ⟨rfl, absent⟩]
  exact if_pos labelled

/-- Blanks around an argument make no difference. -/
theorem ofText_trim (text : List Char) : ofText (trim text) = ofText text := by
  rw [ofText, ofText]
  cases divided : splitOnce [':'] text with
  | none =>
      have absent : ':' ∉ trim text := fun inside =>
        splitOnce_eq_none_iff.mp divided ((trim_sublist text).subset inside)
      rw [splitOnce_eq_none_iff.mpr absent, trim_trim]
  | some sides =>
      obtain ⟨label, value⟩ := sides
      obtain ⟨rfl, absent⟩ := splitOnce_eq_some_iff.mp divided
      have colon : isBlank ':' = false := by decide
      have absentStart : ':' ∉ trimStart label := fun inside =>
        absent ((List.dropWhile_sublist _).subset inside)
      have sameStart : (trimEnd value).head? = some ':' ↔ value.head? = some ':' := by
        constructor
        · intro first
          obtain ⟨rest, split⟩ := trimEnd_prefix value
          rw [← split, List.head?_append]
          exact Option.or_eq_some_iff.mpr (.inl first)
        · intro first
          obtain ⟨rest, rfl⟩ := List.head?_eq_some_iff.mp first
          rw [← List.nil_append (':' :: rest), trimEnd_append_cons colon]
          rfl
      rw [trim_trim, trim_append_cons colon, splitOnce_eq_some_iff.mpr ⟨rfl, absentStart⟩]
      dsimp only
      rw [trim_trimStart, trim_trimEnd, isLabel_congr sameStart]

/-- The text of a labelled argument. -/
theorem toList_render_of_name (label value : List Char) :
    (render { name := some (String.ofList label), value := String.ofList value }).toList =
      (label ++ [':', ' ']) ++ value := by
  simp [render]

/-- The text of an argument is read as the same argument. -/
theorem ofText_render (text : List Char) : ofText (ofText text).render.toList = ofText text := by
  rcases ofText_cases text with unlabelled | ⟨label, value, -, absent, labelled, read⟩
  · rw [unlabelled, render, String.toList_ofList, ofText_trim]
    exact unlabelled
  · have absentTrim : ':' ∉ trim label := fun inside => absent ((trim_sublist label).subset inside)
    -- Rendered, the value begins with a space.
    have space : (' ' :: trim value).head? = some ':' ↔ value.head? = some ':' :=
      iff_of_false (by simp) (head?_ne_of_isLabel labelled)
    have relabelled : isLabel (trim (trim label)) (' ' :: trim value) = true := by
      rw [trim_trim, isLabel_congr space, labelled]
    rw [read, toList_render_of_name, List.append_assoc]
    refine (ofText_of_isLabel absentTrim relabelled).trans ?_
    rw [trim_cons_of_isBlank (by decide), trim_trim, trim_trim]

/-- Rendering an argument changes a front that means nothing to the scan, and trims the rest. -/
theorem exists_render_eq (text : List Char) :
    ∃ front front' rest, text = front ++ rest ∧
      (ofText text).render.toList = front' ++ trim rest ∧
      (∀ c ∈ front, c ∉ marks) ∧ ∀ c ∈ front', c ∉ marks := by
  rcases ofText_cases text with unlabelled | ⟨label, value, split, -, labelled, read⟩
  · refine ⟨[], [], text, rfl, ?_, by simp, by simp⟩
    rw [unlabelled, render, String.toList_ofList]
    rfl
  · have colon : ':' ∉ marks := by decide
    have blank : ' ' ∉ marks := by decide
    refine ⟨label ++ [':'], trim label ++ [':', ' '], value, by simp [split], ?_, ?_, ?_⟩
    · rw [read, toList_render_of_name]
    · rw [List.forall_mem_append, List.forall_mem_singleton]
      exact ⟨not_mem_marks_of_isLabel_trim labelled, colon⟩
    · rw [List.forall_mem_append]
      exact ⟨not_mem_marks_of_isLabel labelled, by simp [colon, blank]⟩

theorem passes_render {text : List Char} (passes : Scan.start.passes text = true) :
    Scan.start.passes (ofText text).render.toList = true := by
  obtain ⟨front, front', rest, split, rendered, plain, plain'⟩ := exists_render_eq text
  rw [split, Scan.passes_append, Scan.run_of_plain rfl plain, Bool.and_eq_true] at passes
  rw [rendered, Scan.passes_append, Scan.passes_of_plain rfl plain', Scan.run_of_plain rfl plain',
    Scan.passes_trim passes.2]
  rfl

theorem run_render {text : List Char} (returns : Scan.start.run text = Scan.start) :
    Scan.start.run (ofText text).render.toList = Scan.start := by
  obtain ⟨front, front', rest, split, rendered, plain, plain'⟩ := exists_render_eq text
  rw [split, Scan.run_append, Scan.run_of_plain rfl plain] at returns
  rw [rendered, Scan.run_append, Scan.run_of_plain rfl plain', Scan.run_trim returns]

/-- An argument with something in it has a text with something in it. -/
theorem trim_render_ne_nil {text : List Char} (visible : trim text ≠ []) :
    trim (ofText text).render.toList ≠ [] := by
  rcases ofText_cases text with unlabelled | ⟨label, value, -, -, -, read⟩
  · rw [unlabelled, render, String.toList_ofList, trim_trim]
    exact visible
  · rw [read, toList_render_of_name]
    intro empty
    have blank := trim_eq_nil_iff.mp empty ':' (by simp)
    exact absurd blank (by decide)

end Argument

/-! ### Argument lists -/

/-- The text of an argument list that was read is read as the same argument list. -/
theorem ofText_arguments_render (cs : List Char) :
    (splitTopLevel ([',', ' '].intercalate ((splitTopLevel cs).map fun piece =>
      (Argument.ofText piece).render.toList))).map Argument.ofText =
      (splitTopLevel cs).map Argument.ofText := by
  have separable : Separable ((splitTopLevel cs).map fun piece =>
      (Argument.ofText piece).render.toList) :=
    (separable_splitTopLevel cs).map (fun _ => Argument.passes_render) fun _ => Argument.run_render
  rw [splitTopLevel_intercalate separable, List.map_map, List.filter_eq_self.mpr, List.map_map]
  · apply List.map_congr_left
    intro piece _
    calc
      Argument.ofText (trim (Argument.ofText piece).render.toList) =
          Argument.ofText (Argument.ofText piece).render.toList := Argument.ofText_trim _
      _ = Argument.ofText piece := Argument.ofText_render piece
  · rw [List.forall_mem_map]
    intro piece member
    obtain ⟨trimmed, nonempty⟩ := trim_of_mem_splitTopLevel member
    have visible : trim (Argument.ofText piece).render.toList ≠ [] :=
      Argument.trim_render_ne_nil (by rwa [trimmed])
    simpa using visible

/-! ### Attributes -/

namespace Attribute

/-- The name that the text of an attribute spells: what stands before the arguments. -/
def spelledName (text : List Char) : List Char :=
  trim ((body text).takeWhile (· != '('))

/-- A given name that is the one in the text makes no difference. -/
theorem ofText_eq_of_given {given : Option String} {text : List Char}
    (agrees : given = none ∨ given = some (ofText none text).name) :
    ofText given text = ofText none text := by
  rcases agrees with rfl | rfl
  · rfl
  · rw [ofText, ofText]
    split <;> rfl

/-- An attribute has the spelled name and the arguments of some argument list. -/
theorem exists_ofText_eq (text : List Char) :
    ∃ cs, ofText none text =
      { name := String.ofList (spelledName text),
        arguments := (splitTopLevel cs).map Argument.ofText } := by
  rw [ofText]
  cases divided : splitOnce ['('] (body text) with
  | none =>
      refine ⟨[], ?_⟩
      rw [spelledName, takeWhile_of_not_mem (splitOnce_eq_none_iff.mp divided)]
      rfl
  | some sides =>
      obtain ⟨head, tail⟩ := sides
      obtain ⟨split, absent⟩ := splitOnce_eq_some_iff.mp divided
      refine ⟨dropClosing tail, ?_⟩
      rw [spelledName, split, List.takeWhile_append, takeWhile_of_not_mem absent]
      simp

theorem not_mem_spelledName (text : List Char) : '(' ∉ spelledName text := by
  intro inside
  have passed := List.mem_takeWhile_imp ((trim_sublist _).subset inside)
  exact absurd passed (by decide)

/-- The spelled name begins where the text after the `@` signs begins. -/
theorem head?_body_of_spelledName {text : List Char} {c : Char}
    (first : (spelledName text).head? = some c) : (body text).head? = some c := by
  have front : (body text).takeWhile (· != '(') <+: body text := List.takeWhile_prefix _
  -- The text before the parenthesis does not begin with a blank, so trimming keeps its first
  -- character.
  have untouched : trimStart ((body text).takeWhile (· != '(')) =
      (body text).takeWhile (· != '(') := by
    cases begins : (body text).takeWhile (· != '(') with
    | nil => rfl
    | cons d rest =>
        rw [begins] at front
        obtain ⟨others, split⟩ := front
        have begun : (trimStart (text.dropWhile (· == '@'))).head? = some d :=
          (congrArg List.head? split).symm
        have visible : isBlank d = false := isBlank_of_head?_dropWhile begun
        exact List.dropWhile_cons_of_neg (by simp [visible])
  rw [spelledName, trim, untouched] at first
  have kept := trimEnd_prefix ((body text).takeWhile (· != '('))
  obtain ⟨rest, split⟩ := kept.trans front
  rw [← split, List.head?_append]
  exact Option.or_eq_some_iff.mpr (.inl first)

/-! ### Attributes with and without a parenthesis -/

theorem body_sublist (text : List Char) : (body text).Sublist text :=
  (List.dropWhile_sublist _).trans (List.dropWhile_sublist _)

/-- What is dropped in front of an attribute does not reach past a parenthesis. -/
theorem body_append_cons (front rest : List Char) :
    body (front ++ '(' :: rest) = body front ++ '(' :: rest := by
  rw [body, dropWhile_append_cons (by rfl), trimStart, dropWhile_append_cons (by rfl)]
  rfl

/-- The arguments are those of the text after the first parenthesis. -/
theorem ofText_append_cons {front : List Char} (absent : '(' ∉ front) (given : Option String)
    (rest : List Char) :
    ofText given (front ++ '(' :: rest) =
      { name := given.getD (String.ofList (trim (body front))),
        arguments := (splitTopLevel (dropClosing rest)).map Argument.ofText } := by
  have absentBody : '(' ∉ body front := fun inside => absent ((body_sublist front).subset inside)
  rw [ofText, body_append_cons, splitOnce_eq_some_iff.mpr ⟨rfl, absentBody⟩]

theorem ofText_of_not_mem {text : List Char} (absent : '(' ∉ text) (given : Option String) :
    ofText given text =
      { name := given.getD (String.ofList (trim (body text))), arguments := [] } := by
  have absentBody : '(' ∉ body text := fun inside => absent ((body_sublist text).subset inside)
  rw [ofText, splitOnce_eq_none_iff.mpr absentBody]

theorem dropClosing_append (inner : List Char) : dropClosing (inner ++ [')']) = inner := by
  simp [dropClosing]

/-! ### Attributes as they are rendered -/

section

variable {name : List Char} (whole : trim name = name) (noParenthesis : '(' ∉ name)
  (noSign : name.head? ≠ some '@')

include whole noSign

/-- Of a name after a sign only the sign is dropped. -/
theorem body_cons : body ('@' :: name) = name := by
  rw [body, List.dropWhile_cons_of_pos (by rfl)]
  cases name with
  | nil => rfl
  | cons c rest =>
      have notSign : c ≠ '@' := fun isSign => noSign (congrArg some isSign)
      have visible : isBlank c = false := isBlank_of_head?_trim (congrArg List.head? whole)
      rw [List.dropWhile_cons_of_neg (by simpa using notSign), trimStart,
        List.dropWhile_cons_of_neg (by simp [visible])]

include noParenthesis

/-- A name after a sign is read as an attribute without arguments. -/
theorem ofText_name :
    ofText none ('@' :: name) = { name := String.ofList name, arguments := [] } := by
  have absent : '(' ∉ '@' :: name := by simp [noParenthesis]
  rw [ofText_of_not_mem absent, body_cons whole noSign, whole]
  rfl

/-- A name after a sign with an argument list in parentheses is read with these arguments. -/
theorem ofText_name_arguments (inner : List Char) :
    ofText none ('@' :: (name ++ '(' :: (inner ++ [')']))) =
      { name := String.ofList name, arguments := (splitTopLevel inner).map Argument.ofText } := by
  have absent : '(' ∉ '@' :: name := by simp [noParenthesis]
  rw [← List.cons_append, ofText_append_cons absent, dropClosing_append, body_cons whole noSign,
    whole]
  rfl

end

/-- The text of an attribute with arguments. -/
theorem toList_render_arguments {name : List Char} {arguments : List Argument}
    (nonempty : arguments ≠ []) :
    (render { name := String.ofList name, arguments }).toList =
      '@' :: (name ++ '(' ::
        ([',', ' '].intercalate (arguments.map (·.render.toList)) ++ [')'])) := by
  have listed : arguments.isEmpty = false := by simpa using nonempty
  simp [render, listed, commaJoined, String.toList_intercalate, Function.comp_def]

/-- The text of an attribute that was read is read as the same attribute. -/
theorem ofText_render {text : List Char} (plain : (body text).head? ≠ some '@') :
    ofText none (ofText none text).render.toList = ofText none text := by
  obtain ⟨cs, read⟩ := exists_ofText_eq text
  have whole : trim (spelledName text) = spelledName text := trim_trim _
  have noSign : (spelledName text).head? ≠ some '@' := fun first =>
    plain (head?_body_of_spelledName first)
  rw [read]
  cases given : (splitTopLevel cs).map Argument.ofText with
  | nil =>
      have rendered :
          (render { name := String.ofList (spelledName text), arguments := [] }).toList =
            '@' :: spelledName text := by
        simp [render]
      rw [rendered, ofText_name whole (not_mem_spelledName text) noSign]
  | cons first rest =>
      have nonempty : (splitTopLevel cs).map Argument.ofText ≠ [] := by
        rw [given]
        exact List.cons_ne_nil _ _
      rw [← given, toList_render_arguments nonempty,
        ofText_name_arguments whole (not_mem_spelledName text) noSign, List.map_map]
      exact congrArg (Attribute.mk _) (ofText_arguments_render cs)

end Attribute

/-! ### Attribute nodes -/

/-- The name that the type child of an attribute node gives it. -/
def attributeType? (source : String) (node : Node) : Option String :=
  (node.childOfKind? "user_type").bind (Node.text? source)

/-- An attribute node with one run of `@` signs in front, whose type child, when there is one, says
what stands before the arguments. -/
def Attribute.Ordinary (source : String) (node : Node) : Prop :=
  ∃ text, node.text? source = some text ∧
    (Attribute.body text.toList).head? ≠ some '@' ∧
    (attributeType? source node = none ∨
      attributeType? source node = some (String.ofList (Attribute.spelledName text.toList)))

/-- A node is read by its type child and its text. -/
theorem Attribute.ofNode_eq {source : String} {node : Node} {text : String}
    (textEq : node.text? source = some text) :
    Attribute.ofNode source node = Attribute.ofText (attributeType? source node) text.toList := by
  rw [Attribute.ofNode, textEq]
  rfl

/-- The text of what an ordinary node is read as is read as the same. -/
theorem Attribute.Ordinary.ofText_render {source : String} {node : Node}
    (ordinary : Attribute.Ordinary source node) :
    Attribute.ofText none (Attribute.ofNode source node).render.toList =
      Attribute.ofNode source node := by
  obtain ⟨text, textEq, plain, typed⟩ := ordinary
  obtain ⟨cs, spelled⟩ := Attribute.exists_ofText_eq text.toList
  have agrees : attributeType? source node = none ∨
      attributeType? source node = some (Attribute.ofText none text.toList).name := by
    rw [spelled]
    exact typed
  rw [Attribute.ofNode_eq textEq, Attribute.ofText_eq_of_given agrees]
  exact Attribute.ofText_render plain

/-- An attribute that is read from an ordinary node is read again from any node with its text, if
that has no type child or one that says the attribute's name.  So the text of such an attribute
determines the attribute, its name and its arguments with their labels in order. -/
theorem attribute_read_from_own_text {source : String} {node : Node}
    (ordinary : Attribute.Ordinary source node) :
    (∀ (source' : String) (node' : Node),
      node'.text? source' = some (Attribute.ofNode source node).render →
      (attributeType? source' node' = none ∨
        attributeType? source' node' = some (Attribute.ofNode source node).name) →
      Attribute.ofNode source' node' = Attribute.ofNode source node) ∧
    ∀ (source' : String) (node' : Node), Attribute.Ordinary source' node' →
      (Attribute.ofNode source' node').render = (Attribute.ofNode source node).render →
      Attribute.ofNode source' node' = Attribute.ofNode source node := by
  have again := ordinary.ofText_render
  constructor
  · intro source' node' textEq typed
    have agrees : attributeType? source' node' = none ∨ attributeType? source' node' =
        some (Attribute.ofText none (Attribute.ofNode source node).render.toList).name := by
      rw [again]
      exact typed
    rw [Attribute.ofNode_eq textEq, Attribute.ofText_eq_of_given agrees, again]
  · intro source' node' ordinary' same
    rw [← again, ← ordinary'.ofText_render, same]

/-- The text of `brokenAttribute`. -/
def brokenAttributeText : String :=
  "@ Foo ( a ,, x : \x22b, (c\x22 , y:"

/-- An attribute without its closing parenthesis, with an empty argument, a string with a comma and
a parenthesis in it, and a label without a value. -/
def brokenAttribute : Node :=
  .rule "attribute" 0 29 [] [.rule "user_type" 2 5 [] []]

/-- The text of the attribute that is read from `brokenAttribute`. -/
def mendedAttributeText : String :=
  "@Foo(a, x: \x22b, (c\x22, y: )"

/-- The text of the broken attribute is mended, and the mended text is read as the same
attribute. -/
theorem attribute_of_brokenAttribute :
    (Attribute.ofNode brokenAttributeText brokenAttribute).render = mendedAttributeText ∧
    Attribute.ofNode brokenAttributeText brokenAttribute =
      { name := "Foo",
        arguments :=
          [{ name := none, value := "a" }, { name := some "x", value := "\x22b, (c\x22" },
           { name := some "y", value := "" }] } ∧
    Attribute.ofNode mendedAttributeText (.rule "attribute" 0 24 [] []) =
      Attribute.ofNode brokenAttributeText brokenAttribute := by
  have ordinary : Attribute.Ordinary brokenAttributeText brokenAttribute :=
    ⟨brokenAttributeText, by decide +kernel, by decide +kernel, .inr (by decide +kernel)⟩
  have rendered : (Attribute.ofNode brokenAttributeText brokenAttribute).render =
      mendedAttributeText := by
    decide +kernel
  refine ⟨rendered, by decide +kernel, ?_⟩
  refine (attribute_read_from_own_text ordinary).1 _ _ ?_ (.inl (by decide +kernel))
  rw [rendered]
  decide +kernel

end Synopsis
