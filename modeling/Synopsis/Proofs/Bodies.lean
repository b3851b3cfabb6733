/-
Module: Synopsis.Proofs.Bodies
Purpose: The record of a declaration does not depend on what is inside its body.  No search for a
  part of a declaration goes below a body, so the inside may be exchanged; only an enumeration looks
  into its body, at the case declarations directly there.
Main exports:
  Exchanged, BodyExchange, read_ignores_inside_of_body
-/
import Synopsis.Proofs.Collection
import Synopsis.Proofs.CorrespondingReadings

namespace Synopsis

/-- Every node corresponds to itself, and one node also to the node that takes its place. -/
def Exchanged (body body' left right : Node) : Prop :=
  right = left ∨ left = body ∧ right = body'

theorem Exchanged.aligned_self {body body' : Node} (nodes : List Node) :
    Aligned (Exchanged body body') nodes nodes :=
  Aligned.refl (fun _ => .inl rfl) nodes

/-- A node before and after the exchange of one of its children. -/
theorem Exchanged.matching {body body' : Node} (row : Row) (before after : List Node) :
    Matching (fun _ => False) (Exchanged body body') (.mk row (before ++ body :: after))
      (.mk row (before ++ body' :: after)) where
  kind := rfl
  children := (aligned_self before).append (.cons (.inr ⟨rfl, rfl⟩) (aligned_self after))

/-- A body whose inside is exchanged.  It is not taken for a name, so nothing looks below it. -/
structure BodyExchange (body body' : Node) : Prop where
  row : body'.row = body.row
  closed : body.isOpen = false

namespace BodyExchange

variable {body body' left right : Node} (exchange : BodyExchange body body')

include exchange

theorem row_eq (exchanged : Exchanged body body' left right) : right.row = left.row := by
  obtain rfl | ⟨rfl, rfl⟩ := exchanged
  · rfl
  · exact exchange.row

/-- A node that is looked into corresponds to itself only. -/
theorem eq_of_isOpen (exchanged : Exchanged body body' left right) (isOpen : left.isOpen = true) :
    right = left := by
  obtain same | ⟨rfl, -⟩ := exchanged
  · exact same
  · rw [exchange.closed] at isOpen
    cases isOpen

theorem faithful (source : String) :
    Faithful source source (fun _ => False) (Exchanged body body') where
  extra := False.elim
  kind exchanged := congrArg Row.kind (exchange.row_eq exchanged)
  named exchanged := congrArg Row.named (exchange.row_eq exchanged)
  field exchanged := congrArg Row.field (exchange.row_eq exchanged)
  lookups exchanged := congrArg Row.lookups (exchange.row_eq exchanged)
  text exchanged := by rw [Node.text?, Node.text?, exchange.row_eq exchanged]
  children exchanged isOpen := by
    rw [exchange.eq_of_isOpen exchanged isOpen]
    exact Exchanged.aligned_self _
  parameterType := by
    intro left right exchanged isParameter
    have isOpen : left.isOpen = true := by
      rw [Node.isOpen, isParameter]
      rfl
    rw [exchange.eq_of_isOpen exchanged isOpen]

/-- The case declarations of an enumeration stay when those of the exchanged body do. -/
theorem enumerationEntries_eq (source : String)
    (pair : Matching (fun _ => False) (Exchanged body body') left right)
    (entries : body'.childrenOfKind "enum_entry" = body.childrenOfKind "enum_entry") :
    enumerationEntries right = enumerationEntries left := by
  have bodies := (exchange.faithful source).enumerationBody?_rel pair
  rw [enumerationEntries, enumerationEntries]
  generalize enumerationBody? left = one, enumerationBody? right = other at bodies
  cases bodies with
  | none => rfl
  | some exchanged =>
      obtain rfl | ⟨rfl, rfl⟩ := exchanged
      · rfl
      · exact entries

theorem read_eq (source : String) {kind : Kind}
    (pair : Matching (fun _ => False) (Exchanged body body') left right)
    (entries : kind = .enumeration →
      body'.childrenOfKind "enum_entry" = body.childrenOfKind "enum_entry") :
    Declaration.read source kind right = Declaration.read source kind left := by
  have faithful := exchange.faithful source
  have same : kind.read source right = kind.read source left := by
    refine faithful.read_eq pair kind (fun _ => faithful.returnType?_eq_of_no_extra pair id) ?_
    intro isEnumeration
    rw [exchange.enumerationEntries_eq source pair (entries isEnumeration)]
    exact Aligned.refl (fun node => ⟨rfl, Exchanged.aligned_self node.children⟩) _
  rw [Declaration.read, Declaration.read, same]

end BodyExchange

/-- Whatever is put inside a body, the declaration keeps its records or its fault; for an
enumeration this holds as long as the case declarations directly in the body stay. -/
theorem read_ignores_inside_of_body (source : String) (row : Row) (before after : List Node)
    (body : Node) (inside : List Node) (isBody : body.kind ∈ bodyKinds)
    (unnamed : body.field ≠ some "name") :
    (∀ kind : Kind, kind ≠ .enumeration →
      Declaration.read source kind (.mk row (before ++ .mk body.row inside :: after)) =
        Declaration.read source kind (.mk row (before ++ body :: after))) ∧
    ((Node.mk body.row inside).childrenOfKind "enum_entry" = body.childrenOfKind "enum_entry" →
      Declaration.read source .enumeration (.mk row (before ++ .mk body.row inside :: after)) =
        Declaration.read source .enumeration (.mk row (before ++ body :: after))) := by
  have exchange : BodyExchange body (.mk body.row inside) := by
    refine ⟨rfl, ?_⟩
    simp [Node.isOpen, isBody, unnamed]
  have pair := @Exchanged.matching body (.mk body.row inside) row before after
  constructor
  · intro kind other
    exact exchange.read_eq source pair fun same => (other same).elim
  · intro entries
    exact exchange.read_eq source pair fun _ => entries

/-- The text of `outerFunction` and `outerEnumeration`. -/
def outerText : String :=
  "func f() { func g() throws { } } enum E { case a func g() throws { } }"

/-- The inner function of both declarations, from an offset on. -/
def throwingFunction (start : Nat) : Node :=
  .rule "function_declaration" start (start + 19) []
    [.token "func" start (start + 4) [],
     .rule "simple_identifier" (start + 5) (start + 6) ["name"] [],
     .token "throws" (start + 9) (start + 15) []]

/-- The case declaration of `outerEnumeration`. -/
def onlyCase : Node :=
  .rule "enum_entry" 42 48 []
    [.token "case" 42 46 [], .rule "simple_identifier" 47 48 [] []]

/-- A function body. -/
def functionBody (inside : List Node) : Node :=
  .rule "function_body" 9 32 ["body"] inside

/-- The body of an enumeration. -/
def enumerationBody (inside : List Node) : Node :=
  .rule "enum_class_body" 40 70 ["body"] inside

/-- The tree of a function with a body. -/
def outerFunction (inside : List Node) : Node :=
  .rule "function_declaration" 0 32 []
    [.token "func" 0 4 [], .rule "simple_identifier" 5 6 ["name"] [], functionBody inside]

/-- The tree of an enumeration with a body. -/
def outerEnumeration (inside : List Node) : Node :=
  .rule "class_declaration" 33 70 []
    [.token "enum" 33 37 ["declaration_kind"], .rule "type_identifier" 38 39 ["name"] [],
     enumerationBody inside]

/-- The throwing function inside shows neither on the function around it nor on the enumeration
around it. -/
theorem read_of_outer_declarations :
    ((functionBody []).kind ∈ bodyKinds ∧
      Declaration.read outerText .function (outerFunction [throwingFunction 11]) =
        .ok
          [.function
            { attributes := [], modifiers := [], keyword := "func", name := "f",
              genericParameters := [],
              signature :=
                { input := [], output := none, throwsKeyword := none, isAsync := false },
              genericRequirements := [] }]) ∧
    ((enumerationBody []).kind ∈ bodyKinds ∧
      (enumerationBody [onlyCase, throwingFunction 49]).childrenOfKind "enum_entry" =
        (enumerationBody [onlyCase]).childrenOfKind "enum_entry" ∧
      Declaration.read outerText .enumeration
          (outerEnumeration [onlyCase, throwingFunction 49]) =
        .ok
          [.enumeration
            { attributes := [], modifiers := [], keyword := "enum", name := "E",
              inheritance := [], genericParameters := [], genericRequirements := [],
              cases :=
                [{ attributes := [], modifiers := [], keyword := "case", name := "a",
                   associatedValue := none, rawValue := none }] }]) := by
  have functionKind : (functionBody []).kind ∈ bodyKinds := by decide
  have enumerationKind : (enumerationBody [onlyCase]).kind ∈ bodyKinds := by decide
  have sameFunction := (read_ignores_inside_of_body outerText (outerFunction []).row
    [.token "func" 0 4 [], .rule "simple_identifier" 5 6 ["name"] []] []
    (functionBody []) [throwingFunction 11] functionKind (by decide)).1 .function (by decide)
  have sameEnumeration := (read_ignores_inside_of_body outerText (outerEnumeration []).row
    [.token "enum" 33 37 ["declaration_kind"], .rule "type_identifier" 38 39 ["name"] []] []
    (enumerationBody [onlyCase]) [onlyCase, throwingFunction 49] enumerationKind (by decide)).2 rfl
  refine ⟨⟨functionKind, sameFunction.trans ?_⟩, enumerationKind, rfl, sameEnumeration.trans ?_⟩
  · decide +kernel
  · decide +kernel

end Synopsis
