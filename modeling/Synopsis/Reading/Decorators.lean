/-
Module: Synopsis.Reading.Decorators
Purpose: Attributes and modifiers read from their texts and nodes.
Main exports:
  Argument.ofText, Attribute.ofText, Attribute.ofNode, Modifier.ofText, Modifier.ofNode,
  Decorators.ofNode, Decorators.withToken
-/
import Synopsis.Record.Declaration
import Synopsis.Text.Letter
import Synopsis.Text.Pieces

namespace Synopsis

open Text

/-! ### Attributes -/

/-- Whether the text before a colon is a label: an identifier, and the colon is not doubled. -/
def Argument.isLabel (label value : List Char) : Bool :=
  match label with
  | [] => false
  | c :: _ =>
      (isAlphabetic c || c == '_') && label.all (fun d => isWordChar d || d == '_') &&
        value.head? != some ':'

/-- Read `label: value`; any other text is a value without a label. -/
def Argument.ofText (text : List Char) : Argument :=
  match splitOnce [':'] text with
  | some (label, value) =>
      if isLabel (trim label) value then
        { name := some (String.ofList (trim label)), value := String.ofList (trim value) }
      else { name := none, value := String.ofList (trim text) }
  | none => { name := none, value := String.ofList (trim text) }

/-- The text without one closing parenthesis at its end. -/
def dropClosing (text : List Char) : List Char :=
  if text.getLast? == some ')' then text.dropLast else text

/-- The text of an attribute after its leading `@` signs. -/
def Attribute.body (text : List Char) : List Char :=
  trimStart (text.dropWhile (· == '@'))

/-- Read `@name(arguments)`.  The arguments are the pieces of the text after the first opening
parenthesis, whose closing one may be missing; the name is the given one, else the text before the
parenthesis. -/
def Attribute.ofText (given : Option String) (text : List Char) : Attribute :=
  match splitOnce ['('] (body text) with
  | some (head, tail) =>
      { name := given.getD (String.ofList (trim head)),
        arguments := (splitTopLevel (dropClosing tail)).map Argument.ofText }
  | none =>
      { name := given.getD (String.ofList (trim (body text))), arguments := [] }

/-- Read an attribute node.  Its type child, when there is one, gives the name. -/
def Attribute.ofNode (source : String) (node : Node) : Attribute :=
  ofText ((node.childOfKind? "user_type").bind (Node.text? source))
    ((node.text? source).getD "").toList

/-! ### Modifiers -/

/-- The text without closing parentheses at its end. -/
def dropAllClosing (text : List Char) : List Char :=
  (text.reverse.dropWhile (· == ')')).reverse

/-- Read `name(detail)` or `name`; an empty detail is none. -/
def Modifier.ofText (text : List Char) : Modifier :=
  match splitOnce ['('] text with
  | some (name, rest) =>
      let detail := trim (dropAllClosing (trimEnd rest))
      { name := String.ofList (trim name),
        detail := if detail.isEmpty then none else some (String.ofList detail) }
  | none => { name := String.ofList (trim text), detail := none }

/-- Read a modifier node. -/
def Modifier.ofNode (source : String) (node : Node) : Modifier :=
  ofText ((node.text? source).getD "").toList

/-! ### Decorators of a declaration -/

/-- Whether a child of a modifier list is an attribute; the others are modifiers. -/
def Node.isAttribute (node : Node) : Bool :=
  node.kind == "attribute"

/-- The attributes and modifiers in the first modifier list of a declaration node. -/
def Decorators.ofNode (source : String) (node : Node) : Decorators :=
  match node.childOfKind? "modifiers" with
  | none => { attributes := [], modifiers := [] }
  | some list =>
      { attributes := (list.namedChildren.filter Node.isAttribute).map (Attribute.ofNode source),
        modifiers :=
          (list.namedChildren.filter (!Node.isAttribute ·)).map (Modifier.ofNode source) }

/-- Add a modifier that the grammar keeps outside the modifier list, unless a modifier of that name
is there. -/
def Decorators.withToken (token : Option String) (decorators : Decorators) : Decorators :=
  match token with
  | none => decorators
  | some name =>
      if decorators.modifiers.any (·.name == name) then decorators
      else { decorators with modifiers := decorators.modifiers ++ [{ name, detail := none }] }

end Synopsis
