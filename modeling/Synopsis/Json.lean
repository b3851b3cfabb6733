/-
Module: Synopsis.Json
Purpose: JSON values and the reading of their fields.
Main exports:
  Json, Json.Fields, Json.text?, Json.flag?, Json.list?, Json.fields?, Json.word?, Json.tagged?,
  Json.ofOption, Json.Layout, Json.Layout.fields?, Json.Fields.required, Json.Fields.optional,
  Json.Fields.flag, Json.Fields.present
-/
namespace Synopsis

/-- A JSON value.  A number is `mantissa` divided by ten to the power `exponent`; an object is the
list of its members. -/
inductive Json where
  | null
  | bool (value : Bool)
  | num (mantissa : Int) (exponent : Nat)
  | str (value : String)
  | arr (items : List Json)
  | obj (members : List (String × Json))
deriving Inhabited

namespace Json

universe u

/-- The members of an object. -/
abbrev Fields := List (String × Json)

/-! ### Writing -/

/-- An optional value, with `null` for absence. -/
def ofOption {α : Type u} (write : α → Json) : Option α → Json
  | none => null
  | some value => write value

/-- A list of values. -/
def ofList {α : Type u} (write : α → Json) (items : List α) : Json :=
  arr (items.map write)

/-- A list of texts. -/
def ofTexts (texts : List String) : Json :=
  ofList str texts

/-- The member for an optional value that is left out when absent. -/
def Fields.present {α : Type u} (key : String) (write : α → Json) : Option α → Fields
  | none => []
  | some value => [(key, write value)]

/-! ### Reading

A value that has not the expected form is refused.  Members with other keys are not looked at, so
they may be there or not.
-/

/-- The text of a JSON string. -/
def text? : Json → Option String
  | str value => some value
  | _ => none

/-- The value of a JSON truth value. -/
def flag? : Json → Option Bool
  | bool value => some value
  | _ => none

/-- The members of a JSON object. -/
def fields? : Json → Option Fields
  | obj members => some members
  | _ => none

/-- The items of a JSON array, each of which must be readable. -/
def list? {α : Type u} (read : Json → Option α) : Json → Option (List α)
  | arr items => items.mapM read
  | _ => none

/-- The items of a JSON array of strings. -/
def texts? : Json → Option (List String) :=
  list? text?

/-- Whether a value is `null`. -/
def isNull : Json → Bool
  | null => true
  | _ => false

/-- Whether a value carries nothing: `null` or the empty object. -/
def isVoid : Json → Bool
  | null => true
  | obj [] => true
  | _ => false

/-- A word: a string, or an object with one member whose key is the word and whose value holds
nothing more, as `nothing` judges it. -/
def word? (nothing : Json → Bool) : Json → Option String
  | str value => some value
  | obj [(key, value)] => if nothing value then some key else none
  | _ => none

/-- The tag of a tagged value, and the value itself.  An object has the tag under a key, beside its
other members; an array has it in front of its other items. -/
def tagged? (key : String) : Json → Option (Json × Json)
  | obj members => (members.lookup key).map fun tag => (tag, obj members)
  | arr (tag :: items) => some (tag, arr items)
  | _ => none

/-- The order in which an array gives the members of a record.  The last of them may be left off,
but an array has at least `least` items. -/
structure Layout where
  keys : List String
  least : Nat
deriving DecidableEq, Repr

namespace Layout

/-- A layout of which an array has to give every member. -/
def full (keys : List String) : Layout :=
  { keys, least := keys.length }

/-- Whether an array can have so many items. -/
def admits (layout : Layout) (count : Nat) : Bool :=
  layout.least ≤ count && count ≤ layout.keys.length

/-- The members of a record, which is an object with its members in any order, or an array with
their values in the order of the layout. -/
def fields? (layout : Layout) : Json → Option Fields
  | obj members => some members
  | arr items => if layout.admits items.length then some (layout.keys.zip items) else none
  | _ => none

end Layout

namespace Fields

/-- A member that must be there. -/
def required {α : Type u} (key : String) (read : Json → Option α) (fields : Fields) : Option α :=
  (fields.lookup key).bind read

/-- A member that may be missing or `null`, both of which mean absence. -/
def optional {α : Type u} (key : String) (read : Json → Option α) (fields : Fields) :
    Option (Option α) :=
  match fields.lookup key with
  | none => some none
  | some null => some none
  | some value => (read value).map some

/-- A truth value that is false when the member is missing. -/
def flag (key : String) (fields : Fields) : Option Bool :=
  match fields.lookup key with
  | none => some false
  | some value => value.flag?

end Fields

end Json

end Synopsis
