/-
Module: Synopsis.Record.Part
Purpose: The parts that declaration records are made of.
Main exports:
  Argument, Attribute, Modifier, GenericParameter, GenericRequirement, Parameter, Fixity,
  Associativity
-/
namespace Synopsis

/-- One argument of an attribute, with or without a label. -/
structure Argument where
  name : Option String
  value : String
deriving DecidableEq, Repr

/-- An attribute such as `@available(iOS 13, *)`. -/
structure Attribute where
  name : String
  arguments : List Argument
deriving DecidableEq, Repr

/-- A modifier such as `public`, or `private(set)` with its detail `set`. -/
structure Modifier where
  name : String
  detail : Option String
deriving DecidableEq, Repr

/-- A type placeholder of a generic parameter clause. -/
structure GenericParameter where
  name : String
  constraint : Option String
deriving DecidableEq, Repr

/-- A relation between types stated in a where-clause. -/
inductive GenericRequirement where
  /-- A type conforms to a protocol: `T: Hashable`. -/
  | conformance (typeName proto : String)
  /-- Two types are the same: `T.Element == Int`. -/
  | sameType (left right : String)
deriving DecidableEq, Repr

namespace GenericRequirement

/-- The constrained type on the left. -/
def left : GenericRequirement → String
  | conformance typeName _ => typeName
  | sameType left _ => left

/-- The protocol or type on the right. -/
def right : GenericRequirement → String
  | conformance _ proto => proto
  | sameType _ right => right

end GenericRequirement

/-- A parameter of a function, or an associated value of an enumeration case, which may have a type
only. -/
structure Parameter where
  firstName : Option String
  secondName : Option String
  typeName : Option String
  variadic : Bool
  defaultArgument : Option String
deriving DecidableEq, Repr

/-- The name used inside the body: the second name when there is one. -/
def Parameter.internalName (parameter : Parameter) : Option String :=
  parameter.secondName.or parameter.firstName

/-- Where an operator stands relative to its operands. -/
inductive Fixity where
  | prefixOp
  | infixOp
  | postfixOp
deriving DecidableEq, Repr

namespace Fixity

/-- The modifier that spells a fixity. -/
def word : Fixity → String
  | prefixOp => "prefix"
  | infixOp => "infix"
  | postfixOp => "postfix"

/-- The fixities in the order in which they are tried. -/
def all : List Fixity :=
  [prefixOp, infixOp, postfixOp]

/-- The modifiers that spell fixities. -/
def allWords : List String :=
  all.map word

/-- The fixity that a word spells. -/
def ofWord? (text : String) : Option Fixity :=
  all.find? (·.word == text)

end Fixity

/-- How operators of a precedence group associate. -/
inductive Associativity where
  | left
  | right
  | nonassociative
deriving DecidableEq, Repr

namespace Associativity

/-- The word that spells an associativity. -/
def word : Associativity → String
  | left => "left"
  | right => "right"
  | nonassociative => "none"

/-- The associativity that a word spells. -/
def ofWord? (text : String) : Option Associativity :=
  [left, right, nonassociative].find? (·.word == text)

end Associativity

end Synopsis
