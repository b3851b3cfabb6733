/-
Module: Synopsis.Collect
Purpose: Collecting the declarations of a tree.
Main exports:
  Selector, Selector.accepts, Selector.toJson, Selector.ofJson?, gather, collect, collectKind,
  collectSources
-/
import Synopsis.Reading
import Synopsis.Record.Codec
import Synopsis.Tree.Cursor

namespace Synopsis

/-! ### Selectors -/

/-- Which kinds of declarations a collection takes. -/
inductive Selector where
  /-- Every kind. -/
  | any
  /-- One kind. -/
  | only (kind : Kind)
  /-- Any of several kinds; none if the list is empty. -/
  | anyOf (kinds : List Kind)
deriving DecidableEq, Repr

namespace Selector

/-- Whether a selector takes a kind. -/
def accepts : Selector → Kind → Bool
  | any, _ => true
  | only kind, candidate => kind == candidate
  | anyOf kinds, candidate => kinds.contains candidate

/-- A selector as JSON. -/
def toJson : Selector → Json
  | any => .str "Any"
  | only kind => .obj [("Kind", .str kind.label)]
  | anyOf kinds => .obj [("AnyOf", .ofTexts (kinds.map Kind.label))]

/-- Read a kind from its label, which may be the key of a `null` member. -/
def readKind? (json : Json) : Option Kind :=
  (json.word? Json.isNull).bind Kind.ofLabel?

/-- Read a selector; an object must have exactly one member. -/
def ofJson? : Json → Option Selector
  | .str "Any" => some any
  | .obj [("Any", .null)] => some any
  | .obj [("Kind", json)] => (readKind? json).map only
  | .obj [("AnyOf", json)] => (Json.list? readKind? json).map anyOf
  | _ => none

end Selector

/-! ### Collections

A declaration comes before everything inside it, and siblings come in source order.  A collection
ends at the first fault.
-/

universe u v

/-- Everything that the nodes of a tree yield to one cursor that walks through it. -/
def gather {ε : Type u} {α : Type v} (yield : Node → Except ε (List α)) (root : Node) :
    Except ε (List α) :=
  ((Cursor.start root).visit yield #[]).map fun result => result.1.2.toList

/-- What one node contributes to a collection: its records if the selector takes its kind. -/
def contribution (source : String) (selector : Selector) (node : Node) :
    Except Fault (List Declaration) :=
  match Kind.ofNode? source node with
  | none => .ok []
  | some kind => if selector.accepts kind then Declaration.read source kind node else .ok []

/-- The declarations of a tree that a selector takes, in pre-order. -/
def collect (source : String) (selector : Selector) (root : Node) :
    Except Fault (List Declaration) :=
  gather (contribution source selector) root

/-- The records of one kind in a tree, in pre-order. -/
def collectKind (source : String) (kind : Kind) (root : Node) :
    Except Fault (List kind.Record) :=
  gather
    (fun node => if Kind.ofNode? source node = some kind then kind.read source node else .ok [])
    root

/-- The declarations of several independent sources; a fault in one does not touch the others. -/
def collectSources (selector : Selector) (sources : List (String × Node)) :
    List (Except Fault (List Declaration)) :=
  sources.map fun source => collect source.1 selector source.2

end Synopsis
