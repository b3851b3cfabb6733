/-
Module: Synopsis.Reading.Parameters
Purpose: Parameters of functions and associated values of cases.
Main exports:
  Parameter.ofNode, parametersOf, Parameter.ofGroup, associatedValues
-/
import Synopsis.Record.Declaration

namespace Synopsis

open Text

/-! ### Parameters of functions -/

/-- The mark of a variadic parameter. -/
def Node.isEllipsis (node : Node) : Bool :=
  node.isToken "..." || node.kind == "three_dot_operator"

/-- Whether a child of a parameter node is a name or a piece of the type, by its side of the
colon. -/
def Node.isParameterPart (node : Node) : Bool :=
  node.isPart && !node.isEllipsis

/-- The first and second name of a parameter node: those its fields tell, else the first two named
children before the colon. -/
def parameterNames (source : String) (node : Node) : Option String × Option String :=
  let external := (node.lookup? "external_name").bind (Node.text? source)
  let internal := (node.lookup? "name").bind (Node.text? source)
  match external, internal with
  | some first, some second => (some first, some second)
  | none, some first => (some first, none)
  | _, none =>
      let names := ((node.children.takeWhile (!Node.isToken ":" ·)).filter
        Node.isParameterPart).filterMap (Node.text? source)
      (names[0]?, names[1]?)

/-- The type of a parameter node: the source from its first to its last named child after the
colon. -/
def parameterType? (source : String) (node : Node) : Option String := do
  let pieces := (node.after ":").filter Node.isParameterPart
  let first ← pieces.head?
  let last ← pieces.getLast?
  spanText? source first last

/-- Read a parameter node.  A default value of its own comes before the one that the declaration
keeps for it. -/
def Parameter.ofNode (source : String) (node : Node) (default? : Option Node) : Parameter :=
  let names := parameterNames source node
  { firstName := names.1,
    secondName := names.2,
    typeName := parameterType? source node,
    variadic := node.children.any fun child => !child.isComment && child.isEllipsis,
    defaultArgument :=
      ((node.lookup? "default_value").or default?).bind (Node.text? source) }

/-- The parameter nodes among some children of a declaration, read from the right, and the default
value that still waits for the parameter to its left. -/
structure ParameterRun where
  pending : Option Node
  entries : List (Node × Option Node)

/-- Put one more child in front of a run.  A default value belongs to the nearest parameter before
it, and the last one before the next parameter wins. -/
def ParameterRun.cons (child : Node) (run : ParameterRun) : ParameterRun :=
  if child.kind == "parameter" then
    { pending := none, entries := (child, run.pending) :: run.entries }
  else if child.field == some "default_value" then
    { run with pending := run.pending.or (some child) }
  else run

/-- The parameter nodes of a declaration, each with the default value kept beside it. -/
def parameterEntries (node : Node) : List (Node × Option Node) :=
  (node.children.foldr ParameterRun.cons { pending := none, entries := [] }).entries

/-- The parameters of a declaration node, in order. -/
def parametersOf (source : String) (node : Node) : List Parameter :=
  (parameterEntries node).map fun entry => Parameter.ofNode source entry.1 entry.2

/-! ### Associated values -/

/-- The name that a node before the colon of an associated value stands for. -/
def labelText? (source : String) (node : Node) : Option String :=
  if node.kind == "wildcard_pattern" || node.kind == "_" then some "_"
  else if node.named then node.text? source
  else none

/-- Read one associated value from its nodes.  Without a colon there are no names; after it come the
type and the default value. -/
def Parameter.ofGroup (source : String) (group : List Node) : Parameter :=
  let hasColon := group.any (Node.isToken ":")
  let labels := if hasColon then group.takeWhile (!Node.isToken ":" ·) else []
  let rest := if hasColon then (group.dropWhile (!Node.isToken ":" ·)).drop 1 else group
  let names := labels.filterMap (labelText? source)
  let values := rest.filter Node.named
  { firstName := names[0]?,
    secondName := names[1]?,
    typeName := values[0]?.bind (Node.text? source),
    variadic := false,
    defaultArgument := values[1]?.bind (Node.text? source) }

/-- The nodes of a payload that belong to its values: parentheses and comments do not. -/
def payloadNodes (node : Node) : List Node :=
  node.children.filter fun child =>
    !(child.isComment || child.isToken "(" || child.isToken ")")

/-- The associated values of a payload node: one for each comma-separated group that holds a named
node. -/
def associatedValues (source : String) (node : Node) : List Parameter :=
  ((cutAt (Node.isToken ",") (payloadNodes node)).filter (·.any Node.named)).map
    (Parameter.ofGroup source)

end Synopsis
