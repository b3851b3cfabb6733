/-
Module: Synopsis.Proofs.PrecedenceEntries
Purpose: The entries of a precedence group, read one key at a time.  The neighbours of a group are
  those of all entries with their key, its associativity and its assignment are those of the last
  entry with their key, and no entry counts for the key of another.  Entries with different keys
  may therefore change places.
Main exports:
  valuesOf, lastValue?, Precedence.byKey, foldl_add_eq_byKey, entryTexts, entriesAmong,
  PrecedenceGroup.SaidBy, Node.groupWith, ofNode_groupWith, precedence_entries_do_not_interfere
-/
import Mathlib.Data.List.Induction
import Synopsis.Proofs.Collection
import Synopsis.Reading.Operators

namespace Synopsis

/-! ### One pass for each key -/

/-- The values of the entries with a key, entry by entry.  The first text of an entry is its key. -/
def valuesOf (key : String) (entries : List (List String)) : List (List String) :=
  (entries.filter fun entry => entry.head? == some key).map List.tail

/-- The first value of the last entry with a key. -/
def lastValue? (key : String) (entries : List (List String)) : Option String :=
  (valuesOf key entries).getLast?.bind List.head?

namespace Precedence

/-- What entries say, put together from a pass for each key. -/
def byKey (entries : List (List String)) : Precedence where
  higherThan := (valuesOf "higherThan" entries).flatten
  lowerThan := (valuesOf "lowerThan" entries).flatten
  associativity := (lastValue? "associativity" entries).bind Associativity.ofWord?
  assignment := (lastValue? "assignment" entries).map (· == "true")

/-- The keys that mean something. -/
def keys : List String :=
  ["higherThan", "lowerThan", "associativity", "assignment"]

end Precedence

theorem valuesOf_append (key : String) (entries entries' : List (List String)) :
    valuesOf key (entries ++ entries') = valuesOf key entries ++ valuesOf key entries' := by
  rw [valuesOf, List.filter_append, List.map_append]
  rfl

theorem valuesOf_cons (key : String) (entry : List String) (entries : List (List String)) :
    valuesOf key (entry :: entries) = valuesOf key [entry] ++ valuesOf key entries :=
  valuesOf_append key [entry] entries

theorem valuesOf_singleton_of_ne {key : String} {entry : List String}
    (other : entry.head? ≠ some key) : valuesOf key [entry] = [] := by
  simp [valuesOf, other]

namespace Precedence

/-- Only the passes matter. -/
theorem byKey_congr {entries entries' : List (List String)}
    (same : ∀ key ∈ keys, valuesOf key entries = valuesOf key entries') :
    byKey entries = byKey entries' := by
  simp only [keys, List.forall_mem_cons] at same
  obtain ⟨higher, lower, associativity, assignment, -⟩ := same
  rw [byKey, byKey, higher, lower, lastValue?, lastValue?, associativity, lastValue?, lastValue?,
    assignment]

/-- One more entry counts for the pass of its key, and for no other. -/
theorem byKey_append_singleton (entries : List (List String)) (entry : List String) :
    byKey (entries ++ [entry]) = (byKey entries).add entry := by
  unfold add
  split
  · simp [byKey, lastValue?, valuesOf]
  · simp [byKey, lastValue?, valuesOf]
  · simp [byKey, lastValue?, valuesOf]
  · simp [byKey, lastValue?, valuesOf]
  · next notHigher notLower notAssociativity notAssignment =>
      apply byKey_congr
      intro key known
      have other : entry.head? ≠ some key := by
        intro found
        obtain ⟨values, rfl⟩ := List.head?_eq_some_iff.mp found
        simp only [keys, List.mem_cons, List.not_mem_nil, or_false] at known
        rcases known with rfl | rfl | rfl | rfl
        · exact notHigher values rfl
        · exact notLower values rfl
        · exact notAssociativity values rfl
        · exact notAssignment values rfl
      rw [valuesOf_append, valuesOf_singleton_of_ne other, List.append_nil]

/-- Reading entry after entry gives what the passes give. -/
theorem foldl_add_eq_byKey (entries : List (List String)) :
    entries.foldl add unspecified = byKey entries := by
  induction entries using List.reverseRecOn with
  | nil => rfl
  | append_singleton entries entry inductionHypothesis =>
      rw [List.foldl_append, List.foldl_cons, List.foldl_nil, inductionHypothesis,
        byKey_append_singleton]

variable {before after : List (List String)}

/-- An entry without a key that means something makes no difference. -/
theorem byKey_of_unknown_key {entry : List String}
    (unknown : ∀ key ∈ keys, entry.head? ≠ some key) :
    byKey (before ++ entry :: after) = byKey (before ++ after) := by
  apply byKey_congr
  intro key known
  rw [valuesOf_append, valuesOf_cons, valuesOf_singleton_of_ne (unknown key known),
    List.nil_append, valuesOf_append]

/-- Two neighbouring entries with different keys may change places. -/
theorem byKey_swap {first second : List String} (different : first.head? ≠ second.head?) :
    byKey (before ++ second :: first :: after) = byKey (before ++ first :: second :: after) := by
  apply byKey_congr
  intro key _
  rw [valuesOf_append, valuesOf_append, valuesOf_cons key second (first :: after),
    valuesOf_cons key first after, valuesOf_cons key first (second :: after),
    valuesOf_cons key second after]
  -- At most one of the two has this key, so one of the two passes adds nothing.
  by_cases isFirst : first.head? = some key
  · have other : second.head? ≠ some key := fun isSecond => different (isFirst.trans isSecond.symm)
    rw [valuesOf_singleton_of_ne other, List.nil_append, List.nil_append]
  · rw [valuesOf_singleton_of_ne isFirst, List.nil_append, List.nil_append]

end Precedence

/-! ### What a group says -/

/-- The texts of an entry: its key, then its values. -/
def entryTexts (source : String) (entry : Node) : List String :=
  entry.namedChildren.filterMap (Node.text? source)

/-- The texts of the entries among some nodes. -/
def entriesAmong (source : String) (nodes : List Node) : List (List String) :=
  (nodes.filter (·.kind == "precedence_group_attribute")).map (entryTexts source)

theorem entriesAmong_append (source : String) (nodes nodes' : List Node) :
    entriesAmong source (nodes ++ nodes') =
      entriesAmong source nodes ++ entriesAmong source nodes' := by
  rw [entriesAmong, List.filter_append, List.map_append]
  rfl

theorem entriesAmong_cons_entry (source : String) {entry : Node}
    (isEntry : entry.kind = "precedence_group_attribute") (nodes : List Node) :
    entriesAmong source (entry :: nodes) =
      entryTexts source entry :: entriesAmong source nodes := by
  simp [entriesAmong, isEntry]

theorem entriesAmong_eq_nil (source : String) {nodes : List Node}
    (none : ∀ node ∈ nodes, node.kind ≠ "precedence_group_attribute") :
    entriesAmong source nodes = [] := by
  rw [entriesAmong, List.map_eq_nil_iff, List.filter_eq_nil_iff]
  intro node member
  simpa using none node member

/-- A group says what its entries say, key by key: its neighbours are the values of all entries with
their key, its associativity and its assignment those of the last one with theirs. -/
structure PrecedenceGroup.SaidBy (entries : List (List String)) (group : PrecedenceGroup) :
    Prop where
  higherThan : group.higherThan = (valuesOf "higherThan" entries).flatten
  lowerThan : group.lowerThan = (valuesOf "lowerThan" entries).flatten
  associativity : group.associativity =
    (lastValue? "associativity" entries).bind Associativity.ofWord?
  assignment : group.assignment = (lastValue? "assignment" entries).map (· == "true")

theorem saidBy_of_ofNode {source : String} {node : Node} {group : PrecedenceGroup}
    (read : PrecedenceGroup.ofNode source node = .ok group) :
    group.SaidBy (precedenceEntries source node) := by
  rw [PrecedenceGroup.ofNode, Precedence.foldl_add_eq_byKey] at read
  obtain ⟨name, -, same⟩ := bind_eq_ok_iff.mp read
  cases same
  exact ⟨rfl, rfl, rfl, rfl⟩

theorem precedenceEntries_of_list (source : String) {node list : Node}
    (first : node.childOfKind? "precedence_group_attributes" = some list) :
    precedenceEntries source node = entriesAmong source list.children := by
  rw [precedenceEntries, first]
  rfl

theorem precedenceEntries_of_no_list (source : String) {node : Node}
    (none : node.childOfKind? "precedence_group_attributes" = none) :
    precedenceEntries source node = [] := by
  rw [precedenceEntries, none]

/-! ### Groups with the same passes -/

/-- A precedence group node: among its children stands an entry list with the given nodes in it. -/
def Node.groupWith (row listRow : Row) (before after nodes : List Node) : Node :=
  .mk row (before ++ .mk { listRow with kind := "precedence_group_attributes" } nodes :: after)

section

variable {source : String} {row listRow : Row} {before after nodes nodes' : List Node}

theorem childOfKind?_groupWith {kind : String} (other : kind ≠ "precedence_group_attributes") :
    (Node.groupWith row listRow before after nodes).childOfKind? kind =
      (before ++ after).find? (·.kind == kind) := by
  rw [Node.childOfKind?, Node.groupWith, Node.children, List.find?_append, List.find?_append,
    List.find?_cons_of_neg]
  simpa [Node.kind, Node.row] using other.symm

/-- The entries are those of the list, unless another list stands before it. -/
theorem precedenceEntries_groupWith :
    precedenceEntries source (Node.groupWith row listRow before after nodes) =
      match before.find? (·.kind == "precedence_group_attributes") with
      | none => entriesAmong source nodes
      | some list => entriesAmong source list.children := by
  rw [precedenceEntries, Node.childOfKind?, Node.groupWith, Node.children, List.find?_append]
  cases before.find? (·.kind == "precedence_group_attributes") with
  | none => rfl
  | some list => rfl

/-- A precedence group is read from its entry list by a pass for each key. -/
theorem ofNode_groupWith
    (same : Precedence.byKey (entriesAmong source nodes) =
      Precedence.byKey (entriesAmong source nodes')) :
    PrecedenceGroup.ofNode source (Node.groupWith row listRow before after nodes) =
      PrecedenceGroup.ofNode source (Node.groupWith row listRow before after nodes') := by
  have entries : Precedence.byKey
      (precedenceEntries source (Node.groupWith row listRow before after nodes)) =
      Precedence.byKey
        (precedenceEntries source (Node.groupWith row listRow before after nodes')) := by
    rw [precedenceEntries_groupWith, precedenceEntries_groupWith]
    cases before.find? (·.kind == "precedence_group_attributes") with
    | none => exact same
    | some list => rfl
  have list : (Node.groupWith row listRow before after nodes).childOfKind? "modifiers" =
      (Node.groupWith row listRow before after nodes').childOfKind? "modifiers" := by
    rw [childOfKind?_groupWith (by decide), childOfKind?_groupWith (by decide)]
  have name : (Node.groupWith row listRow before after nodes).childOfKind? "simple_identifier" =
      (Node.groupWith row listRow before after nodes').childOfKind? "simple_identifier" := by
    rw [childOfKind?_groupWith (by decide), childOfKind?_groupWith (by decide)]
  rw [PrecedenceGroup.ofNode, PrecedenceGroup.ofNode, Precedence.foldl_add_eq_byKey,
    Precedence.foldl_add_eq_byKey, entries, Decorators.ofNode, Decorators.ofNode, list, name]
  rfl

end

/-- The entries of a precedence group do not interfere.  A group that is read says what the entries
of its first entry list say: its neighbours above and below are the values of all entries with that
key, in their order, and its associativity and assignment are what the last entry with that key
says, none without such an entry.  An entry without one of the four keys makes no difference, and
two neighbouring entries with different keys may change places, whatever stands between them. -/
theorem precedence_entries_do_not_interfere (source : String) :
    (∀ node group, PrecedenceGroup.ofNode source node = .ok group →
      (∀ list, node.childOfKind? "precedence_group_attributes" = some list →
        group.SaidBy (entriesAmong source list.children)) ∧
      (node.childOfKind? "precedence_group_attributes" = none → group.SaidBy [])) ∧
    (∀ row listRow before after left entry right,
      entry.kind = "precedence_group_attribute" →
      (∀ key ∈ Precedence.keys, (entryTexts source entry).head? ≠ some key) →
      PrecedenceGroup.ofNode source
          (.groupWith row listRow before after (left ++ entry :: right)) =
        PrecedenceGroup.ofNode source (.groupWith row listRow before after (left ++ right))) ∧
    (∀ row listRow before after left first between second right,
      first.kind = "precedence_group_attribute" → second.kind = "precedence_group_attribute" →
      (∀ node ∈ between, node.kind ≠ "precedence_group_attribute") →
      (entryTexts source first).head? ≠ (entryTexts source second).head? →
      PrecedenceGroup.ofNode source
          (.groupWith row listRow before after (left ++ second :: (between ++ first :: right))) =
        PrecedenceGroup.ofNode source
          (.groupWith row listRow before after
            (left ++ first :: (between ++ second :: right)))) := by
  refine ⟨?_, ?_, ?_⟩
  · intro node group read
    have said := saidBy_of_ofNode read
    constructor
    · intro list first
      rwa [precedenceEntries_of_list source first] at said
    · intro none
      rwa [precedenceEntries_of_no_list source none] at said
  · intro row listRow before after left entry right isEntry unknown
    apply ofNode_groupWith
    rw [entriesAmong_append, entriesAmong_cons_entry source isEntry, entriesAmong_append]
    exact Precedence.byKey_of_unknown_key unknown
  · intro row listRow before after left first between second right isFirst isSecond none different
    apply ofNode_groupWith
    simp only [entriesAmong_append, entriesAmong_cons_entry source isFirst,
      entriesAmong_cons_entry source isSecond, entriesAmong_eq_nil source none, List.nil_append]
    exact Precedence.byKey_swap different

/-- The text of `groupOfEntries`. -/
def repeatedKeysText : String :=
  "precedencegroup P {higherThan: A, B associativity: left higherThan: C associativity: none}"

/-- A word at the given offsets. -/
def wordAt (start stop : Nat) : Node :=
  .rule "simple_identifier" start stop [] []

/-- An entry whose key ends with a colon, and what stands after that. -/
def entryAt (start colon stop : Nat) (values : List Node) : Node :=
  .rule "precedence_group_attribute" start stop []
    (wordAt start colon :: .token ":" colon (colon + 1) [] :: values)

/-- The entry with two values. -/
def twoAbove : Node :=
  entryAt 19 29 35 [wordAt 31 32, .token "," 32 33 [], wordAt 34 35]

/-- The first entry about associativity. -/
def leftEntry : Node :=
  entryAt 36 49 55 [wordAt 51 55]

/-- The other entry with the key of `twoAbove`. -/
def oneAbove : Node :=
  entryAt 56 66 69 [wordAt 68 69]

/-- The last entry about associativity. -/
def noneEntry : Node :=
  entryAt 70 83 89 [wordAt 85 89]

/-- A precedence group named `P` with the given nodes in its entry list. -/
def groupOfEntries (nodes : List Node) : Node :=
  .groupWith (Node.rule "precedence_group_declaration" 0 90 [] []).row
    (Node.rule "" 19 89 [] []).row
    [.token "precedencegroup" 0 15 [], wordAt 16 17, .token "\x7b" 18 19 []]
    [.token "\x7d" 89 90 []] nodes

/-- What the group says, with its entries in the order of the text. -/
def repeatedKeysGroup : PrecedenceGroup where
  attributes := []
  modifiers := []
  keyword := "precedencegroup"
  name := "P"
  higherThan := ["A", "B", "C"]
  lowerThan := []
  associativity := some .nonassociative
  assignment := none

/-- Three groups above in two entries and two words about associativity: the groups add up, the last
word counts, and the entries between the first and the last may change places. -/
theorem group_of_exchanged_entries :
    PrecedenceGroup.ofNode repeatedKeysText
      (groupOfEntries [twoAbove, oneAbove, leftEntry, noneEntry]) = .ok repeatedKeysGroup ∧
    repeatedKeysGroup.SaidBy [["higherThan", "A", "B"], ["associativity", "left"],
      ["higherThan", "C"], ["associativity", "none"]] := by
  obtain ⟨passes, -, exchange⟩ := precedence_entries_do_not_interfere repeatedKeysText
  have inOrder : PrecedenceGroup.ofNode repeatedKeysText
      (groupOfEntries [twoAbove, leftEntry, oneAbove, noneEntry]) = .ok repeatedKeysGroup := by
    decide +kernel
  constructor
  · rw [← inOrder]
    exact exchange _ _ _ _ [twoAbove] leftEntry [] oneAbove [noneEntry] rfl rfl
      (List.forall_mem_nil _) (by decide +kernel)
  · have texts : entriesAmong repeatedKeysText [twoAbove, leftEntry, oneAbove, noneEntry] =
        [["higherThan", "A", "B"], ["associativity", "left"], ["higherThan", "C"],
          ["associativity", "none"]] := by
      decide +kernel
    rw [← texts]
    exact (passes _ _ inOrder).1 _ rfl

end Synopsis
