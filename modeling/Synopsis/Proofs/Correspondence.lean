/-
Module: Synopsis.Proofs.Correspondence
Purpose: Two trees that look alike to every reading.  Their children correspond one by one, save
  for some extra ones on the right that no search stops at; this module says what each way of
  searching lists and children makes of such a correspondence.
Main exports:
  Interleaved, Aligned, Blind, Node.BareComment, Node.isOpen, Alike, Faithful, Matching
-/
import Mathlib.Data.List.Forall2
import Synopsis.Proofs.Preorder
import Synopsis.Reading.Parameters

namespace Synopsis

universe u v w

/-! ### Lists with extra items -/

/-- The items of two lists correspond one by one, save for extra items in the second. -/
inductive Interleaved {α : Type u} (Extra : α → Prop) (R : α → α → Prop) :
    List α → List α → Prop where
  | nil : Interleaved Extra R [] []
  | cons {left right : α} {lefts rights : List α} (head : R left right)
      (tail : Interleaved Extra R lefts rights) :
      Interleaved Extra R (left :: lefts) (right :: rights)
  | extra {item : α} {lefts rights : List α} (spare : Extra item)
      (tail : Interleaved Extra R lefts rights) : Interleaved Extra R lefts (item :: rights)

/-- The items of two lists correspond one by one. -/
abbrev Aligned {α : Type u} (R : α → α → Prop) : List α → List α → Prop :=
  Interleaved (fun _ => False) R

/-- A test that answers the same for corresponding items and that extra items fail. -/
structure Blind {α : Type u} (Extra : α → Prop) (R : α → α → Prop) (test : α → Bool) : Prop where
  same : ∀ {left right : α}, R left right → test right = test left
  extra : ∀ {item : α}, Extra item → test item = false

theorem Blind.of_narrower {α : Type u} {Extra : α → Prop} {R S : α → α → Prop} {test : α → Bool}
    (blind : Blind Extra R test) (narrower : ∀ {left right}, S left right → R left right) :
    Blind Extra S test :=
  ⟨fun related => blind.same (narrower related), blind.extra⟩

namespace Interleaved

variable {α : Type u} {Extra : α → Prop} {R : α → α → Prop} {lefts rights : List α}
  {test : α → Bool}

theorem imp {S : α → α → Prop} (weaker : ∀ {left right}, R left right → S left right)
    (related : Interleaved Extra R lefts rights) : Interleaved Extra S lefts rights := by
  induction related with
  | nil => exact .nil
  | cons head _ inductionHypothesis => exact .cons (weaker head) inductionHypothesis
  | extra spare _ inductionHypothesis => exact .extra spare inductionHypothesis

theorem append {moreLefts moreRights : List α} (first : Interleaved Extra R lefts rights)
    (second : Interleaved Extra R moreLefts moreRights) :
    Interleaved Extra R (lefts ++ moreLefts) (rights ++ moreRights) := by
  induction first with
  | nil => exact second
  | cons head _ inductionHypothesis => exact .cons head inductionHypothesis
  | extra spare _ inductionHypothesis => exact .extra spare inductionHypothesis

/-- Filtering by a blind test leaves no extra items. -/
theorem filter (related : Interleaved Extra R lefts rights) (blind : Blind Extra R test) :
    Aligned (fun left right => R left right ∧ test left = true)
      (lefts.filter test) (rights.filter test) := by
  induction related with
  | nil => exact .nil
  | @cons left right _ _ head _ inductionHypothesis =>
      have sameTest := blind.same head
      cases passed : test left with
      | true =>
          rw [List.filter_cons_of_pos passed,
            List.filter_cons_of_pos (by rw [sameTest, passed])]
          exact .cons ⟨head, passed⟩ inductionHypothesis
      | false =>
          rw [List.filter_cons_of_neg (by simp [passed]),
            List.filter_cons_of_neg (by simp [sameTest, passed])]
          exact inductionHypothesis
  | extra spare _ inductionHypothesis =>
      rw [List.filter_cons_of_neg (by simp [blind.extra spare])]
      exact inductionHypothesis

theorem any (related : Interleaved Extra R lefts rights) (blind : Blind Extra R test) :
    rights.any test = lefts.any test := by
  induction related with
  | nil => rfl
  | cons head _ inductionHypothesis =>
      rw [List.any_cons, List.any_cons, blind.same head, inductionHypothesis]
  | extra spare _ inductionHypothesis =>
      rw [List.any_cons, blind.extra spare, Bool.false_or, inductionHypothesis]

/-- Stopping at a blind test stops at corresponding items. -/
theorem takeWhile (related : Interleaved Extra R lefts rights) (blind : Blind Extra R test) :
    Interleaved Extra R (lefts.takeWhile (!test ·)) (rights.takeWhile (!test ·)) := by
  induction related with
  | nil => exact .nil
  | @cons left right _ _ head _ inductionHypothesis =>
      rw [List.takeWhile_cons, List.takeWhile_cons, blind.same head]
      cases test left with
      | true => exact .nil
      | false => exact .cons head inductionHypothesis
  | extra spare _ inductionHypothesis =>
      rw [List.takeWhile_cons, blind.extra spare]
      exact .extra spare inductionHypothesis

/-- What follows the first item with a blind test corresponds. -/
theorem drop_dropWhile (related : Interleaved Extra R lefts rights)
    (blind : Blind Extra R test) :
    Interleaved Extra R ((lefts.dropWhile (!test ·)).drop 1)
      ((rights.dropWhile (!test ·)).drop 1) := by
  induction related with
  | nil => exact .nil
  | @cons left right _ _ head tail inductionHypothesis =>
      rw [List.dropWhile_cons, List.dropWhile_cons, blind.same head]
      cases test left with
      | true => exact tail
      | false => exact inductionHypothesis
  | extra spare _ inductionHypothesis =>
      rw [List.dropWhile_cons, blind.extra spare]
      exact inductionHypothesis

/-- Extra items that contribute nothing do not show in a joined list. -/
theorem flatMap {β : Type v} {view view' : α → List β} (related : Interleaved Extra R lefts rights)
    (same : ∀ {left right}, R left right → view' right = view left)
    (nothing : ∀ {item}, Extra item → view' item = []) :
    rights.flatMap view' = lefts.flatMap view := by
  induction related with
  | nil => rfl
  | cons head _ inductionHypothesis =>
      rw [List.flatMap_cons, List.flatMap_cons, same head, inductionHypothesis]
  | extra spare _ inductionHypothesis =>
      rw [List.flatMap_cons, nothing spare, List.nil_append, inductionHypothesis]

end Interleaved

namespace Aligned

variable {α : Type u} {R : α → α → Prop} {lefts rights : List α}

theorem filter (related : Aligned R lefts rights) (test : α → Bool)
    (same : ∀ {left right}, R left right → test right = test left) :
    Aligned (fun left right => R left right ∧ test left = true)
      (lefts.filter test) (rights.filter test) :=
  Interleaved.filter related ⟨same, False.elim⟩

theorem map {β : Type v} {view view' : α → β} (related : Aligned R lefts rights)
    (same : ∀ {left right}, R left right → view' right = view left) :
    rights.map view' = lefts.map view := by
  induction related with
  | nil => rfl
  | cons head _ inductionHypothesis =>
      rw [List.map_cons, List.map_cons, same head, inductionHypothesis]
  | extra spare => exact spare.elim

theorem filterMap {β : Type v} {view view' : α → Option β} (related : Aligned R lefts rights)
    (same : ∀ {left right}, R left right → view' right = view left) :
    rights.filterMap view' = lefts.filterMap view := by
  have mapped := related.map same
  calc
    rights.filterMap view' = (rights.map view').filterMap id := by rw [List.filterMap_map]; rfl
    _ = (lefts.map view).filterMap id := by rw [mapped]
    _ = lefts.filterMap view := by rw [List.filterMap_map]; rfl

theorem mapM {ε : Type v} {β : Type w} {read read' : α → Except ε β}
    (related : Aligned R lefts rights)
    (same : ∀ {left right}, R left right → read' right = read left) :
    rights.mapM read' = lefts.mapM read := by
  induction related with
  | nil => rfl
  | cons head _ inductionHypothesis =>
      rw [List.mapM_cons, List.mapM_cons, same head, inductionHypothesis]
  | extra spare => exact spare.elim

theorem flatMap_aligned {β : Type v} {S : β → β → Prop} {view view' : α → List β}
    (related : Aligned R lefts rights)
    (same : ∀ {left right}, R left right → Aligned S (view left) (view' right)) :
    Aligned S (lefts.flatMap view) (rights.flatMap view') := by
  induction related with
  | nil => exact .nil
  | cons head _ inductionHypothesis =>
      rw [List.flatMap_cons, List.flatMap_cons]
      exact (same head).append inductionHypothesis
  | extra spare => exact spare.elim

theorem refl (same : ∀ item, R item item) (items : List α) : Aligned R items items := by
  induction items with
  | nil => exact .nil
  | cons item rest inductionHypothesis => exact .cons (same item) inductionHypothesis

/-- Two lists whose items of the same number correspond. -/
theorem of_getElem? (nesting : ∀ index : Nat, rights[index]?.isSome = lefts[index]?.isSome)
    (same : ∀ {index : Nat} {left right : α}, lefts[index]? = some left →
      rights[index]? = some right → R left right) : Aligned R lefts rights := by
  induction lefts generalizing rights with
  | nil =>
      cases rights with
      | nil => exact .nil
      | cons right rights => simpa using nesting 0
  | cons left lefts inductionHypothesis =>
      cases rights with
      | nil => simpa using nesting 0
      | cons right rights =>
          refine .cons (@same 0 left right rfl rfl) (inductionHypothesis ?_ ?_)
          · intro index
            simpa using nesting (index + 1)
          · intro index one other oneEq otherEq
            exact @same (index + 1) one other (by simpa using oneEq) (by simpa using otherEq)

theorem isEmpty (related : Aligned R lefts rights) : rights.isEmpty = lefts.isEmpty := by
  cases related with
  | nil => rfl
  | cons => rfl
  | extra spare => exact spare.elim

theorem head? (related : Aligned R lefts rights) : Option.Rel R lefts.head? rights.head? := by
  cases related with
  | nil => exact .none
  | cons head => exact .some head
  | extra spare => exact spare.elim

theorem getLast? (related : Aligned R lefts rights) :
    Option.Rel R lefts.getLast? rights.getLast? := by
  induction related with
  | nil => exact .none
  | @cons left right lefts rights head tail inductionHypothesis =>
      rw [List.getLast?_cons, List.getLast?_cons]
      generalize lefts.getLast? = lastLeft, rights.getLast? = lastRight at inductionHypothesis
      cases inductionHypothesis with
      | none => exact .some head
      | some last => exact .some last
  | extra spare => exact spare.elim

theorem getElem? (related : Aligned R lefts rights) (index : Nat) :
    Option.Rel R lefts[index]? rights[index]? := by
  induction related generalizing index with
  | nil => exact .none
  | cons head _ inductionHypothesis =>
      cases index with
      | zero => exact .some head
      | succ index => exact inductionHypothesis index
  | extra spare => exact spare.elim

theorem consHead {left right : α} {pieces pieces' : List (List α)} (head : R left right)
    (related : Aligned (Aligned R) pieces pieces') :
    Aligned (Aligned R) (Text.consHead left pieces) (Text.consHead right pieces') := by
  cases related with
  | nil => exact .cons (.cons head .nil) .nil
  | cons piece others => exact .cons (.cons head piece) others
  | extra spare => exact spare.elim

/-- Cutting at corresponding items gives corresponding pieces. -/
theorem cutAt (related : Aligned R lefts rights) (isCut : α → Bool)
    (same : ∀ {left right}, R left right → isCut right = isCut left) :
    Aligned (Aligned R) (Text.cutAt isCut lefts) (Text.cutAt isCut rights) := by
  induction related with
  | nil => exact .cons .nil .nil
  | @cons left right _ _ head _ inductionHypothesis =>
      rw [Text.cutAt, Text.cutAt, same head]
      split
      · exact .cons .nil inductionHypothesis
      · exact inductionHypothesis.consHead head
  | extra spare => exact spare.elim

end Aligned

/-- The first item with a blind test is found in both lists or in none. -/
theorem Interleaved.find? {α : Type u} {Extra : α → Prop} {R : α → α → Prop}
    {lefts rights : List α} {test : α → Bool} (related : Interleaved Extra R lefts rights)
    (blind : Blind Extra R test) :
    Option.Rel (fun left right => R left right ∧ test left = true)
      (lefts.find? test) (rights.find? test) := by
  rw [← List.head?_filter, ← List.head?_filter]
  exact (related.filter blind).head?

theorem rel_imp {α : Type u} {R S : α → α → Prop} {left right : Option α}
    (weaker : ∀ {one other}, R one other → S one other) (related : Option.Rel R left right) :
    Option.Rel S left right := by
  cases related with
  | none => exact .none
  | some pair => exact .some (weaker pair)

theorem rel_or {α : Type u} {R : α → α → Prop} {left right left' right' : Option α}
    (first : Option.Rel R left right) (second : Option.Rel R left' right') :
    Option.Rel R (left.or left') (right.or right') := by
  cases first with
  | none => exact second
  | some pair => exact .some pair

theorem bind_eq_of_rel {α : Type u} {β : Type v} {R : α → α → Prop} {left right : Option α}
    {view view' : α → Option β} (related : Option.Rel R left right)
    (same : ∀ {one other}, R one other → view' other = view one) :
    right.bind view' = left.bind view := by
  cases related with
  | none => rfl
  | some pair => exact same pair

theorem map_eq_of_rel {α : Type u} {β : Type v} {R : α → α → Prop} {left right : Option α}
    {view view' : α → β} (related : Option.Rel R left right)
    (same : ∀ {one other}, R one other → view' other = view one) :
    right.map view' = left.map view := by
  cases related with
  | none => rfl
  | some pair => exact congrArg some (same pair)

/-! ### Nodes that look alike -/

/-- A comment that is nothing but a comment: named, without children and under no field. -/
structure Node.BareComment (node : Node) : Prop where
  isComment : node.isComment = true
  named : node.named = true
  field : node.field = none
  lookups : node.row.lookups = []
  children : node.children = []

/-- The kinds of comments. -/
def commentKinds : List String :=
  ["comment", "multiline_comment"]

/-- The kinds of nodes that hold the inside of a declaration. -/
def bodyKinds : List String :=
  ["function_body", "class_body", "enum_class_body", "protocol_body", "computed_property",
   "willset_didset_block", "protocol_property_requirements"]

/-- Whether readings may look at the children of a node.  A declaration is read without looking
inside bodies, unless one of them is taken for a name. -/
def Node.isOpen (node : Node) : Bool :=
  !bodyKinds.contains node.kind || node.field == some "name"

/-- A correspondence between the nodes of two trees, each with its source: corresponding nodes agree
in all they say about themselves but their offsets, and their children correspond up to extra
comments. -/
structure Alike (source source' : String) (Extra : Node → Prop) (R : Node → Node → Prop) :
    Prop where
  extra : ∀ {node}, Extra node → node.BareComment
  kind : ∀ {left right}, R left right → right.kind = left.kind
  named : ∀ {left right}, R left right → right.named = left.named
  field : ∀ {left right}, R left right → right.field = left.field
  lookups : ∀ {left right}, R left right → right.row.lookups = left.row.lookups
  text : ∀ {left right}, R left right → right.text? source' = left.text? source
  children : ∀ {left right}, R left right → left.isOpen = true →
    Interleaved Extra R left.children right.children

/-- A correspondence that no reading can tell apart.  The type of a parameter is the source between
two nodes, which their texts do not tell. -/
structure Faithful (source source' : String) (Extra : Node → Prop) (R : Node → Node → Prop) :
    Prop extends Alike source source' Extra R where
  parameterType : ∀ {left right}, R left right → left.kind = "parameter" →
    parameterType? source' right = parameterType? source left

/-- Two declaration nodes of the same kind whose children correspond. -/
structure Matching (Extra : Node → Prop) (R : Node → Node → Prop) (left right : Node) : Prop where
  kind : right.kind = left.kind
  children : Interleaved Extra R left.children right.children

theorem Node.BareComment.kind_eq {node : Node} (comment : node.BareComment) :
    node.kind = "comment" ∨ node.kind = "multiline_comment" := by
  simpa [Node.isComment] using comment.isComment

namespace Alike

variable {source source' : String} {Extra : Node → Prop} {R : Node → Node → Prop}
  (alike : Alike source source' Extra R)

include alike

/-- Corresponding nodes of a kind that is no body match. -/
theorem inside {left right : Node} {kind : String} (related : R left right ∧ left.kind = kind)
    (openKind : bodyKinds.contains kind = false) : Matching Extra R left right := by
  have isOpen : left.isOpen = true := by
    rw [Node.isOpen, related.2, openKind]
    rfl
  exact ⟨alike.kind related.1, alike.children related.1 isOpen⟩

/-! Every test that the readings use passes over extra comments. -/

theorem blind_kind (test : String → Bool)
    (comment : test "comment" = false ∧ test "multiline_comment" = false) :
    Blind Extra R (fun node => test node.kind) := by
  constructor
  · intro left right related
    rw [alike.kind related]
  · intro node spare
    rcases (alike.extra spare).kind_eq with kindEq | kindEq
    · rw [kindEq, comment.1]
    · rw [kindEq, comment.2]

theorem isComment_eq {left right : Node} (related : R left right) :
    right.isComment = left.isComment := by
  rw [Node.isComment, Node.isComment, alike.kind related]

theorem isToken_eq {left right : Node} (related : R left right) (spelling : String) :
    right.isToken spelling = left.isToken spelling := by
  rw [Node.isToken, Node.isToken, alike.kind related, alike.named related]

theorem isPart_eq {left right : Node} (related : R left right) : right.isPart = left.isPart := by
  rw [Node.isPart, Node.isPart, alike.named related, alike.isComment_eq related]

theorem blind_token (spelling : String) : Blind Extra R (Node.isToken spelling) := by
  constructor
  · intro left right related
    exact alike.isToken_eq related spelling
  · intro node spare
    simp [Node.isToken, (alike.extra spare).named]

theorem blind_part : Blind Extra R Node.isPart := by
  constructor
  · intro left right related
    exact alike.isPart_eq related
  · intro node spare
    simp [Node.isPart, (alike.extra spare).isComment]

theorem blind_field (name : String) : Blind Extra R (·.field == some name) := by
  constructor
  · intro left right related
    rw [alike.field related]
  · intro node spare
    rw [(alike.extra spare).field]
    rfl

theorem blind_kind_eq (kind : String) (noComment : commentKinds.contains kind = false) :
    Blind Extra R (·.kind == kind) := by
  have different : kind ≠ "comment" ∧ kind ≠ "multiline_comment" := by
    simpa [commentKinds] using noComment
  refine alike.blind_kind (· == kind) ⟨?_, ?_⟩
  · simpa using different.1.symm
  · simpa using different.2.symm

theorem isEllipsis_eq {left right : Node} (related : R left right) :
    right.isEllipsis = left.isEllipsis := by
  rw [Node.isEllipsis, Node.isEllipsis, alike.isToken_eq related, alike.kind related]

theorem blind_parameterPart : Blind Extra R Node.isParameterPart := by
  constructor
  · intro one other related
    rw [Node.isParameterPart, Node.isParameterPart, alike.isPart_eq related,
      alike.isEllipsis_eq related]
  · intro node spare
    rw [Node.isParameterPart, alike.blind_part.extra spare, Bool.false_and]

/-! What the searches find under two declaration nodes corresponds. -/

variable {left right : Node} (pair : Matching Extra R left right)

include pair

theorem lookup? (name : String) :
    Option.Rel R (left.lookup? name) (right.lookup? name) := by
  have blind : Blind Extra R fun child => child.row.lookups.contains name := by
    constructor
    · intro one other related
      rw [alike.lookups related]
    · intro node spare
      rw [(alike.extra spare).lookups]
      rfl
  exact rel_imp And.left (pair.children.find? blind)

theorem lookup?_text (name : String) :
    (right.lookup? name).bind (Node.text? source') =
      (left.lookup? name).bind (Node.text? source) :=
  bind_eq_of_rel (alike.lookup? pair name) alike.text

theorem lookupText? (name : String) :
    right.lookupText? source' name = left.lookupText? source name := by
  rw [Node.lookupText?, Node.lookupText?, alike.lookup?_text pair name]

theorem childOfKind? (kind : String) (noComment : commentKinds.contains kind = false) :
    Option.Rel (fun one other => R one other ∧ one.kind = kind)
      (left.childOfKind? kind) (right.childOfKind? kind) :=
  rel_imp (fun found => ⟨found.1, by simpa using found.2⟩)
    (pair.children.find? (alike.blind_kind_eq kind noComment))

theorem childOfKind?_text (kind : String) (noComment : commentKinds.contains kind = false) :
    (right.childOfKind? kind).bind (Node.text? source') =
      (left.childOfKind? kind).bind (Node.text? source) :=
  bind_eq_of_rel (alike.childOfKind? pair kind noComment) fun found => alike.text found.1

theorem childrenOfKind (kind : String) (noComment : commentKinds.contains kind = false) :
    Aligned (fun one other => R one other ∧ one.kind = kind)
      (left.childrenOfKind kind) (right.childrenOfKind kind) :=
  (pair.children.filter (alike.blind_kind_eq kind noComment)).imp
    fun found => ⟨found.1, by simpa using found.2⟩

theorem namedChildren : Aligned R left.namedChildren right.namedChildren :=
  (pair.children.filter alike.blind_part).imp And.left

theorem firstToken? (spellings : List String) :
    right.firstToken? spellings = left.firstToken? spellings := by
  have blind : Blind Extra R fun child => !child.named && spellings.contains child.kind := by
    constructor
    · intro one other related
      rw [alike.named related, alike.kind related]
    · intro node spare
      rw [(alike.extra spare).named]
      rfl
  exact map_eq_of_rel (pair.children.find? blind) fun found => alike.kind found.1

theorem hasToken (spelling : String) :
    right.hasToken spelling = left.hasToken spelling :=
  pair.children.any (alike.blind_token spelling)

theorem after (spelling : String) :
    Interleaved Extra R (left.after spelling) (right.after spelling) :=
  pair.children.drop_dropWhile (alike.blind_token spelling)

theorem namedAfter?_text (spelling : String) :
    (right.namedAfter? spelling).bind (Node.text? source') =
      (left.namedAfter? spelling).bind (Node.text? source) :=
  bind_eq_of_rel ((alike.after pair spelling).find? alike.blind_part)
    fun found => alike.text found.1

theorem childAfter?_text (spelling : String) :
    (right.childAfter? spelling).bind (Node.text? source') =
      (left.childAfter? spelling).bind (Node.text? source) := by
  have blind : Blind Extra R (!Node.isComment ·) := by
    constructor
    · intro one other related
      rw [alike.isComment_eq related]
    · intro node spare
      rw [(alike.extra spare).isComment]
      rfl
  exact bind_eq_of_rel ((alike.after pair spelling).find? blind)
    fun found => alike.text found.1

omit pair

/-- The types of two parameter nodes agree when the spans between those of their children do that
a narrower relation lets correspond. -/
theorem parameterType?_eq_of_narrower {S : Node → Node → Prop}
    (narrower : ∀ {one other : Node}, S one other → R one other)
    (children : Interleaved Extra S left.children right.children)
    (spans : ∀ {first first' last last' : Node}, S first first' → S last last' →
      spanText? source' first' last' = spanText? source first last) :
    parameterType? source' right = parameterType? source left := by
  have afterColon : Interleaved Extra S (left.after ":") (right.after ":") :=
    children.drop_dropWhile ((alike.blind_token ":").of_narrower narrower)
  have pieces := afterColon.filter (alike.blind_parameterPart.of_narrower narrower)
  exact bind_eq_of_rel pieces.head? fun first =>
    bind_eq_of_rel pieces.getLast? fun last => spans first.1 last.1

include pair

/-- The types of two parameter nodes agree when the spans between corresponding nodes do. -/
theorem parameterType?_eq
    (spans : ∀ {first first' last last' : Node}, R first first' → R last last' →
      spanText? source' first' last' = spanText? source first last) :
    parameterType? source' right = parameterType? source left :=
  alike.parameterType?_eq_of_narrower id pair.children spans

end Alike

end Synopsis
