/-
Module: Synopsis.Proofs.Selection
Purpose: The selector of settings.  A text names at most one kind, so a list of names stands for a
  set of kinds.  The selector is a normal form of that set: it takes exactly the kinds of the set,
  and two lists have the same selector exactly when they name the same kinds.
Main exports:
  Kind.IsNamedBy, Kind.IsName, Kind.NamedIn, parse_eq_ok_iff, parse_eq_error_iff, Ascending,
  ascending_sortKinds, Selector.NormalFor, normalFor_selectorOf, selector_normal_form
-/
import Mathlib.Data.List.Sort
import Synopsis.Proofs.FirstFault
import Synopsis.Settings

namespace Synopsis

/-! ### Names of kinds -/

namespace Kind

/-- A text names a kind when it is one of the kind's spellings, up to surrounding blanks and the
case of ASCII letters. -/
def IsNamedBy (kind : Kind) (text : String) : Prop :=
  normalize text ∈ kind.spellings

/-- Whether a text names any kind. -/
def IsName (text : String) : Prop :=
  ∃ kind : Kind, kind.IsNamedBy text

/-- Whether a kind is among those that a list of texts names. -/
def NamedIn (names : List String) (kind : Kind) : Prop :=
  ∃ name ∈ names, kind.IsNamedBy name

instance (kind : Kind) (text : String) : Decidable (kind.IsNamedBy text) :=
  inferInstanceAs (Decidable (_ ∈ _))

instance (names : List String) (kind : Kind) : Decidable (kind.NamedIn names) :=
  inferInstanceAs (Decidable (∃ name ∈ names, kind.IsNamedBy name))

theorem mem_all (kind : Kind) : kind ∈ all := by
  cases kind <;> decide

instance (text : String) : Decidable (IsName text) :=
  decidable_of_iff (∃ kind ∈ all, kind.IsNamedBy text) (by simp only [IsName, mem_all, true_and])

/-- No word spells two kinds. -/
theorem eq_of_mem_spellings {kind other : Kind} {word : String} (one : word ∈ kind.spellings)
    (two : word ∈ other.spellings) : kind = other := by
  have disjoint : ∀ kind ∈ all, ∀ other ∈ all, ∀ word ∈ kind.spellings,
      word ∈ other.spellings → kind = other := by
    decide +kernel
  exact disjoint kind (mem_all kind) other (mem_all other) word one two

/-- Every spelling of a kind names it as it stands. -/
theorem isNamedBy_of_mem_spellings {kind : Kind} {word : String} (spelled : word ∈ kind.spellings) :
    kind.IsNamedBy word := by
  have every : ∀ kind ∈ all, ∀ word ∈ kind.spellings, kind.IsNamedBy word := by
    decide +kernel
  exact every kind (mem_all kind) word spelled

/-- The keyword and the label of a kind are among its spellings. -/
theorem mem_spellings (kind : Kind) :
    kind.keyword ∈ kind.spellings ∧ kind.label ∈ kind.spellings := by
  cases kind <;> decide

theorem isNamedBy_of_ofText? {text : String} {kind : Kind} (found : ofText? text = some kind) :
    kind.IsNamedBy text := by
  have passed := List.find?_some found
  exact List.contains_iff_mem.mp passed

theorem ofText?_eq_some_iff {text : String} {kind : Kind} :
    ofText? text = some kind ↔ kind.IsNamedBy text := by
  constructor
  · exact isNamedBy_of_ofText?
  · intro named
    -- The search succeeds because this kind passes, and whatever it finds has the same word.
    have succeeds : (ofText? text).isSome := by
      rw [ofText?, List.find?_isSome]
      exact ⟨kind, mem_all kind, List.contains_iff_mem.mpr named⟩
    obtain ⟨other, found⟩ := Option.isSome_iff_exists.mp succeeds
    rw [found, eq_of_mem_spellings named (isNamedBy_of_ofText? found)]

/-- A text is read as the kind that it names. -/
theorem parse_eq_ok_iff {text : String} {kind : Kind} :
    parse text = .ok kind ↔ kind.IsNamedBy text := by
  rw [← ofText?_eq_some_iff, parse]
  cases ofText? text <;> simp

/-- A text that names no kind is refused as it was written. -/
theorem parse_eq_error_iff {text : String} {fault : Fault} :
    parse text = .error fault ↔ ¬ IsName text ∧ fault = .unknownKind text := by
  have unnamed : ¬ IsName text ↔ ofText? text = none := by
    simp only [IsName, ← ofText?_eq_some_iff, Option.eq_none_iff_forall_ne_some, not_exists, ne_eq]
  rw [unnamed, parse]
  cases ofText? text <;> simp [eq_comm]

/-- A list of names is empty exactly when it names no kind. -/
theorem eq_nil_iff_of_isName {names : List String} (known : ∀ name ∈ names, IsName name) :
    names = [] ↔ ∀ kind : Kind, ¬ kind.NamedIn names := by
  constructor
  · rintro rfl kind ⟨name, member, -⟩
    exact List.not_mem_nil member
  · intro unnamed
    apply List.eq_nil_iff_forall_not_mem.mpr
    intro name member
    obtain ⟨kind, named⟩ := known name member
    exact unnamed kind ⟨name, member, named⟩

theorem rank_injective : Function.Injective rank := by
  have apart : ∀ kind ∈ all, ∀ other ∈ all, kind.rank = other.rank → kind = other := by
    decide +kernel
  intro kind other same
  exact apart kind (mem_all kind) other (mem_all other) same

end Kind

/-! ### Ascending lists of kinds -/

/-- A list of kinds in the order of the kinds, without repetitions. -/
def Ascending (kinds : List Kind) : Prop :=
  kinds.Pairwise (·.rank < ·.rank)

instance (kinds : List Kind) : Decidable (Ascending kinds) :=
  inferInstanceAs (Decidable (kinds.Pairwise _))

-- The order is the one in which the kinds are listed.
example : Ascending Kind.all := by decide

/-- An ascending list is determined by its members. -/
theorem Ascending.eq_of_mem_iff {kinds others : List Kind} (ascending : Ascending kinds)
    (ascending' : Ascending others) (same : ∀ kind, kind ∈ kinds ↔ kind ∈ others) :
    kinds = others := by
  have antisymmetric : Std.Antisymm fun kind other : Kind => kind.rank < other.rank :=
    ⟨fun _ _ less greater => absurd greater (Nat.lt_asymm less)⟩
  have irreflexive : Std.Irrefl fun kind other : Kind => kind.rank < other.rank :=
    ⟨fun _ => Nat.lt_irrefl _⟩
  exact List.Pairwise.eq_of_mem_iff ascending ascending' same

namespace Settings

theorem mem_insertKind {kind new : Kind} {kinds : List Kind} :
    kind ∈ insertKind new kinds ↔ kind = new ∨ kind ∈ kinds := by
  induction kinds with
  | nil => simp [insertKind]
  | cons other others inductionHypothesis =>
      rw [insertKind]
      split
      · exact List.mem_cons
      split
      · next sameRank =>
          have same : new = other := Kind.rank_injective sameRank
          simp [same]
      · rw [List.mem_cons, inductionHypothesis, List.mem_cons]
        exact or_left_comm

theorem ascending_insertKind (new : Kind) {kinds : List Kind} (ascending : Ascending kinds) :
    Ascending (insertKind new kinds) := by
  induction kinds with
  | nil => exact List.pairwise_singleton _ _
  | cons other others inductionHypothesis =>
      obtain ⟨least, rest⟩ := List.pairwise_cons.mp ascending
      rw [insertKind]
      split
      · next before =>
          apply List.pairwise_cons.mpr
          refine ⟨?_, ascending⟩
          intro kind member
          rcases List.mem_cons.mp member with rfl | later
          · exact before
          · exact before.trans (least kind later)
      split
      · exact ascending
      · next notBefore notSame =>
          apply List.pairwise_cons.mpr
          refine ⟨?_, inductionHypothesis rest⟩
          intro kind member
          rcases mem_insertKind.mp member with rfl | later
          · omega
          · exact least kind later

theorem mem_sortKinds {kind : Kind} {kinds : List Kind} :
    kind ∈ sortKinds kinds ↔ kind ∈ kinds := by
  induction kinds with
  | nil => rfl
  | cons first rest inductionHypothesis =>
      rw [sortKinds, List.foldr_cons, mem_insertKind, List.mem_cons]
      exact or_congr_right inductionHypothesis

theorem sortKinds_eq_nil_iff {kinds : List Kind} : sortKinds kinds = [] ↔ kinds = [] := by
  simp only [List.eq_nil_iff_forall_not_mem, mem_sortKinds]

theorem ascending_sortKinds (kinds : List Kind) : Ascending (sortKinds kinds) := by
  induction kinds with
  | nil => exact List.Pairwise.nil
  | cons first rest inductionHypothesis => exact ascending_insertKind first inductionHypothesis

end Settings

/-! ### Selectors for a list of names -/

/-- What the selector for a list of names has to be.  It takes the kinds that are named, or every
kind where there are no names, and its form depends on how many kinds are named. -/
structure Selector.NormalFor (names : List String) (selector : Selector) : Prop where
  accepts : ∀ kind, selector.accepts kind = true ↔ names = [] ∨ kind.NamedIn names
  any : selector = .any ↔ names = []
  only : ∀ kind, selector = .only kind ↔ ∀ other : Kind, other.NamedIn names ↔ other = kind
  anyOf : ∀ kinds, selector = .anyOf kinds ↔
    2 ≤ kinds.length ∧ Ascending kinds ∧ ∀ kind, kind ∈ kinds ↔ kind.NamedIn names

namespace Selector.NormalFor

variable {names names' : List String} {selector selector' : Selector}

/-- The names are known from the selector, as far as the kinds go. -/
theorem namedIn_iff (normal : selector.NormalFor names) (kind : Kind) :
    kind.NamedIn names ↔ selector ≠ .any ∧ selector.accepts kind = true := by
  rw [normal.accepts, ne_eq, normal.any]
  constructor
  · rintro ⟨name, member, named⟩
    exact ⟨List.ne_nil_of_mem member, .inr ⟨name, member, named⟩⟩
  · rintro ⟨nonempty, empty | named⟩
    · exact absurd empty nonempty
    · exact named

/-- Only one selector fits a list of names. -/
theorem eq_of_namedIn_iff (normal : selector.NormalFor names) (normal' : selector'.NormalFor names')
    (empty : names = [] ↔ names' = [])
    (same : ∀ kind : Kind, kind.NamedIn names ↔ kind.NamedIn names') : selector = selector' := by
  cases selector with
  | any => exact (normal'.any.mpr (empty.mp (normal.any.mp rfl))).symm
  | only kind =>
      symm
      apply (normal'.only kind).mpr
      intro other
      rw [← same other]
      exact (normal.only kind).mp rfl other
  | anyOf kinds =>
      obtain ⟨several, ascending, members⟩ := (normal.anyOf kinds).mp rfl
      symm
      apply (normal'.anyOf kinds).mpr
      refine ⟨several, ascending, ?_⟩
      intro kind
      rw [members kind, same kind]

end Selector.NormalFor

namespace Settings

variable {kinds : List Kind}

theorem selectorOf_eq_any_iff : selectorOf kinds = .any ↔ kinds = [] := by
  match kinds with
  | [] => simp [selectorOf]
  | [_] => simp [selectorOf]
  | _ :: _ :: _ => simp [selectorOf]

theorem selectorOf_eq_only_iff {kind : Kind} : selectorOf kinds = .only kind ↔ kinds = [kind] := by
  match kinds with
  | [] => simp [selectorOf]
  | [_] => simp [selectorOf]
  | _ :: _ :: _ => simp [selectorOf]

theorem selectorOf_eq_anyOf_iff {others : List Kind} :
    selectorOf kinds = .anyOf others ↔ 2 ≤ others.length ∧ kinds = others := by
  match kinds with
  | [] =>
      simp only [selectorOf, reduceCtorEq, false_iff]
      rintro ⟨several, rfl⟩
      simp at several
  | [kind] =>
      simp only [selectorOf, reduceCtorEq, false_iff]
      rintro ⟨several, rfl⟩
      simp at several
  | first :: second :: rest =>
      simp only [selectorOf, Selector.anyOf.injEq, iff_and_self]
      rintro rfl
      simp

theorem accepts_selectorOf_iff {kind : Kind} :
    (selectorOf kinds).accepts kind = true ↔ kinds = [] ∨ kind ∈ kinds := by
  match kinds with
  | [] => simp [selectorOf, Selector.accepts]
  | [other] => simp [selectorOf, Selector.accepts, eq_comm (a := kind)]
  | _ :: _ :: _ => simp [selectorOf, Selector.accepts]

/-- The selector of an ascending list of the kinds that are named is the one for the names. -/
theorem normalFor_selectorOf {names : List String} (ascending : Ascending kinds)
    (members : ∀ kind, kind ∈ kinds ↔ kind.NamedIn names) (empty : kinds = [] ↔ names = []) :
    (selectorOf kinds).NormalFor names where
  accepts kind := by rw [accepts_selectorOf_iff, empty, members]
  any := by rw [selectorOf_eq_any_iff, empty]
  only kind := by
    rw [selectorOf_eq_only_iff]
    constructor
    · rintro rfl other
      rw [← members, List.mem_singleton]
    · intro alone
      apply ascending.eq_of_mem_iff (List.pairwise_singleton _ _)
      intro other
      rw [members, alone, List.mem_singleton]
  anyOf others := by
    rw [selectorOf_eq_anyOf_iff]
    apply and_congr_right
    intro _
    constructor
    · rintro rfl
      exact ⟨ascending, members⟩
    · rintro ⟨ascending', members'⟩
      apply ascending.eq_of_mem_iff ascending'
      intro kind
      rw [members, members']

/-! ### The selector of settings -/

/-- The kinds that are read from a list of names are those that it names. -/
theorem mem_iff_namedIn {names : List String}
    (read : List.Forall₂ (fun name kind => Kind.parse name = .ok kind) names kinds) (kind : Kind) :
    kind ∈ kinds ↔ kind.NamedIn names := by
  induction read with
  | nil => simp [Kind.NamedIn]
  | @cons name first names kinds firstRead _ inductionHypothesis =>
      have named : kind.IsNamedBy name ↔ kind = first := by
        rw [← Kind.parse_eq_ok_iff, firstRead, Except.ok.injEq, eq_comm]
      rw [List.mem_cons, inductionHypothesis, ← named]
      simp only [Kind.NamedIn, List.mem_cons, exists_eq_or_imp]

/-- A selector that is found is the one for the names. -/
theorem normalFor_of_selector {names : List String} {selector : Selector}
    (found : Settings.selector { kinds := names } = .ok selector) : selector.NormalFor names := by
  obtain ⟨kinds, read, same⟩ := bind_eq_ok_iff.mp found
  cases same
  have related := mapM_eq_ok_iff.mp read
  apply normalFor_selectorOf (ascending_sortKinds kinds)
  · intro kind
    rw [mem_sortKinds]
    exact mem_iff_namedIn related kind
  · rw [sortKinds_eq_nil_iff, ← List.length_eq_zero_iff, ← related.length_eq,
      List.length_eq_zero_iff]

/-- Settings are at fault for their first name that names no kind. -/
theorem selector_eq_error_iff {names : List String} {fault : Fault} :
    Settings.selector { kinds := names } = .error fault ↔
      ∃ before name after, names = before ++ name :: after ∧
        (∀ earlier ∈ before, Kind.IsName earlier) ∧ ¬ Kind.IsName name ∧
        fault = .unknownKind name := by
  rw [Settings.selector, bind_eq_error_iff, mapM_eq_error_iff]
  simp only [Kind.parse_eq_error_iff, Kind.parse_eq_ok_iff, reduceCtorEq, and_false, exists_false,
    or_false]
  rfl

/-- Settings have a selector as long as all their names name kinds. -/
theorem exists_selector {names : List String} (known : ∀ name ∈ names, Kind.IsName name) :
    ∃ selector, Settings.selector { kinds := names } = .ok selector := by
  cases outcome : Settings.selector { kinds := names } with
  | ok selector => exact ⟨selector, rfl⟩
  | error fault =>
      obtain ⟨before, name, after, rfl, -, unknown, -⟩ := selector_eq_error_iff.mp outcome
      exact absurd (known name (by simp)) unknown

/-- A single name selects the kind that it names. -/
theorem selector_singleton {name : String} {kind : Kind} (named : kind.IsNamedBy name) :
    Settings.selector { kinds := [name] } = .ok (.only kind) := by
  have read : [name].mapM Kind.parse = .ok [kind] := by
    apply mapM_eq_ok_iff.mpr
    exact .cons (Kind.parse_eq_ok_iff.mpr named) .nil
  rw [Settings.selector, read]
  rfl

end Settings

/-- The selector of settings is a normal form of the set of kinds that the settings name.  Settings
are refused exactly for a name that names no kind, and then for the first one; otherwise the
selector is the one for the names, and it says no more and no less than which kinds are named.  The
keyword and the label of a kind select that kind alone. -/
theorem selector_normal_form (names : List String) :
    (∀ fault, Settings.selector { kinds := names } = .error fault ↔
      ∃ before name after, names = before ++ name :: after ∧
        (∀ earlier ∈ before, Kind.IsName earlier) ∧ ¬ Kind.IsName name ∧
        fault = .unknownKind name) ∧
    ((∀ name ∈ names, Kind.IsName name) →
      (∃ selector, Settings.selector { kinds := names } = .ok selector ∧
        selector.NormalFor names) ∧
      ∀ names' : List String, (∀ name ∈ names', Kind.IsName name) →
        (Settings.selector { kinds := names' } = Settings.selector { kinds := names } ↔
          ∀ kind : Kind, kind.NamedIn names' ↔ kind.NamedIn names)) ∧
    ∀ kind : Kind,
      Settings.selector { kinds := [kind.keyword] } = .ok (.only kind) ∧
      Settings.selector { kinds := [kind.label] } = .ok (.only kind) := by
  refine ⟨fun fault => Settings.selector_eq_error_iff, ?_, ?_⟩
  · intro known
    obtain ⟨selector, found⟩ := Settings.exists_selector known
    have normal := Settings.normalFor_of_selector found
    refine ⟨⟨selector, found, normal⟩, ?_⟩
    intro names' known'
    obtain ⟨selector', found'⟩ := Settings.exists_selector known'
    have normal' := Settings.normalFor_of_selector found'
    rw [found, found', Except.ok.injEq]
    constructor
    · rintro rfl kind
      rw [normal.namedIn_iff, normal'.namedIn_iff]
    · intro same
      apply normal'.eq_of_namedIn_iff normal ?_ same
      rw [Kind.eq_nil_iff_of_isName known, Kind.eq_nil_iff_of_isName known']
      exact forall_congr' fun kind => not_congr (same kind)
  · intro kind
    constructor
    · apply Settings.selector_singleton
      exact Kind.isNamedBy_of_mem_spellings kind.mem_spellings.1
    · apply Settings.selector_singleton
      exact Kind.isNamedBy_of_mem_spellings kind.mem_spellings.2

/-- Names of three kinds with blanks around them, in capitals, as aliases and repeated. -/
def respelledNames : List String :=
  [" LET\n", "enum", "Case", "\tVAR ", "enumeration"]

/-- The same kinds, each named once. -/
def plainNames : List String :=
  ["case", "enum", "var"]

/-- However three kinds are named, their selector lists them in order. -/
theorem selector_of_respelledNames :
    (∀ name ∈ respelledNames, Kind.IsName name) ∧ (∀ name ∈ plainNames, Kind.IsName name) ∧
    Settings.selector { kinds := plainNames } = Settings.selector { kinds := respelledNames } ∧
    Settings.selector { kinds := plainNames } =
      .ok (.anyOf [.enumCase, .enumeration, .variableBinding]) := by
  have known : ∀ name ∈ respelledNames, Kind.IsName name := by decide +kernel
  have known' : ∀ name ∈ plainNames, Kind.IsName name := by decide +kernel
  have same : ∀ kind ∈ Kind.all, kind.NamedIn plainNames ↔ kind.NamedIn respelledNames := by
    decide +kernel
  have equal := (((selector_normal_form respelledNames).2.1 known).2 plainNames known').mpr
    fun kind => same kind (Kind.mem_all kind)
  exact ⟨known, known', equal, by decide +kernel⟩

end Synopsis
