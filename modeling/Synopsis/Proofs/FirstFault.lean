/-
Module: Synopsis.Proofs.FirstFault
Purpose: Running a fallible reading over a list.  Either every item succeeds and the results stand
  in the order of the items, or the run ends with the fault of the first item that fails.
Main exports:
  mapM_eq_ok_iff, mapM_eq_error_iff, yieldAll, yieldAll_eq_ok_iff, yieldAll_eq_error_iff,
  yieldAll_append, yieldAll_append_eq_ok_iff, yieldAll_map, yieldAll_succeeds_iff,
  mem_of_yieldAll, exists_of_mem_yieldAll, yieldAll_view
-/
import Mathlib.Data.List.Forall2
import Synopsis.Collect

namespace Synopsis

universe u v w

variable {ε : Type u} {α β : Type v} {ι : Type w}

/-! ### One step after another -/

/-- Two steps succeed when the first does and the second does with its result. -/
theorem bind_eq_ok_iff {first : Except ε α} {second : α → Except ε β} {result : β} :
    first >>= second = .ok result ↔ ∃ middle, first = .ok middle ∧ second middle = .ok result := by
  cases first <;> simp [bind, Except.bind]

/-- Two steps fail when the first does, or when it succeeds and the second fails. -/
theorem bind_eq_error_iff {first : Except ε α} {second : α → Except ε β} {fault : ε} :
    first >>= second = .error fault ↔
      first = .error fault ∨ ∃ middle, first = .ok middle ∧ second middle = .error fault := by
  cases first <;> simp [bind, Except.bind]

/-- A result that is only changed afterwards is there exactly when the first one is. -/
theorem map_eq_ok_iff {first : Except ε α} {change : α → β} {result : β} :
    first.map change = .ok result ↔ ∃ middle, first = .ok middle ∧ change middle = result := by
  cases first <;> simp [Except.map]

/-- Changing results keeps faults. -/
theorem map_eq_error_iff {first : Except ε α} {change : α → β} {fault : ε} :
    first.map change = .error fault ↔ first = .error fault := by
  cases first <;> simp [Except.map]

/-! ### Many steps -/

/-- A run succeeds exactly when every item does, with the results in order. -/
theorem mapM_eq_ok_iff {read : ι → Except ε β} {items : List ι} {results : List β} :
    items.mapM read = .ok results ↔
      List.Forall₂ (fun item result => read item = .ok result) items results := by
  induction items generalizing results with
  | nil =>
      cases results <;> simp [pure, Except.pure]
  | cons item rest inductionHypothesis =>
      simp only [List.mapM_cons, bind_eq_ok_iff, inductionHypothesis, pure, Except.pure,
        Except.ok.injEq, List.forall₂_cons_left_iff]
      constructor
      · rintro ⟨result, head, others, tail, rfl⟩
        exact ⟨result, others, head, tail, rfl⟩
      · rintro ⟨result, others, head, tail, rfl⟩
        exact ⟨result, head, others, tail, rfl⟩

/-- A run fails exactly with the fault of its first failing item; what comes after that item is
never read. -/
theorem mapM_eq_error_iff {read : ι → Except ε β} {items : List ι} {fault : ε} :
    items.mapM read = .error fault ↔
      ∃ before item after, items = before ++ item :: after ∧
        (∀ earlier ∈ before, ∃ result, read earlier = .ok result) ∧ read item = .error fault := by
  induction items with
  | nil =>
      simp [pure, Except.pure]
  | cons first rest inductionHypothesis =>
      simp only [List.mapM_cons, bind_eq_error_iff, inductionHypothesis, pure, Except.pure,
        reduceCtorEq, and_false, exists_false, or_false]
      constructor
      · rintro (failed | ⟨result, readEq, before, item, after, rfl, succeeded, failed⟩)
        · exact ⟨[], first, rest, rfl, by simp, failed⟩
        · refine ⟨first :: before, item, after, rfl, ?_, failed⟩
          intro earlier member
          rcases List.mem_cons.mp member with rfl | later
          · exact ⟨result, readEq⟩
          · exact succeeded earlier later
      · rintro ⟨before, item, after, split, succeeded, failed⟩
        cases before with
        | nil =>
            cases split
            exact Or.inl failed
        | cons earlier others =>
            cases split
            rcases succeeded first List.mem_cons_self with ⟨result, readEq⟩
            refine Or.inr ⟨result, readEq, others, item, after, rfl, ?_, failed⟩
            intro other member
            exact succeeded other (List.mem_cons_of_mem _ member)

/-! ### Runs whose items give lists -/

/-- What several items yield, one after the other, up to the first fault. -/
def yieldAll (yield : ι → Except ε (List β)) (items : List ι) : Except ε (List β) :=
  (items.mapM yield).map List.flatten

theorem yieldAll_nil (yield : ι → Except ε (List β)) : yieldAll yield [] = .ok [] :=
  rfl

theorem yieldAll_cons (yield : ι → Except ε (List β)) (item : ι) (items : List ι) :
    yieldAll yield (item :: items) = (do
      let first ← yield item
      let others ← yieldAll yield items
      .ok (first ++ others)) := by
  rw [yieldAll, yieldAll, List.mapM_cons]
  cases yield item with
  | error fault => rfl
  | ok first =>
      cases items.mapM yield with
      | error fault => rfl
      | ok others => rfl

/-- A run over two stretches is the run over the first followed by that over the second. -/
theorem yieldAll_append (yield : ι → Except ε (List β)) (left right : List ι) :
    yieldAll yield (left ++ right) = (do
      let first ← yieldAll yield left
      let others ← yieldAll yield right
      .ok (first ++ others)) := by
  induction left with
  | nil =>
      rw [List.nil_append, yieldAll_nil]
      cases yieldAll yield right <;> rfl
  | cons item rest inductionHypothesis =>
      rw [List.cons_append, yieldAll_cons, inductionHypothesis, yieldAll_cons]
      cases yield item with
      | error fault => rfl
      | ok first =>
          cases yieldAll yield rest with
          | error fault => rfl
          | ok middle =>
              cases yieldAll yield right with
              | error fault => rfl
              | ok others => simp [bind, Except.bind]

theorem yieldAll_append_eq_ok_iff {yield : ι → Except ε (List β)} {left right : List ι}
    {results : List β} :
    yieldAll yield (left ++ right) = .ok results ↔
      ∃ first others, yieldAll yield left = .ok first ∧ yieldAll yield right = .ok others ∧
        first ++ others = results := by
  rw [yieldAll_append, bind_eq_ok_iff]
  simp only [bind_eq_ok_iff, Except.ok.injEq, exists_and_left]

/-- Changing each result as it is yielded is changing all results at the end. -/
theorem yieldAll_map {γ : Type v} (yield : ι → Except ε (List β)) (change : β → γ)
    (items : List ι) :
    yieldAll (fun item => (yield item).map (List.map change)) items =
      (yieldAll yield items).map (List.map change) := by
  induction items with
  | nil => rfl
  | cons item rest inductionHypothesis =>
      rw [yieldAll_cons, yieldAll_cons, inductionHypothesis]
      cases yield item with
      | error fault => rfl
      | ok first =>
          cases yieldAll yield rest with
          | error fault => rfl
          | ok others => simp [Except.map, bind, Except.bind]

/-- A run gives the blocks that its items yield, joined in order. -/
theorem yieldAll_eq_ok_iff {yield : ι → Except ε (List β)} {items : List ι} {results : List β} :
    yieldAll yield items = .ok results ↔
      ∃ blocks, List.Forall₂ (fun item block => yield item = .ok block) items blocks ∧
        blocks.flatten = results := by
  rw [yieldAll, map_eq_ok_iff]
  simp only [mapM_eq_ok_iff]

/-- A run that gives lists fails exactly with the fault of its first failing item. -/
theorem yieldAll_eq_error_iff {yield : ι → Except ε (List β)} {items : List ι} {fault : ε} :
    yieldAll yield items = .error fault ↔
      ∃ before item after, items = before ++ item :: after ∧
        (∀ earlier ∈ before, ∃ block, yield earlier = .ok block) ∧ yield item = .error fault := by
  rw [yieldAll, map_eq_error_iff, mapM_eq_error_iff]

/-- A run succeeds exactly when every item does. -/
theorem yieldAll_succeeds_iff {yield : ι → Except ε (List β)} {items : List ι} :
    (∃ results, yieldAll yield items = .ok results) ↔
      ∀ item ∈ items, ∃ block, yield item = .ok block := by
  constructor
  · rintro ⟨results, succeeded⟩
    rcases yieldAll_eq_ok_iff.mp succeeded with ⟨blocks, related, -⟩
    clear succeeded
    induction related with
    | nil => simp
    | cons yielded _ inductionHypothesis =>
        intro item member
        rcases List.mem_cons.mp member with rfl | later
        · exact ⟨_, yielded⟩
        · exact inductionHypothesis item later
  · intro every
    cases outcome : yieldAll yield items with
    | ok results => exact ⟨results, rfl⟩
    | error fault =>
        rcases yieldAll_eq_error_iff.mp outcome with ⟨before, item, after, rfl, -, failed⟩
        rcases every item (by simp) with ⟨block, yielded⟩
        rw [failed] at yielded
        cases yielded

/-- Nothing that an item yields is lost. -/
theorem mem_of_yieldAll {yield : ι → Except ε (List β)} {items : List ι} {results block : List β}
    {item : ι} {result : β} (succeeded : yieldAll yield items = .ok results)
    (member : item ∈ items) (yielded : yield item = .ok block) (inBlock : result ∈ block) :
    result ∈ results := by
  rcases yieldAll_eq_ok_iff.mp succeeded with ⟨blocks, related, rfl⟩
  clear succeeded
  induction related with
  | nil => simp at member
  | cons headEq _ inductionHypothesis =>
      rw [List.flatten_cons, List.mem_append]
      rcases List.mem_cons.mp member with rfl | later
      · rw [headEq] at yielded
        cases yielded
        exact Or.inl inBlock
      · exact Or.inr (inductionHypothesis later)

/-- Everything in a result was yielded by an item. -/
theorem exists_of_mem_yieldAll {yield : ι → Except ε (List β)} {items : List ι}
    {results : List β} {result : β} (succeeded : yieldAll yield items = .ok results)
    (member : result ∈ results) : ∃ item ∈ items, ∃ block, yield item = .ok block ∧
      result ∈ block := by
  rcases yieldAll_eq_ok_iff.mp succeeded with ⟨blocks, related, rfl⟩
  clear succeeded
  induction related with
  | nil => simp at member
  | cons headEq _ inductionHypothesis =>
      rw [List.flatten_cons, List.mem_append] at member
      rcases member with inHead | inRest
      · exact ⟨_, List.mem_cons_self, _, headEq, inHead⟩
      · rcases inductionHypothesis inRest with ⟨item, itemMember, found⟩
        exact ⟨item, List.mem_cons_of_mem _ itemMember, found⟩

/-- What can be seen of each block separately can be seen of the whole result. -/
theorem yieldAll_view {γ : Type v} {yield : ι → Except ε (List β)} {items : List ι}
    {results : List β} (view : List β → List γ) (look : ι → List γ) (empty : view [] = [])
    (join : ∀ left right, view (left ++ right) = view left ++ view right)
    (agrees : ∀ item ∈ items, ∀ block, yield item = .ok block → view block = look item)
    (succeeded : yieldAll yield items = .ok results) : view results = items.flatMap look := by
  induction items generalizing results with
  | nil =>
      cases succeeded
      exact empty
  | cons item rest inductionHypothesis =>
      rw [yieldAll_cons, bind_eq_ok_iff] at succeeded
      rcases succeeded with ⟨first, firstEq, succeeded⟩
      rcases bind_eq_ok_iff.mp succeeded with ⟨others, othersEq, joined⟩
      cases joined
      have head := agrees item List.mem_cons_self first firstEq
      have tail := inductionHypothesis
        (fun other member => agrees other (List.mem_cons_of_mem _ member)) othersEq
      rw [join, head, tail, List.flatMap_cons]

end Synopsis
