/-
Module: Synopsis.Proofs.CharacterBoundaries
Purpose: The two ways to read a range of the source.  The bytes of a range decode on their own
  exactly when the range is empty or both its ends are character boundaries, so decoding a range and
  cutting it out differ only where an empty range lies inside a character.
Main exports:
  AtBoundary, InsideCharacter, insideCharacter_iff, isSome_decode?_iff, decode?_eq_slice?,
  text_readers_agree_on_boundaries
-/
import Synopsis.Proofs.Positions

namespace Synopsis

/-! ### Boundaries and the offsets between them -/

/-- The offset is a character boundary of the source: a first part of its characters ends there. -/
def AtBoundary (source : String) (offset : Nat) : Prop :=
  ∃ front back, source = front ++ back ∧ front.utf8ByteSize = offset

/-- The offset lies strictly inside a character of the source, which then has several bytes. -/
def InsideCharacter (source : String) (offset : Nat) : Prop :=
  ∃ front c back, source = front ++ (String.singleton c ++ back) ∧
    front.utf8ByteSize < offset ∧ offset < front.utf8ByteSize + c.utf8Size

variable {source : String} {offset start stop : Nat}

theorem atBoundary_iff_isValid :
    AtBoundary source offset ↔ (String.Pos.Raw.mk offset).IsValid source := by
  rw [String.Pos.Raw.isValid_iff_exists_append]
  simp only [AtBoundary, String.Pos.Raw.ext_iff, String.byteIdx_rawEndPos, eq_comm]

theorem atBoundary_zero (source : String) : AtBoundary source 0 :=
  ⟨"", source, String.empty_append.symm, String.utf8ByteSize_empty⟩

theorem AtBoundary.append (boundary : AtBoundary source offset) (front : String) :
    AtBoundary (front ++ source) (front.utf8ByteSize + offset) := by
  obtain ⟨before, back, rfl, rfl⟩ := boundary
  exact ⟨front ++ before, back, String.append_assoc.symm, String.utf8ByteSize_append⟩

theorem InsideCharacter.append (inside : InsideCharacter source offset) (front : String) :
    InsideCharacter (front ++ source) (front.utf8ByteSize + offset) := by
  obtain ⟨before, c, back, rfl, starts, stops⟩ := inside
  have size : (front ++ before).utf8ByteSize = front.utf8ByteSize + before.utf8ByteSize :=
    String.utf8ByteSize_append
  exact ⟨front ++ before, c, back, String.append_assoc.symm, by omega, by omega⟩

theorem InsideCharacter.not_atBoundary (inside : InsideCharacter source offset) :
    ¬AtBoundary source offset := by
  obtain ⟨front, c, back, rfl, starts, stops⟩ := inside
  obtain ⟨distance, rfl⟩ := Nat.exists_eq_add_of_le starts.le
  -- Seen from the end of the front, the boundary is one of the single character or lies behind it.
  rw [atBoundary_iff_isValid, isValid_append_iff, String.Pos.Raw.isValid_append,
    String.Pos.Raw.isValid_singleton]
  rintro ((atStart | atEnd) | ⟨behind, -⟩)
  · have : distance = 0 := congrArg String.Pos.Raw.byteIdx atStart
    omega
  · have : distance = c.utf8Size := atEnd
    omega
  · have : c.utf8Size ≤ distance := by
      simpa only [String.Pos.Raw.le_iff, String.byteIdx_rawEndPos, String.utf8ByteSize_singleton]
        using behind
    omega

/-- Every offset up to the end of a source is a character boundary or lies inside a character. -/
theorem atBoundary_or_insideCharacter (within : offset ≤ source.utf8ByteSize) :
    AtBoundary source offset ∨ InsideCharacter source offset := by
  obtain ⟨chars, rfl⟩ := source.exists_eq_ofList
  induction chars generalizing offset with
  | nil =>
      have atStart : offset = 0 := by simpa using within
      subst atStart
      exact .inl (atBoundary_zero _)
  | cons c rest inductionHypothesis =>
      rw [String.ofList_cons] at within ⊢
      rw [String.utf8ByteSize_append] at within
      rcases Nat.lt_or_ge offset (String.singleton c).utf8ByteSize with inFirst | behind
      · rcases Nat.eq_zero_or_pos offset with rfl | positive
        · exact .inl (atBoundary_zero _)
        · exact .inr ⟨"", c, String.ofList rest, String.empty_append.symm, by simpa,
            by simpa using inFirst⟩
      · obtain ⟨distance, rfl⟩ := Nat.exists_eq_add_of_le behind
        rcases inductionHypothesis (Nat.le_of_add_le_add_left within) with boundary | inside
        · exact .inl (boundary.append _)
        · exact .inr (inside.append _)

theorem insideCharacter_iff (within : offset ≤ source.utf8ByteSize) :
    InsideCharacter source offset ↔ ¬AtBoundary source offset :=
  ⟨InsideCharacter.not_atBoundary, (atBoundary_or_insideCharacter within).resolve_left⟩

/-! ### Decoding and cutting -/

theorem decode?_eq_some_iff {text : String} :
    decode? source start stop = some text ↔
      text.toByteArray = source.toByteArray.extract start stop := by
  rw [decode?, String.toUTF8_eq_toByteArray, String.fromUTF8?]
  split
  · rw [Option.some.injEq, ← String.toByteArray_inj]
    exact eq_comm
  · next invalid =>
      constructor
      · intro found
        cases found
      · intro bytes
        exact absurd (bytes ▸ text.isValidUTF8) invalid

/-- The bytes of a range decode exactly when it is empty or cuts no character in two. -/
theorem isSome_decode?_iff (ordered : start ≤ stop) (within : stop ≤ source.utf8ByteSize) :
    (decode? source start stop).isSome = true ↔
      start = stop ∨ AtBoundary source start ∧ AtBoundary source stop := by
  -- Bytes that are valid start with the first byte of a character, and the source up to their end
  -- is then valid too.
  have extracted := String.Pos.Raw.isValidUTF8_extract_iff (s := source) ⟨start⟩ ⟨stop⟩
    (String.Pos.Raw.le_iff.mpr ordered) (String.Pos.Raw.le_iff.mpr within)
  rw [String.Pos.Raw.mk.injEq, ← atBoundary_iff_isValid, ← atBoundary_iff_isValid] at extracted
  rw [← extracted, decode?, String.toUTF8_eq_toByteArray, String.fromUTF8?]
  split <;> simpa

theorem decode?_self (source : String) (offset : Nat) : decode? source offset offset = some "" := by
  rw [decode?_eq_some_iff, ByteArray.extract_same, String.toByteArray_empty]

theorem slice?_eq_none_of_not_atBoundary
    (cuts : ¬(AtBoundary source start ∧ AtBoundary source stop)) :
    slice? source start stop = none := by
  rw [Option.eq_none_iff_forall_ne_some]
  intro text found
  obtain ⟨validStart, validStop, -⟩ := slice?_eq_some_iff.mp found
  exact cuts ⟨atBoundary_iff_isValid.mpr validStart, atBoundary_iff_isValid.mpr validStop⟩

/-- Between two boundaries, what is decoded is what is cut out. -/
theorem decode?_eq_slice?_of_atBoundary (ordered : start ≤ stop)
    (starts : AtBoundary source start) (stops : AtBoundary source stop) :
    decode? source start stop = slice? source start stop := by
  rw [atBoundary_iff_isValid] at starts stops
  apply Option.ext
  intro text
  rw [decode?_eq_some_iff, slice?_eq_some_iff]
  exact ⟨fun bytes => ⟨starts, stops, ordered, bytes⟩, fun cut => cut.2.2.2⟩

/-- Decoding and cutting agree unless the range is empty and inside a character. -/
theorem decode?_eq_slice? (ordered : start ≤ stop) (within : stop ≤ source.utf8ByteSize)
    (proper : ¬(start = stop ∧ InsideCharacter source start)) :
    decode? source start stop = slice? source start stop := by
  by_cases boundaries : AtBoundary source start ∧ AtBoundary source stop
  · exact decode?_eq_slice?_of_atBoundary ordered boundaries.1 boundaries.2
  · have nonempty : start ≠ stop := by
      rintro rfl
      exact proper ⟨rfl, (insideCharacter_iff within).mpr fun boundary =>
        boundaries ⟨boundary, boundary⟩⟩
    have undecodable : ¬(decode? source start stop).isSome = true := by
      rw [isSome_decode?_iff ordered within]
      exact not_or.mpr ⟨nonempty, boundaries⟩
    rw [slice?_eq_none_of_not_atBoundary boundaries, ← Option.not_isSome_iff_eq_none]
    exact undecodable

/-! ### The text of a node -/

/-- An empty node inside a character has the empty text, but nothing can be cut out there. -/
theorem texts_of_empty_inside {node : Node}
    (empty : node.row.start = node.row.stop) (inside : InsideCharacter source node.row.start) :
    node.text? source = some "" ∧ spanText? source node node = none := by
  constructor
  · rw [Node.text?, ← empty, decode?_self]
    rfl
  · rw [spanText?, slice?_eq_none_of_not_atBoundary fun ends => inside.not_atBoundary ends.1]
    rfl

/-- The bytes of a range of the source decode on their own exactly when the range is empty or both
its ends are character boundaries.  So the text of a node and the text cut out from its start to its
end are the same, except that a node without bytes inside a character has the empty text while
nothing can be cut out. -/
theorem text_readers_agree_on_boundaries (source : String) (start stop : Nat)
    (ordered : start ≤ stop) (within : stop ≤ source.utf8ByteSize) :
    ((decode? source start stop).isSome = true ↔
      start = stop ∨ AtBoundary source start ∧ AtBoundary source stop) ∧
    ∀ node : Node, node.row.start = start → node.row.stop = stop →
      (node.text? source).isSome = (decode? source start stop).isSome ∧
      (node.text? source = spanText? source node node ↔
        ¬(start = stop ∧ InsideCharacter source start)) ∧
      (start = stop → InsideCharacter source start →
        node.text? source = some "" ∧ spanText? source node node = none) := by
  refine ⟨isSome_decode?_iff ordered within, ?_⟩
  rintro node rfl rfl
  refine ⟨Option.isSome_map, ⟨?_, ?_⟩, texts_of_empty_inside⟩
  · rintro same ⟨empty, inside⟩
    obtain ⟨text, cut⟩ := texts_of_empty_inside empty inside
    rw [text, cut] at same
    cases same
  · intro proper
    rw [Node.text?, spanText?, decode?_eq_slice? ordered within proper]

/-- A node without bytes in the middle of the second character of `aé`. -/
def nodeInsideCharacter : Node :=
  .rule "simple_identifier" 2 2 [] []

/-- The node has a text but cannot be cut out. -/
theorem texts_of_nodeInsideCharacter :
    InsideCharacter "aé" 2 ∧ nodeInsideCharacter.text? "aé" = some "" ∧
      spanText? "aé" nodeInsideCharacter nodeInsideCharacter = none := by
  have inside : InsideCharacter "aé" 2 := ⟨"a", 'é', "", by decide, by decide, by decide⟩
  obtain ⟨-, agree⟩ := text_readers_agree_on_boundaries "aé" 2 2 (by decide) (by decide)
  exact ⟨inside, (agree nodeInsideCharacter rfl rfl).2.2 rfl inside⟩

end Synopsis
