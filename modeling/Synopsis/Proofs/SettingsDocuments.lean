/-
Module: Synopsis.Proofs.SettingsDocuments
Purpose: Settings that are written as a TOML document are read back as they were: every name with
  all its characters, in order, repeated ones too.  Only a name that is no kind makes the reader
  refuse the document.
Main exports:
  Toml.value?_quoted, Toml.items?_itemLines, Toml.fullValue?_quotedArray, Settings.document?_toToml,
  Settings.ofToml_toToml
-/
import Synopsis.Proofs.QuotedStrings
import Synopsis.Settings

namespace Synopsis.Toml

/-! ### Values and arrays -/

/-- The value of a string that was written. -/
def textValue (text : List Char) : Value :=
  .string (String.ofList text)

/-- A written string begins with a quote of one of the two kinds. -/
theorem exists_quoted_cons (text : List Char) :
    ∃ more, quoted text = '\x22' :: more ∨ quoted text = '\x27' :: more := by
  rw [quoted]
  cases Quote.choose text with
  | basic => exact ⟨_, .inl rfl⟩
  | literal => exact ⟨_, .inr rfl⟩
  | longBasic => exact ⟨_, .inl rfl⟩
  | longLiteral => exact ⟨_, .inr rfl⟩

section

variable {fuel room : Nat} {text rest : List Char}

theorem value?_quoted (noQuote : rest.head? ≠ some '\x22')
    (noApostrophe : rest.head? ≠ some '\x27') :
    value? (fuel + 1) room (quoted text ++ rest) = some (textValue text, rest) := by
  have read := string?_quoted text noQuote noApostrophe
  obtain ⟨more, begins | begins⟩ := exists_quoted_cons text
  · rw [begins] at read ⊢
    change (string? ('\x22' :: more ++ rest)).map _ = _
    rw [read]
    rfl
  · rw [begins] at read ⊢
    change (string? ('\x27' :: more ++ rest)).map _ = _
    rw [read]
    rfl

theorem dropFiller_quoted : dropFiller false (quoted text ++ rest) = quoted text ++ rest := by
  obtain ⟨more, begins | begins⟩ := exists_quoted_cons text
  · rw [begins]
    rfl
  · rw [begins]
    rfl

/-- What the reader of items does where a string is the next item. -/
theorem items?_of_quoted {text : List Char} {item : List Char}
    (start : dropFiller false text = quoted item ++ rest) :
    items? (fuel + 1) room text = (value? fuel room (quoted item ++ rest)).bind fun (value, rest) =>
      match dropFiller false rest with
      | ',' :: rest => (items? fuel room rest).bind fun (items, rest) => some (value :: items, rest)
      | ']' :: rest => some ([value], rest)
      | _ => none := by
  rw [items?, start]
  obtain ⟨more, begins | begins⟩ := exists_quoted_cons item
  · rw [begins]
    rfl
  · rw [begins]
    rfl

theorem items?_quoted_bracket :
    items? (fuel + 2) room (quoted text ++ ']' :: rest) = some ([textValue text], rest) := by
  have read : value? (fuel + 1) room (quoted text ++ ']' :: rest) =
      some (textValue text, ']' :: rest) := value?_quoted nofun nofun
  rw [items?_of_quoted dropFiller_quoted, read]
  rfl

/-- An item on a line of its own, with its indentation and its comma. -/
def itemLine (text : List Char) : List Char :=
  [' ', ' ', ' ', ' '] ++ quoted text ++ [',', '\n']

theorem items?_itemLine :
    items? (fuel + 2) room ('\n' :: (itemLine text ++ rest)) =
      (items? (fuel + 1) room ('\n' :: rest)).bind fun (items, rest) =>
        some (textValue text :: items, rest) := by
  have start : dropFiller false ('\n' :: (itemLine text ++ rest)) =
      quoted text ++ ',' :: '\n' :: rest := by
    rw [itemLine, List.append_assoc, List.append_assoc]
    exact dropFiller_quoted
  have read : value? (fuel + 1) room (quoted text ++ ',' :: '\n' :: rest) =
      some (textValue text, ',' :: '\n' :: rest) := value?_quoted nofun nofun
  rw [items?_of_quoted start, read]
  rfl

end

/-- Items on lines of their own are read one after the other; each takes two steps. -/
theorem items?_itemLines {fuel room : Nat} {texts : List (List Char)} {rest : List Char}
    (enough : 2 * texts.length < fuel) :
    items? fuel room ('\n' :: (texts.flatMap itemLine ++ ']' :: rest)) =
      some (texts.map textValue, rest) := by
  induction texts generalizing fuel with
  | nil =>
      obtain ⟨fuel, rfl⟩ := Nat.exists_eq_add_of_lt enough
      rfl
  | cons text texts inductionHypothesis =>
      rw [List.length_cons] at enough
      obtain ⟨fuel, rfl⟩ : ∃ more, fuel = more + 2 := ⟨fuel - 2, by omega⟩
      rw [List.flatMap_cons, List.append_assoc, items?_itemLine, inductionHypothesis (by omega)]
      rfl

theorem length_le_flatMap_itemLine (texts : List (List Char)) :
    texts.length ≤ (texts.flatMap itemLine).length := by
  induction texts with
  | nil => exact Nat.le_refl 0
  | cons text texts inductionHypothesis =>
      rw [List.flatMap_cons, List.length_append, List.length_cons, itemLine, List.length_append,
        List.length_append]
      simp only [List.length_cons, List.length_nil]
      omega

theorem fullValue?_bracket (body : List Char) :
    fullValue? ('[' :: body) =
      (items? (2 * body.length + 3) 78 body).map fun (items, rest) => (.array items, rest) := rfl

/-- An array that was written is read back. -/
theorem fullValue?_quotedArray (texts : List (List Char)) (rest : List Char) :
    fullValue? (quotedArray texts ++ rest) = some (.array (texts.map textValue), rest) := by
  match texts with
  | [] => rfl
  | [text] =>
      have written : quotedArray [text] ++ rest = '[' :: (quoted text ++ ']' :: rest) := by
        simp [quotedArray]
      rw [written, fullValue?_bracket, items?_quoted_bracket]
      rfl
  | first :: second :: others =>
      have written : quotedArray (first :: second :: others) ++ rest =
          '[' :: '\n' :: ((first :: second :: others).flatMap itemLine ++ ']' :: rest) := by
        change ['[', '\n'] ++ (first :: second :: others).flatMap itemLine ++ [']'] ++ rest = _
        simp only [List.cons_append, List.nil_append, List.append_assoc]
      have enough := length_le_flatMap_itemLine (first :: second :: others)
      rw [written, fullValue?_bracket, items?_itemLines]
      · rfl
      · simp only [List.length_cons, List.length_append] at enough ⊢
        omega

theorem exists_quotedArray_cons (texts : List (List Char)) :
    ∃ more, quotedArray texts = '[' :: more := by
  match texts with
  | [] => exact ⟨_, rfl⟩
  | [text] => exact ⟨_, rfl⟩
  | _ :: _ :: _ => exact ⟨_, rfl⟩

/-- A line with a statement on it is read before the lines that follow. -/
theorem statements?_of_statement? {lines : Nat} {text rest : List Char} {statement : Statement}
    (read : statement? text = some (statement, rest)) (unspaced : dropSpaces text = text)
    (filled : text ≠ []) (notBlank : isBlankLine text = false) :
    statements? (lines + 1) text =
      (statements? lines rest).bind fun others => some (statement :: others) := by
  rw [statements?, unspaced]
  split
  · contradiction
  · rw [notBlank, if_neg Bool.false_ne_true, read]
    rfl

end Synopsis.Toml

namespace Synopsis.Settings

/-! ### Documents -/

/-- The list of kinds of the settings, as a document holds it. -/
def kindsValue (settings : Settings) : Toml.Value :=
  .array (settings.kinds.map .string)

/-- The line that opens the section of the list. -/
def sectionLine : List Char :=
  ['[', 'e', 'x', 't', 'r', 'a', 'c', 't', ']', '\n']

/-- The key of the list, with the sign that follows it. -/
def kindsKey : List Char :=
  ['k', 'i', 'n', 'd', 's', ' ', '=', ' ']

theorem toList_toToml (settings : Settings) :
    settings.toToml.toList = sectionLine ++ (kindsKey ++
      (Toml.quotedArray (settings.kinds.map String.toList) ++ ['\n'])) := by
  have heading : tomlHeading.toList = sectionLine ++ kindsKey := by decide
  rw [toToml, String.toList_append, String.toList_append, String.toList_ofList, heading,
    List.append_assoc, List.append_assoc]
  rfl

theorem statement?_sectionLine (rest : List Char) :
    Toml.statement? (sectionLine ++ rest) = some (.tableHeader ["extract"], rest) := rfl

theorem statement?_kindsKey (settings : Settings) :
    Toml.statement? (kindsKey ++
        (Toml.quotedArray (settings.kinds.map String.toList) ++ ['\n'])) =
      some (.entry ["kinds"] settings.kindsValue, []) := by
  have read := Toml.fullValue?_quotedArray (settings.kinds.map String.toList) ['\n']
  have names : (settings.kinds.map String.toList).map Toml.textValue =
      settings.kinds.map .string := by
    rw [List.map_map]
    apply List.map_congr_left
    intro name _
    rw [Function.comp_apply, Toml.textValue, String.ofList_toList]
  -- Spaces are dropped in front of the value, and only the bracket shows that there are no more.
  obtain ⟨more, begins⟩ := Toml.exists_quotedArray_cons (settings.kinds.map String.toList)
  rw [names, begins] at read
  rw [begins]
  change (Toml.fullValue? ('[' :: more ++ ['\n'])).bind (fun (value, rest) =>
    (Toml.lineEnd? rest).bind fun rest => some (Toml.Statement.entry ["kinds"] value, rest)) = _
  rw [read]
  rfl

/-- The table of a document that was written. -/
theorem document?_toToml (settings : Settings) :
    Toml.document? settings.toToml.toList =
      some [("extract", .table .header [("kinds", settings.kindsValue)])] := by
  have statements (lines : Nat) : Toml.statements? (lines + 3) settings.toToml.toList =
      some [.tableHeader ["extract"], .entry ["kinds"] settings.kindsValue] := by
    rw [toList_toToml,
      Toml.statements?_of_statement? (statement?_sectionLine _) rfl (List.cons_ne_nil _ _) rfl,
      Toml.statements?_of_statement? (statement?_kindsKey settings) rfl (List.cons_ne_nil _ _) rfl]
    rfl
  -- Two statements and the end of the text are three steps.
  have room : settings.toToml.toList.length + 1 = settings.toToml.toList.length - 2 + 3 := by
    rw [toList_toToml]
    simp [sectionLine]
  have unmarked : Toml.dropMark settings.toToml.toList = settings.toToml.toList := by
    rw [toList_toToml]
    rfl
  rw [Toml.document?, unmarked, room, statements]
  rfl

theorem mapM_kindName? (names : List String) :
    (names.map Toml.Value.string).mapM kindName? = some names := by
  induction names with
  | nil => rfl
  | cons name names inductionHypothesis =>
      rw [List.map_cons, List.mapM_cons, inductionHypothesis]
      rfl

/-- The list of kinds is found in the document. -/
theorem sectionKinds?_toToml (settings : Settings) :
    ((Toml.document? settings.toToml.toList).bind fun entries =>
      sectionKinds? (entries.lookup "extract")) = some settings.kinds := by
  have listed : sectionKinds? (some (.table .header [("kinds", settings.kindsValue)])) =
      some settings.kinds := mapM_kindName? settings.kinds
  rw [document?_toToml, Option.bind_some, List.lookup_cons_self, listed]

/-- Settings that were written are read back, unless a name in them is no kind. -/
theorem ofToml_toToml (settings : Settings) :
    ofToml settings.toToml =
      match settings.selector with
      | .error fault => .error (.unknownKind fault)
      | .ok _ => .ok settings := by
  have listed := sectionKinds?_toToml settings
  obtain ⟨kinds⟩ := settings
  cases selected : selector { kinds } with
  | error fault => simp only [ofToml, listed, selected]
  | ok selector => simp only [ofToml, listed, selected]

end Synopsis.Settings
