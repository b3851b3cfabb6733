/-
Module: Synopsis.Settings
Purpose: Which kinds of declarations to collect, as a file says it.
Main exports:
  Settings, Settings.selector, Settings.ofToml, Settings.toToml, Settings.load, Settings.find,
  Settings.save
-/
import Synopsis.Collect
import Synopsis.Disk
import Synopsis.Toml.Document
import Synopsis.Toml.Quote

namespace Synopsis

/-- The settings of a collection: the names of the kinds to take, as they were written.  No names
mean every kind. -/
structure Settings where
  kinds : List String
deriving DecidableEq, Repr

namespace Settings

/-- Settings that take every kind. -/
def default : Settings :=
  { kinds := [] }

/-! ### The selector -/

/-- Insert a kind into an ascending list without repetitions. -/
def insertKind (kind : Kind) : List Kind → List Kind
  | [] => [kind]
  | other :: others =>
      if kind.rank < other.rank then kind :: other :: others
      else if kind.rank = other.rank then other :: others
      else other :: insertKind kind others

/-- The kinds of a list in ascending order without repetitions. -/
def sortKinds (kinds : List Kind) : List Kind :=
  kinds.foldr insertKind []

/-- The selector that takes exactly the kinds of an ascending list, or every kind for an empty
one. -/
def selectorOf : List Kind → Selector
  | [] => .any
  | [kind] => .only kind
  | kinds => .anyOf kinds

/-- The selector that the settings describe; the first name that is no kind is a fault. -/
def selector (settings : Settings) : Except Fault Selector := do
  let kinds ← settings.kinds.mapM Kind.parse
  .ok (selectorOf (sortKinds kinds))

/-! ### Settings as TOML -/

/-- Why a text is no settings. -/
inductive Error where
  /-- The text is no TOML document, or a value in it has the wrong type. -/
  | malformed
  /-- A name is no kind. -/
  | unknownKind (fault : Fault)
deriving DecidableEq, Repr

/-- The text of a TOML string. -/
def kindName? : Toml.Value → Option String
  | .string text => some text
  | _ => none

/-- The list of kinds, which may be missing. -/
def kindsOf? : Option Toml.Value → Option (List String)
  | none => some []
  | some (.array items) => items.mapM kindName?
  | some _ => none

/-- The kinds that the section `extract` lists.  A missing section lists none, a section written as
an array has the list as its first item, and a date in place of the section is a section without
a list. -/
def sectionKinds? : Option Toml.Value → Option (List String)
  | none => some []
  | some (.table _ entries) => kindsOf? (entries.lookup "kinds")
  | some (.array items) => kindsOf? items.head?
  | some (.dateTime _) => some []
  | some _ => none

/-- Read settings from a TOML document.  Other keys and tables are passed over, and every name has
to be one of a kind. -/
def ofToml (text : String) : Except Error Settings :=
  match (Toml.document? text.toList).bind fun entries =>
      sectionKinds? (entries.lookup "extract") with
  | none => .error .malformed
  | some kinds =>
      match selector { kinds } with
      | .error fault => .error (.unknownKind fault)
      | .ok _ => .ok { kinds }

/-- The line before the list of kinds, and what introduces the list. -/
def tomlHeading : String :=
  "[extract]\nkinds = "

/-- Settings as a TOML document.  The names are written as they are, kinds or not. -/
def toToml (settings : Settings) : String :=
  tomlHeading ++ String.ofList (Toml.quotedArray (settings.kinds.map String.toList)) ++ "\n"

/-! ### Settings files -/

/-- Why settings cannot be loaded from a file. -/
inductive LoadError where
  /-- The file cannot be read. -/
  | unreadable (path : Path) (fault : Disk.Fault)
  /-- The file holds no settings. -/
  | invalid (path : Path) (error : Error)
deriving DecidableEq, Repr

/-- The sentence that says which file a load failed on; `root` names the root of the disk. -/
def LoadError.context (root : String) : LoadError → String
  | unreadable path _ => "Failed to read " ++ root ++ path.text
  | invalid path _ => "Invalid " ++ root ++ path.text

/-- Load settings from a file. -/
def load (disk : Disk) (path : Path) : Except LoadError Settings :=
  match disk.read path with
  | .error fault => .error (.unreadable path fault)
  | .ok text =>
      match ofToml text with
      | .error error => .error (.invalid path error)
      | .ok settings => .ok settings

/-- The name of settings files. -/
def fileName : String :=
  ".swiftdecl.toml"

/-- The settings of the nearest settings file on the way up from a directory, which need not be
there.  Where no file is found, every kind is taken. -/
def find (disk : Disk) (start : Path) : Except LoadError Settings :=
  if disk.has (start.join fileName) then load disk (start.join fileName)
  else
    match _found : start.parent? with
    | none => .ok default
    | some parent => find disk parent
termination_by start.length
decreasing_by exact Path.length_lt_of_parent? _found

/-- Save settings to a file. -/
def save (settings : Settings) (disk : Disk) (path : Path) : Except Disk.Fault Disk :=
  disk.write path settings.toToml

end Settings

end Synopsis
