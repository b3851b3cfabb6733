/-
Module: Synopsis.Proofs.NearestSettings
Purpose: Where settings are found.  The directories on the way up from a path are its parent, the
  parent of that, and so on until a path has no parent.  Settings are those of the nearest
  directory with a settings file, broken or not; nothing else on the disk counts.
Main exports:
  Path.ancestor?, Path.length_add_le_of_ancestor?, Settings.Nearest, Settings.exists_nearest,
  Settings.find_of_nearest, Settings.find_of_none, find_takes_nearest_settings
-/
import Synopsis.Proofs.FileWrites
import Synopsis.Settings

namespace Synopsis

/-! ### The way up -/

namespace Path

/-- The path so many steps up: the path itself, its parent, the parent of its parent and so on. -/
def ancestor? (path : Path) : Nat → Option Path
  | 0 => some path
  | steps + 1 => (path.ancestor? steps).bind parent?

/-- The first step up may be taken before the others. -/
theorem ancestor?_succ (path : Path) (steps : Nat) :
    path.ancestor? (steps + 1) = path.parent?.bind (·.ancestor? steps) := by
  induction steps with
  | zero =>
      change path.parent? = path.parent?.bind some
      cases path.parent? <;> rfl
  | succ steps inductionHypothesis =>
      rw [ancestor?, inductionHypothesis, Option.bind_assoc]
      rfl

/-- Every step up takes away a segment at least. -/
theorem length_add_le_of_ancestor? {path above : Path} {steps : Nat}
    (reached : path.ancestor? steps = some above) : above.length + steps ≤ path.length := by
  induction steps generalizing above with
  | zero =>
      cases reached
      exact Nat.le_refl _
  | succ steps inductionHypothesis =>
      obtain ⟨below, way, last⟩ := Option.bind_eq_some_iff.mp reached
      have shorter := length_lt_of_parent? last
      have rest := inductionHypothesis way
      omega

/-- The way up ends. -/
theorem ancestor?_eq_none {path : Path} {steps : Nat} (far : path.length < steps) :
    path.ancestor? steps = none := by
  cases reached : path.ancestor? steps with
  | none => rfl
  | some above =>
      have bound := length_add_le_of_ancestor? reached
      omega

end Path

namespace Settings

/-! ### The nearest settings file -/

/-- Whether a directory has a settings file, or something else under that name. -/
def holdsFile (disk : Disk) (directory : Path) : Bool :=
  disk.has (directory.join fileName)

/-- Following the path of the file says whether a directory has one. -/
theorem holdsFile_of_isPlain {disk : Disk} {directory : Path}
    (plain : Disk.isPlain (directory.join fileName) = true) :
    holdsFile disk directory =
      ((directory.join fileName).foldlM disk.follow Location.root).toOption.any
        fun place => (disk.entry? place).isSome := by
  rw [holdsFile, Disk.has, Disk.stat, Disk.locate_of_isPlain plain]
  cases (directory.join fileName).foldlM disk.follow Location.root with
  | error fault => rfl
  | ok place =>
      dsimp only [bind, Except.bind, Except.toOption, Option.any]
      cases disk.entry? place with
      | none => rfl
      | some entry => rfl

/-- The directory `steps` above `start` has a settings file, and no directory nearer to it has. -/
structure Nearest (disk : Disk) (start : Path) (steps : Nat) (directory : Path) : Prop where
  above : start.ancestor? steps = some directory
  holds : holdsFile disk directory = true
  first : ∀ fewer < steps, ∀ nearer, start.ancestor? fewer = some nearer →
    holdsFile disk nearer = false

variable {disk : Disk} {start : Path}

/-- Where some directory on the way up has a settings file, one of them is nearest. -/
theorem exists_nearest {steps : Nat} {directory : Path}
    (above : start.ancestor? steps = some directory) (holds : holdsFile disk directory = true) :
    ∃ least nearest, Nearest disk start least nearest := by
  induction steps using Nat.strongRecOn generalizing directory with
  | ind steps inductionHypothesis =>
      by_cases earlier : ∃ fewer < steps, ∃ nearer, start.ancestor? fewer = some nearer ∧
          holdsFile disk nearer = true
      · obtain ⟨fewer, less, nearer, reached, held⟩ := earlier
        exact inductionHypothesis fewer less reached held
      · refine ⟨steps, directory, above, holds, ?_⟩
        intro fewer less nearer reached
        apply eq_false_of_ne_true
        intro held
        exact earlier ⟨fewer, less, nearer, reached, held⟩

theorem find_of_holdsFile (holds : holdsFile disk start = true) :
    find disk start = load disk (start.join fileName) := by
  rw [find]
  exact if_pos holds

theorem find_of_parent? {parent : Path} (free : holdsFile disk start = false)
    (found : start.parent? = some parent) : find disk start = find disk parent := by
  rw [find, if_neg (by simpa [holdsFile] using free)]
  split
  · next none => cases found.symm.trans none
  · next other other_found =>
      cases found.symm.trans other_found
      rfl

/-- Settings are loaded from the nearest file, whatever is in it. -/
theorem find_of_nearest {steps : Nat} {directory : Path}
    (nearest : Nearest disk start steps directory) :
    find disk start = load disk (directory.join fileName) := by
  induction steps generalizing start with
  | zero =>
      obtain ⟨above, holds, -⟩ := nearest
      cases above
      exact find_of_holdsFile holds
  | succ steps inductionHypothesis =>
      obtain ⟨above, holds, first⟩ := nearest
      rw [Path.ancestor?_succ] at above
      obtain ⟨parent, found, above⟩ := Option.bind_eq_some_iff.mp above
      rw [find_of_parent? (first 0 (Nat.succ_pos _) start rfl) found]
      apply inductionHypothesis
      refine ⟨above, holds, ?_⟩
      intro fewer less nearer reached
      apply first (fewer + 1) (Nat.succ_lt_succ less)
      rw [Path.ancestor?_succ, found]
      exact reached

/-- Without a file on the way up every kind is taken. -/
theorem find_of_none
    (none : ∀ steps directory, start.ancestor? steps = some directory →
      holdsFile disk directory = false) : find disk start = .ok default := by
  fun_induction find disk start with
  | case1 start holds => cases (none 0 start rfl).symm.trans holds
  | case2 start free top => rfl
  | case3 start free parent found inductionHypothesis =>
      apply inductionHypothesis
      intro steps directory reached
      apply none (steps + 1)
      rw [Path.ancestor?_succ, found]
      exact reached

/-! ### Faults of a settings file -/

variable {path : Path}

theorem load_of_unreadable {fault : Disk.Fault} (unreadable : disk.read path = .error fault) :
    load disk path = .error (.unreadable path fault) := by
  rw [load, unreadable]

theorem load_of_ofToml_error {text : String} {error : Error} (readable : disk.read path = .ok text)
    (refused : ofToml text = .error error) : load disk path = .error (.invalid path error) := by
  rw [load, readable]
  dsimp only
  rw [refused]

/-- Loading a file depends on the text of the file only. -/
theorem load_congr {disk' : Disk} (same : disk'.read path = disk.read path) :
    load disk' path = load disk path := by
  rw [load, load, same]

/-- A directory is nearest on every disk with settings files in the same directories up to it. -/
theorem Nearest.of_same {disk' : Disk} {steps : Nat} {directory : Path}
    (nearest : Nearest disk start steps directory)
    (same : ∀ fewer ≤ steps, ∀ nearer, start.ancestor? fewer = some nearer →
      holdsFile disk' nearer = holdsFile disk nearer) : Nearest disk' start steps directory where
  above := nearest.above
  holds := (same steps (Nat.le_refl _) directory nearest.above).trans nearest.holds
  first fewer less nearer reached :=
    (same fewer (Nat.le_of_lt less) nearer reached).trans (nearest.first fewer less nearer reached)

end Settings

open Settings

/-- Settings are found in the nearest settings file, and its faults are never passed over.  The way
up ends.  If a directory on it has a settings file, one of them is nearest, and the outcome is that
of loading its file: a file that cannot be read or that holds no settings is reported with its
path.  Any other disk with settings files in the same directories up to the nearest, and the same
text in that file, has the same outcome, so nothing else on the disk counts.  Without a settings
file on the way every kind is taken. -/
theorem find_takes_nearest_settings (disk : Disk) (start : Path) :
    start.ancestor? (start.length + 1) = none ∧
    (∀ steps directory, start.ancestor? steps = some directory →
      holdsFile disk directory = true → ∃ least nearest, Nearest disk start least nearest) ∧
    (∀ steps directory, Nearest disk start steps directory →
      find disk start = load disk (directory.join fileName) ∧
      (∀ fault, disk.read (directory.join fileName) = .error fault →
        ∃ error, find disk start = .error error ∧
          error = .unreadable (directory.join fileName) fault ∧
          ∀ root, error.context root =
            "Failed to read " ++ root ++ (directory.join fileName).text) ∧
      (∀ text cause, disk.read (directory.join fileName) = .ok text → ofToml text = .error cause →
        ∃ error, find disk start = .error error ∧
          error = .invalid (directory.join fileName) cause ∧
          ∀ root, error.context root = "Invalid " ++ root ++ (directory.join fileName).text) ∧
      ∀ disk' : Disk,
        (∀ fewer ≤ steps, ∀ nearer, start.ancestor? fewer = some nearer →
          holdsFile disk' nearer = holdsFile disk nearer) →
        disk'.read (directory.join fileName) = disk.read (directory.join fileName) →
        find disk' start = find disk start) ∧
    ((∀ steps directory, start.ancestor? steps = some directory →
        holdsFile disk directory = false) →
      find disk start = .ok Settings.default ∧ Settings.default.selector = .ok .any) := by
  refine ⟨Path.ancestor?_eq_none (Nat.lt_succ_self _), ?_, ?_, ?_⟩
  · intro steps directory above holds
    exact exists_nearest above holds
  · intro steps directory nearest
    have found := find_of_nearest nearest
    refine ⟨found, ?_, ?_, ?_⟩
    · intro fault unreadable
      refine ⟨_, found.trans (load_of_unreadable unreadable), rfl, ?_⟩
      intro root
      rfl
    · intro text cause readable refused
      refine ⟨_, found.trans (load_of_ofToml_error readable refused), rfl, ?_⟩
      intro root
      rfl
    · intro disk' same sameText
      rw [found, find_of_nearest (nearest.of_same same), load_congr sameText]
  · intro none
    exact ⟨find_of_none none, rfl⟩

/-- A disk with settings at its root, a file in the directory `a` that is no TOML document and one
in the directory `e` that encodes no text. -/
def brokenNearerDisk : Disk where
  entries :=
    [({ above := 0, names := ["a"] }, .directory),
     ({ above := 0, names := ["e"] }, .directory),
     ({ above := 0, names := [".swiftdecl.toml"] }, .file "[extract]\nkinds = [\"func\"]\n"),
     ({ above := 0, names := ["a", ".swiftdecl.toml"] }, .file "kinds ="),
     ({ above := 0, names := ["e", ".swiftdecl.toml"] }, .binary)]

/-- The broken file in `a` is reported for a path below `a`, the one in `e` for `e` itself, and the
root counts only from the outside of both. -/
theorem find_on_brokenNearerDisk :
    Nearest brokenNearerDisk ["a", "b", "c"] 2 ["a"] ∧
    find brokenNearerDisk ["a", "b", "c"] =
      .error (.invalid ["a", ".swiftdecl.toml"] .malformed) ∧
    Nearest brokenNearerDisk ["e"] 0 ["e"] ∧
    find brokenNearerDisk ["e"] = .error (.unreadable ["e", ".swiftdecl.toml"] .notText) ∧
    find brokenNearerDisk ["d"] = .ok { kinds := ["func"] } := by
  have nearestBelow : Nearest brokenNearerDisk ["a", "b", "c"] 2 ["a"] := by
    refine ⟨by decide +kernel, ?_, ?_⟩
    · rw [holdsFile_of_isPlain (by decide +kernel)]
      decide +kernel
    intro fewer less nearer reached
    have nearerPath : nearer = ["a", "b", "c"] ∨ nearer = ["a", "b"] := by
      have number : fewer = 0 ∨ fewer = 1 := by omega
      rcases number with rfl | rfl
      · exact .inl (Option.some.inj reached).symm
      · exact .inr (Option.some.inj (reached.symm.trans (by decide +kernel)))
    rcases nearerPath with rfl | rfl
    · rw [holdsFile_of_isPlain (by decide +kernel)]
      decide +kernel
    · rw [holdsFile_of_isPlain (by decide +kernel)]
      decide +kernel
  have nearestWithin : Nearest brokenNearerDisk ["e"] 0 ["e"] := by
    refine ⟨rfl, ?_, ?_⟩
    · rw [holdsFile_of_isPlain (by decide +kernel)]
      decide +kernel
    intro fewer less
    cases Nat.not_lt_zero fewer less
  have nearestOutside : Nearest brokenNearerDisk ["d"] 1 [] := by
    refine ⟨by decide +kernel, ?_, ?_⟩
    · rw [holdsFile_of_isPlain (by decide +kernel)]
      decide +kernel
    intro fewer less nearer reached
    obtain rfl : fewer = 0 := by omega
    cases reached
    rw [holdsFile_of_isPlain (by decide +kernel)]
    decide +kernel
  obtain ⟨-, -, below, -⟩ := find_takes_nearest_settings brokenNearerDisk ["a", "b", "c"]
  obtain ⟨-, -, within, -⟩ := find_takes_nearest_settings brokenNearerDisk ["e"]
  obtain ⟨-, -, outside, -⟩ := find_takes_nearest_settings brokenNearerDisk ["d"]
  refine ⟨nearestBelow, ?_, nearestWithin, ?_, ?_⟩
  · rw [(below 2 ["a"] nearestBelow).1, load, Disk.read, Disk.stat,
      Disk.locate_of_isPlain (by decide +kernel)]
    decide +kernel
  · have notText : brokenNearerDisk.read (Path.join ["e"] fileName) = .error .notText := by
      rw [Disk.read, Disk.stat, Disk.locate_of_isPlain (by decide +kernel)]
      decide +kernel
    obtain ⟨-, reported, -⟩ := within 0 ["e"] nearestWithin
    obtain ⟨error, found, rfl, -⟩ := reported .notText notText
    exact found
  · rw [(outside 1 [] nearestOutside).1, load, Disk.read, Disk.stat,
      Disk.locate_of_isPlain (by decide +kernel)]
    decide +kernel

end Synopsis
