/-
Module: Synopsis.Proofs.SavedSettings
Purpose: Settings that are saved to a file and loaded again.  Saving writes any names; loading
  refuses those that are no kinds, so what was saved comes back exactly when it has a selector.
Main exports:
  Settings.reloaded, Settings.load_of_save, Settings.find_of_save,
  saved_settings_reload_or_are_refused
-/
import Synopsis.Proofs.NearestSettings
import Synopsis.Proofs.Selection
import Synopsis.Proofs.SettingsDocuments

namespace Synopsis

namespace Settings

/-! ### Loading what was saved -/

/-- What comes of settings that were saved: the settings, or the first name that is no kind. -/
def reloaded (settings : Settings) (path : Path) : Except LoadError Settings :=
  match settings.selector with
  | .error fault => .error (.invalid path (.unknownKind fault))
  | .ok _ => .ok settings

theorem reloaded_eq_ok_iff {settings : Settings} {path : Path} :
    settings.reloaded path = .ok settings ↔ ∃ selector, settings.selector = .ok selector := by
  rw [reloaded]
  cases settings.selector <;> simp

theorem reloaded_of_selector_error {settings : Settings} {path : Path} {fault : Fault}
    (refused : settings.selector = .error fault) :
    settings.reloaded path = .error (.invalid path (.unknownKind fault)) := by
  rw [reloaded, refused]

theorem load_of_read_toToml {settings : Settings} {disk : Disk} {path : Path}
    (readable : disk.read path = .ok settings.toToml) :
    load disk path = settings.reloaded path := by
  rw [load, readable, reloaded]
  dsimp only
  rw [ofToml_toToml]
  cases settings.selector <;> rfl

section

variable {settings : Settings} {disk disk' : Disk} {path : Path}
  (saved : settings.save disk path = .ok disk')

include saved

/-- The text of the settings is read by every path that leads to the file. -/
theorem read_of_save {other : Path} (same : disk.locate other = disk.locate path) :
    disk'.read other = .ok settings.toToml := by
  obtain ⟨place, written⟩ := Disk.written_of_write saved
  exact written.read_eq same

theorem load_of_save {other : Path} (same : disk.locate other = disk.locate path) :
    load disk' other = settings.reloaded other :=
  load_of_read_toToml (read_of_save saved same)

theorem stat_of_save {other : Path} (elsewhere : disk.locate other ≠ disk.locate path)
    (entry : Entry) : disk'.stat other = .ok entry ↔ disk.stat other = .ok entry := by
  obtain ⟨place, written⟩ := Disk.written_of_write saved
  exact written.stat_eq_ok_iff_of_locate_ne elsewhere

/-- Saved settings are found from every path below their directory, unless others are nearer. -/
theorem find_of_save {start directory : Path} {steps : Nat}
    (above : start.ancestor? steps = some directory)
    (same : disk.locate (directory.join fileName) = disk.locate path)
    (first : ∀ fewer < steps, ∀ nearer, start.ancestor? fewer = some nearer →
      holdsFile disk' nearer = false) :
    find disk' start = settings.reloaded (directory.join fileName) := by
  have holds : holdsFile disk' directory = true := Disk.has_of_read (read_of_save saved same)
  rw [find_of_nearest ⟨above, holds, first⟩, load_of_save saved same]

end

end Settings

open Settings

/-- Settings with any names, once saved, are loaded as they were exactly when they have a selector.
Otherwise the first name that is no kind is reported, with the path of the file.  No other place of
the disk changes.  From a path below the directory of the file the same comes of the settings,
unless a settings file is nearer; how the path of the file was spelled does not matter. -/
theorem saved_settings_reload_or_are_refused (settings : Settings) (disk disk' : Disk)
    (path : Path) (saved : settings.save disk path = .ok disk') :
    (load disk' path = .ok settings ↔ ∃ selector, settings.selector = .ok selector) ∧
    (∀ fault, settings.selector = .error fault →
      ∃ before name after error, settings.kinds = before ++ name :: after ∧
        (∀ earlier ∈ before, Kind.IsName earlier) ∧ ¬ Kind.IsName name ∧
        fault = .unknownKind name ∧ load disk' path = .error error ∧
        error = .invalid path (.unknownKind (.unknownKind name)) ∧
        ∀ root, error.context root = "Invalid " ++ root ++ path.text) ∧
    (∀ other, disk.locate other ≠ disk.locate path →
      ∀ entry, disk'.stat other = .ok entry ↔ disk.stat other = .ok entry) ∧
    ∀ start steps directory, start.ancestor? steps = some directory →
      disk.locate (directory.join fileName) = disk.locate path →
      (∀ fewer < steps, ∀ nearer, start.ancestor? fewer = some nearer →
        holdsFile disk' nearer = false) →
      find disk' start = load disk' (directory.join fileName) ∧
      (find disk' start = .ok settings ↔ load disk' path = .ok settings) ∧
      ∀ cause, find disk' start = .error (.invalid (directory.join fileName) cause) ↔
        load disk' path = .error (.invalid path cause) := by
  have loaded : load disk' path = settings.reloaded path := load_of_save saved rfl
  refine ⟨?_, ?_, fun other elsewhere => stat_of_save saved elsewhere, ?_⟩
  · rw [loaded]
    exact reloaded_eq_ok_iff
  · intro fault refused
    obtain ⟨before, name, after, split, known, unknown, rfl⟩ := selector_eq_error_iff.mp refused
    refine ⟨before, name, after, _, split, known, unknown, rfl,
      loaded.trans (reloaded_of_selector_error refused), rfl, ?_⟩
    intro root
    rfl
  · intro start steps directory above same first
    have found := find_of_save saved above same first
    refine ⟨found.trans (load_of_save saved same).symm, ?_, ?_⟩
    · rw [found, loaded, reloaded_eq_ok_iff, reloaded_eq_ok_iff]
    · intro cause
      rw [found, loaded, reloaded, reloaded]
      cases settings.selector <;> simp

/-- A disk with a directory and no files. -/
def bareDisk : Disk where
  entries := [({ above := 0, names := ["a"] }, .directory)]

/-- A kind twice, and a name with quotes and a line end that is none. -/
def quaintSettings : Settings where
  kinds := ["func", "func", "no \"kind\"\n"]

/-- The settings can be saved under `a`, and from below `a` they are found and refused. -/
theorem find_after_saving_quaintSettings :
    ∃ disk', quaintSettings.save bareDisk ["a", ".swiftdecl.toml"] = .ok disk' ∧
      find disk' ["a", "b"] = .error (.invalid ["a", ".swiftdecl.toml"]
        (.unknownKind (.unknownKind "no \"kind\"\n"))) := by
  have saved : quaintSettings.save bareDisk ["a", ".swiftdecl.toml"] =
      .ok (bareDisk.put { above := 0, names := ["a", ".swiftdecl.toml"] }
        (.file quaintSettings.toToml)) := by
    rw [save, Disk.write, Disk.locate_of_isPlain (by decide +kernel)]
    decide +kernel
  have refused : quaintSettings.selector = .error (.unknownKind "no \"kind\"\n") := by
    decide +kernel
  obtain ⟨-, faults, -, finds⟩ := saved_settings_reload_or_are_refused _ _ _ _ saved
  obtain ⟨before, name, after, error, -, -, -, same, loaded, rfl, -⟩ := faults _ refused
  cases same
  refine ⟨_, saved, ?_⟩
  have found := finds ["a", "b"] 1 ["a"] rfl rfl ?_
  · exact found.1.trans loaded
  intro fewer less nearer reached
  obtain rfl : fewer = 0 := by omega
  cases reached
  rw [holdsFile_of_isPlain (by decide +kernel)]
  decide +kernel

end Synopsis
