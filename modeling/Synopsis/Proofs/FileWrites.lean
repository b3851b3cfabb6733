/-
Module: Synopsis.Proofs.FileWrites
Purpose: What writing a file does to a disk.  The file is read back at its path, no directory comes
  or goes, so every path leads to the same place as before, and every other place is as it was.
Main exports:
  Disk.entry?_put_self, Disk.entry?_put_of_ne, Disk.locate_eq_ok_iff_of_same_directories,
  Disk.locate_of_isPlain, Disk.stat_eq_ok_iff, Disk.read_eq_ok_iff, Disk.Written,
  Disk.written_of_write, Disk.Written.read_eq, Disk.Written.stat_eq_ok_iff_of_locate_ne
-/
import Synopsis.Disk
import Synopsis.Proofs.FirstFault

namespace Synopsis.Disk

/-! ### Entries -/

section

variable {disk : Disk} {place other : Location} {entry : Entry}

theorem entry?_put_self (named : place.names ≠ []) :
    Disk.entry? (disk.put place entry) place = some entry := by
  rw [Disk.entry?, if_neg (by simpa using named), put, List.lookup_cons, beq_self_eq_true]

theorem entry?_put_of_ne (different : other ≠ place) :
    Disk.entry? (disk.put place entry) other = disk.entry? other := by
  have passed : (disk.entries.filter (·.1 != place)).lookup other = disk.entries.lookup other := by
    induction disk.entries with
    | nil => rfl
    | cons first rest inductionHypothesis =>
        obtain ⟨key, held⟩ := first
        by_cases same : key = place
        · rw [List.filter_cons_of_neg (by simp [same]), inductionHypothesis, List.lookup_cons,
            beq_false_of_ne (same ▸ different)]
        · rw [List.filter_cons_of_pos (by simpa using same), List.lookup_cons, List.lookup_cons,
            inductionHypothesis]
  rw [Disk.entry?, Disk.entry?, put, List.lookup_cons, beq_false_of_ne different]
  dsimp only
  rw [passed]

end

/-! ### Following paths -/

/-- A segment can be followed only from a directory, and where it leads is not up to the disk. -/
theorem follow_eq_of_directory {disk disk' : Disk} {place : Location}
    (held : disk.entry? place = some .directory) (held' : disk'.entry? place = some .directory)
    (segment : String) : disk'.follow place segment = disk.follow place segment := by
  rw [follow, follow, held, held']

theorem entry?_of_follow {disk : Disk} {place next : Location} {segment : String}
    (followed : disk.follow place segment = .ok next) : disk.entry? place = some .directory := by
  rw [follow] at followed
  split at followed
  · cases followed
  · cases followed
  · cases followed
  · next held => exact held

section

variable {disk disk' : Disk}
  (same : ∀ place, disk'.entry? place = some .directory ↔ disk.entry? place = some .directory)

include same

theorem follow_eq_ok_iff_of_same_directories {place next : Location} {segment : String} :
    disk'.follow place segment = .ok next ↔ disk.follow place segment = .ok next := by
  constructor
  · intro followed
    have held := entry?_of_follow followed
    rwa [follow_eq_of_directory ((same place).mp held) held] at followed
  · intro followed
    have held := entry?_of_follow followed
    rwa [follow_eq_of_directory held ((same place).mpr held)]

theorem foldlM_follow_eq_ok_iff_of_same_directories {path : Path} {place reached : Location} :
    path.foldlM disk'.follow place = .ok reached ↔ path.foldlM disk.follow place = .ok reached := by
  induction path generalizing place with
  | nil => rfl
  | cons segment rest inductionHypothesis =>
      rw [List.foldlM_cons, List.foldlM_cons, bind_eq_ok_iff, bind_eq_ok_iff]
      simp only [follow_eq_ok_iff_of_same_directories same, inductionHypothesis]

/-- Disks with the same directories have the same places. -/
theorem locate_eq_ok_iff_of_same_directories {path : Path} {reached : Location} :
    disk'.locate path = .ok reached ↔ disk.locate path = .ok reached := by
  rw [locate, locate]
  split
  · rfl
  split
  · rfl
  · exact foldlM_follow_eq_ok_iff_of_same_directories same

end

/-- Whether a path has a length that a disk takes, and not the character that no name can have. -/
def isPlain (path : Path) : Bool :=
  path.all (fun segment => !segment.toList.contains '\x00') &&
    decide (path.text.utf8ByteSize ≤ pathLimit)

/-- A plain path is followed from the root. -/
theorem locate_of_isPlain {disk : Disk} {path : Path} (plain : isPlain path = true) :
    disk.locate path = path.foldlM disk.follow Location.root := by
  rw [isPlain, Bool.and_eq_true, decide_eq_true_iff] at plain
  obtain ⟨named, short⟩ := plain
  have allowed : path.any (·.contains '\x00') = false := by
    simpa [String.contains_char_eq] using named
  rw [locate, allowed, if_neg Bool.false_ne_true, if_neg (Nat.not_lt.mpr short)]

theorem stat_eq_ok_iff {disk : Disk} {path : Path} {entry : Entry} :
    disk.stat path = .ok entry ↔
      ∃ place, disk.locate path = .ok place ∧ disk.entry? place = some entry := by
  rw [stat, bind_eq_ok_iff]
  apply exists_congr
  intro place
  apply and_congr_right
  intro _
  cases disk.entry? place <;> simp

theorem read_eq_ok_iff {disk : Disk} {path : Path} {text : String} :
    disk.read path = .ok text ↔ disk.stat path = .ok (.file text) := by
  rw [read, bind_eq_ok_iff]
  constructor
  · rintro ⟨entry, found, taken⟩
    cases entry with
    | directory => cases taken
    | file held =>
        cases taken
        exact found
    | binary => cases taken
  · intro found
    exact ⟨_, found, rfl⟩

theorem has_of_read {disk : Disk} {path : Path} {text : String}
    (readable : disk.read path = .ok text) : disk.has path = true := by
  rw [has, read_eq_ok_iff.mp readable]
  rfl

/-! ### Writing -/

/-- The second disk is the first with a text written to the file that a path leads to. -/
structure Written (disk : Disk) (path : Path) (text : String) (disk' : Disk) (place : Location) :
    Prop where
  located : disk.locate path = .ok place
  notDirectory : disk.entry? place ≠ some .directory
  result : disk' = disk.put place (.file text)

theorem withoutSlashes_of_endsWithSlash {path : Path} (noSlash : path.endsWithSlash = false) :
    path.withoutSlashes = path := by
  have last : path.reverse.head? ≠ some "" := by
    rw [List.head?_reverse]
    simpa [Path.endsWithSlash] using noSlash
  have kept : path.reverse.dropWhile (· == "") = path.reverse := by
    cases turned : path.reverse with
    | nil => rfl
    | cons segment rest =>
        rw [turned] at last
        exact List.dropWhile_cons_of_neg (by simpa using last)
  rw [Path.withoutSlashes, kept, List.reverse_reverse]

/-- Writing succeeds only at a place that is no directory. -/
theorem written_of_write {disk disk' : Disk} {path : Path} {text : String}
    (wrote : disk.write path text = .ok disk') : ∃ place, Written disk path text disk' place := by
  rw [write, bind_eq_ok_iff] at wrote
  obtain ⟨place, located, wrote⟩ := wrote
  split at wrote
  · cases wrote
  · next free =>
      cases wrote
      simp only [Bool.or_eq_true, beq_iff_eq, not_or, Bool.not_eq_true] at free
      rw [withoutSlashes_of_endsWithSlash free.1] at located
      exact ⟨place, located, free.2, rfl⟩

namespace Written

variable {disk disk' : Disk} {path : Path} {text : String} {place : Location}
  (written : Written disk path text disk' place)

include written

theorem names_ne_nil : place.names ≠ [] := by
  intro root
  apply written.notDirectory
  rw [Disk.entry?, root]
  rfl

theorem entry?_self : disk'.entry? place = some (.file text) := by
  rw [written.result]
  exact entry?_put_self written.names_ne_nil

theorem entry?_of_ne {other : Location} (different : other ≠ place) :
    disk'.entry? other = disk.entry? other := by
  rw [written.result]
  exact entry?_put_of_ne different

/-- Writing a file makes no directory and removes none. -/
theorem same_directories (other : Location) :
    disk'.entry? other = some .directory ↔ disk.entry? other = some .directory := by
  by_cases same : other = place
  · rw [same, written.entry?_self]
    exact iff_of_false nofun written.notDirectory
  · rw [written.entry?_of_ne same]

theorem locate_eq_ok_iff {other : Path} {reached : Location} :
    disk'.locate other = .ok reached ↔ disk.locate other = .ok reached :=
  locate_eq_ok_iff_of_same_directories written.same_directories

/-- The file is read back, also by another path that leads to it. -/
theorem read_eq {other : Path} (same : disk.locate other = disk.locate path) :
    disk'.read other = .ok text := by
  rw [read_eq_ok_iff, stat_eq_ok_iff]
  exact ⟨place, written.locate_eq_ok_iff.mpr (same.trans written.located), written.entry?_self⟩

/-- What another path leads to is as it was. -/
theorem stat_eq_ok_iff_of_locate_ne {other : Path}
    (elsewhere : disk.locate other ≠ disk.locate path) {entry : Entry} :
    disk'.stat other = .ok entry ↔ disk.stat other = .ok entry := by
  rw [stat_eq_ok_iff, stat_eq_ok_iff]
  apply exists_congr
  intro reached
  rw [written.locate_eq_ok_iff]
  apply and_congr_right
  intro located
  have different : reached ≠ place := by
    rintro rfl
    exact elsewhere (located.trans written.located.symm)
  rw [written.entry?_of_ne different]

end Written

end Synopsis.Disk
