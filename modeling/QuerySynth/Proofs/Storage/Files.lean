import QuerySynth.Storage.Basic
import QuerySynth.Proofs.Except

/-! # Files and slots

A state of the storage is looked at through the files at its places. A path has a slot when a file can
be put there. Which slot it has depends on the home and the directories only, so putting files into slots
moves no slot; reading a path is looking at the file in its slot.
-/

namespace QuerySynth.Storage

/-- The bytes of the file at a place. -/
def fileAt? (storage : Storage) (place : Place) : Option (List UInt8) :=
  match storage.at? place with
  | some (.file bytes) => some bytes
  | _ => none

/-- The place where a path can hold a file: the path ends in a name that no directory has. -/
def slot? (storage : Storage) (path : Path) : Option Place :=
  match storage.target path with
  | .ok (.named directory name) =>
    if path.endsInSlash = true ∨ storage.at? (directory ++ [name]) = some .directory then none
    else some (directory ++ [name])
  | _ => none

/-- Every place holds the file that it held before, or none as before. -/
def SameFiles (before after : Storage) : Prop :=
  ∀ place, after.fileAt? place = before.fileAt? place

/-- Paths start where they did before, and the directories are those of before. -/
structure SameDirectories (before after : Storage) : Prop where
  home : after.home = before.home
  directories : ∀ place, after.at? place = some .directory ↔ before.at? place = some .directory

variable {storage before middle after : Storage} {path : Path} {place : Place} {bytes : List UInt8}

theorem SameFiles.trans (first : SameFiles before middle) (second : SameFiles middle after) :
    SameFiles before after :=
  fun place => (second place).trans (first place)

theorem SameDirectories.trans (first : SameDirectories before middle)
    (second : SameDirectories middle after) : SameDirectories before after :=
  ⟨second.home.trans first.home, fun place => (second.directories place).trans (first.directories place)⟩

theorem slot?_eq_some_iff :
    storage.slot? path = some place ↔
      ∃ directory name, storage.target path = .ok (.named directory name) ∧ path.endsInSlash = false ∧
        storage.at? place ≠ some .directory ∧ place = directory ++ [name] := by
  rw [slot?]
  constructor
  · intro found
    split at found
    · rename_i directory name reached
      split at found
      · cases found
      · rename_i free
        obtain rfl := Option.some.inj found
        obtain ⟨noSlash, noDirectory⟩ := not_or.mp free
        exact ⟨directory, name, reached, Bool.eq_false_iff.mpr noSlash, noDirectory, rfl⟩
    · cases found
  · rintro ⟨directory, name, reached, noSlash, noDirectory, rfl⟩
    simp [reached, noSlash, noDirectory]

theorem slot?_ne_root (slot : storage.slot? path = some place) : place ≠ [] := by
  obtain ⟨directory, name, -, -, -, rfl⟩ := slot?_eq_some_iff.mp slot
  simp

theorem at?_slot? (slot : storage.slot? path = some place) : storage.at? place ≠ some .directory := by
  obtain ⟨-, -, -, -, noDirectory, -⟩ := slot?_eq_some_iff.mp slot
  exact noDirectory

theorem at?_put (below : place ≠ []) (entry : StoredEntry) (other : Place) :
    (storage.put place entry).at? other = if other = place then some entry else storage.at? other := by
  split
  · rename_i same
    rw [same, at?_put_self below]
  · rename_i different
    rw [at?_put_of_ne different]

theorem fileAt?_put_file (below : place ≠ []) (other : Place) :
    (storage.put place (.file bytes)).fileAt? other =
      if other = place then some bytes else storage.fileAt? other := by
  rw [fileAt?, at?_put below]
  by_cases same : other = place
  · rw [if_pos same, if_pos same]
  · rw [if_neg same, if_neg same, fileAt?]

/-- A new directory takes the place of no file. -/
theorem sameFiles_put_directory (vacant : storage.at? place = none) :
    SameFiles storage (storage.put place .directory) := by
  have below : place ≠ [] := by
    rintro rfl
    simp [at?] at vacant
  intro other
  rw [fileAt?, at?_put below]
  by_cases same : other = place
  · rw [if_pos same, same, fileAt?, vacant]
  · rw [if_neg same, fileAt?]

/-- A file in place of a file, or at a vacant place, changes no directory. -/
theorem sameDirectories_put_file (below : place ≠ []) (free : storage.at? place ≠ some .directory) :
    SameDirectories storage (storage.put place (.file bytes)) := by
  refine ⟨rfl, fun other => ?_⟩
  rw [at?_put below]
  split
  · rename_i same
    rw [same]
    exact iff_of_false (by simp) free
  · rfl

/-- A name leads into the directory that has it. -/
theorem enter_cons_eq_ok_iff {name : String} (notHere : name ≠ ".") (notUp : name ≠ "..")
    {rest : List String} {reached : Place} :
    storage.enter place (name :: rest) = .ok reached ↔
      storage.at? (place ++ [name]) = some .directory ∧
        storage.enter (place ++ [name]) rest = .ok reached := by
  rw [enter, if_neg notHere, if_neg notUp]
  rcases storage.at? (place ++ [name]) with _ | _ | _ <;> simp

/-- Only the directories decide where names lead. -/
theorem enter_eq_ok_congr (same : SameDirectories before after) {reached : Place} (names : List String) :
    after.enter place names = .ok reached ↔ before.enter place names = .ok reached := by
  induction names generalizing place with
  | nil => rw [enter, enter]
  | cons name rest ih =>
    by_cases here : name = "."
    · rw [enter, enter, if_pos here, if_pos here, ih]
    · by_cases up : name = ".."
      · rw [enter, enter, if_neg here, if_neg here, if_pos up, if_pos up, ih]
      · rw [enter_cons_eq_ok_iff here up, enter_cons_eq_ok_iff here up, same.directories, ih]

theorem target_eq_ok_congr (same : SameDirectories before after) {target : Target} :
    after.target path = .ok target ↔ before.target path = .ok target := by
  have start : after.start path = before.start path := by rw [start, start, same.home]
  rw [Storage.target, Storage.target, start]
  split
  · rfl
  · cases path.steps.getLast? with
    | none => rfl
    | some name =>
      dsimp only
      rw [bind_eq_ok_iff, bind_eq_ok_iff]
      simp only [enter_eq_ok_congr same]

theorem slot?_congr (same : SameDirectories before after) (path : Path) :
    after.slot? path = before.slot? path := by
  refine Option.ext fun place => ?_
  simp only [slot?_eq_some_iff, target_eq_ok_congr same, ne_eq, same.directories]

/-- A path is read where its slot holds a file. -/
theorem read_eq_ok_iff :
    storage.read path = .ok bytes ↔
      ∃ place, storage.slot? path = some place ∧ storage.fileAt? place = some bytes := by
  rw [read, bind_eq_ok_iff]
  constructor
  · rintro ⟨entry, found, reads⟩
    obtain rfl : entry = .file bytes := by
      cases entry with
      | directory => cases reads
      | file held => rw [Except.ok.inj reads]
    rw [find, bind_eq_ok_iff] at found
    obtain ⟨target, reached, found⟩ := found
    cases target with
    | directory place => cases found
    | named directory name =>
      dsimp only at found
      rcases held : storage.at? (directory ++ [name]) with _ | entry
      · simp [held] at found
      · cases entry with
        | directory => simp [held] at found
        | file inside =>
          rw [held] at found
          dsimp only at found
          split at found
          · cases found
          · rename_i noSlash
            obtain rfl : inside = bytes := by simpa using found
            refine ⟨directory ++ [name], slot?_eq_some_iff.mpr ⟨directory, name, reached, ?_, ?_, rfl⟩, ?_⟩
            · exact Bool.eq_false_iff.mpr noSlash
            · simp [held]
            · rw [fileAt?, held]
  · rintro ⟨place, slot, held⟩
    obtain ⟨directory, name, reached, noSlash, -, rfl⟩ := slot?_eq_some_iff.mp slot
    refine ⟨.file bytes, ?_, rfl⟩
    rw [find, bind_eq_ok_iff]
    refine ⟨_, reached, ?_⟩
    rw [fileAt?] at held
    split at held
    · rename_i inside present
      obtain rfl := Option.some.inj held
      simp [present, noSlash]
    · cases held

/-- A path is read alike where the directories and the files are the same. -/
theorem toOption_read_congr (directories : SameDirectories before after) (files : SameFiles before after)
    (path : Path) : (after.read path).toOption = (before.read path).toOption := by
  refine Option.ext fun bytes => ?_
  simp only [toOption_eq_some_iff, read_eq_ok_iff, slot?_congr directories, files _]

end QuerySynth.Storage
