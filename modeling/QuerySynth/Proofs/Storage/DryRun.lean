import Mathlib.Data.List.Nodup
import QuerySynth.Proofs.Storage.Directory

/-! # Dry runs and second runs

A commit sorts its files by what their paths hold, a dry run before the output directory is made and a
commit after. Both find the same files unless the directory has to be made and then leads to files that
were there before, as it does through a missing directory and up again. What a commit leaves behind is
what it was given, so a second one finds nothing to do.
-/

namespace QuerySynth.Storage

variable {storage before made after : Storage} {directory : Path} {files : List (String × String)}
  {file : String × String} {report : CommitReport} {place : Place}

theorem toOption_read_eq (storage : Storage) (path : Path) :
    (storage.read path).toOption = (storage.slot? path).bind storage.fileAt? := by
  refine Option.ext fun bytes => ?_
  rw [toOption_eq_some_iff, read_eq_ok_iff, Option.bind_eq_some_iff]

/-- Whether a file had its contents before, at the place to which its path leads now. -/
def holds (before after : Storage) (directory : Path) (file : String × String) : Bool :=
  (after.slot? (directory.join file.1)).bind before.fileAt? = some (textBytes file.2)

theorem holds_eq_true_iff :
    holds before after directory file = true ↔
      ∃ place, after.slot? (directory.join file.1) = some place ∧
        before.fileAt? place = some (textBytes file.2) := by
  rw [holds, decide_eq_true_iff, Option.bind_eq_some_iff]

theorem holds_congr (directories : SameDirectories made after) (same : SameFiles before made) :
    holds before after directory = holds made made directory := by
  have looked : before.fileAt? = made.fileAt? := funext fun place => (same place).symm
  funext file
  rw [holds, holds, slot?_congr directories, looked]

/-- The files in two lists: those that had their contents, and the others. -/
def compare (before after : Storage) (directory : Path) (files : List (String × String)) :
    CommitReport where
  written := (files.filter (!holds before after directory ·)).map fun file => directory.join file.1
  unchanged := (files.filter (holds before after directory ·)).map fun file => directory.join file.1

theorem compare_congr (directories : SameDirectories made after) (same : SameFiles before made) :
    compare before after directory files = compare made made directory files := by
  rw [compare, compare, holds_congr directories same]

/-- Whatever is staged on the way, the report compares with the state at the start. -/
theorem report_of_stageAll {dryRun : Bool}
    (staged : storage.stageAll directory dryRun files = .ok (after, report)) :
    report = compare storage storage directory files := by
  induction files generalizing storage report with
  | nil =>
    obtain ⟨rfl, rfl⟩ := Prod.mk.inj (Except.ok.inj staged)
    rfl
  | cons file rest ih =>
    obtain ⟨name, contents⟩ := file
    rw [stageAll, toOption_read_eq] at staged
    dsimp only at staged
    split at staged
    · rename_i same
      have held : holds storage storage directory (name, contents) = true := decide_eq_true same
      obtain ⟨⟨later, others⟩, made, staged⟩ := bind_eq_ok_iff.mp staged
      obtain ⟨rfl, rfl⟩ := Prod.mk.inj (Except.ok.inj staged)
      rw [ih made, compare, compare, List.filter_cons_of_neg (by simp [held]),
        List.filter_cons_of_pos held, List.map_cons]
    · rename_i differs
      have lost : holds storage storage directory (name, contents) = false := decide_eq_false differs
      obtain ⟨first, directories, same, ⟨later, others⟩, made, staged⟩ :
          ∃ first, SameDirectories storage first ∧ SameFiles storage first ∧ ∃ result,
            first.stageAll directory dryRun rest = .ok result ∧
              .ok (result.1, { result.2 with written := directory.join name :: result.2.written }) =
                (.ok (after, report) : Except CommitFault (Storage × CommitReport)) := by
        cases dryRun with
        | true => exact ⟨storage, ⟨rfl, fun _ => Iff.rfl⟩, fun _ => rfl, bind_eq_ok_iff.mp staged⟩
        | false =>
          obtain ⟨first, single, staged⟩ := bind_eq_ok_iff.mp staged
          have step := staged_stage single
          exact ⟨first, step.sameDirectories, step.sameFiles, bind_eq_ok_iff.mp staged⟩
      obtain ⟨rfl, rfl⟩ := Prod.mk.inj (Except.ok.inj staged)
      have sameHolds : holds first first directory = holds storage storage directory := by
        funext other
        rw [holds, holds, slot?_congr directories, funext same]
      rw [ih made, compare, compare, sameHolds, List.filter_cons_of_pos (by simp [lost]),
        List.filter_cons_of_neg (by simp [lost]), List.map_cons]

/-- A dry run stages nothing and finds no fault. -/
theorem stageAll_dryRun (storage : Storage) (directory : Path) (files : List (String × String)) :
    ∃ report, storage.stageAll directory true files = .ok (storage, report) := by
  induction files with
  | nil => exact ⟨_, rfl⟩
  | cons file rest ih =>
    obtain ⟨report, staged⟩ := ih
    rw [stageAll]
    dsimp only
    split
    · exact ⟨_, by rw [staged]; rfl⟩
    · exact ⟨_, by simp only [if_true, bind, Except.bind, staged]; rfl⟩

/-- A dry run leaves the storage as it is, and compares with it. -/
theorem commit_dryRun (storage : Storage) (directory : Path) (files : List (String × String)) :
    storage.commit directory files true = (storage, .ok (compare storage storage directory files)) := by
  obtain ⟨report, staged⟩ := stageAll_dryRun storage directory files
  rw [commit, if_pos rfl]
  dsimp only
  rw [staged, report_of_stageAll staged]
  rfl

/-- A report of nothing unchanged lists every file as written. -/
theorem compare_of_unchanged_nil (none : (compare before after directory files).unchanged = []) :
    compare before after directory files = ⟨files.map fun file => directory.join file.1, []⟩ := by
  have all : files.filter (!holds before after directory ·) = files := by
    rw [compare, List.map_eq_nil_iff, List.filter_eq_nil_iff] at none
    rw [List.filter_eq_self]
    intro file member
    simpa using none file member
  rw [compare, all]
  exact congrArg _ none

/-- No file is found in a directory that is not there. -/
theorem unchanged_of_not_reaches (plain : ∀ file ∈ files, PlainName file.1)
    (absent : ¬ storage.Reaches directory) : (compare storage storage directory files).unchanged = [] := by
  rw [compare, List.map_eq_nil_iff, List.filter_eq_nil_iff]
  intro file member held
  obtain ⟨place, slot, -⟩ := holds_eq_true_iff.mp held
  obtain ⟨outer, led, -⟩ := (slot?_join_eq_some_iff (plain file member)).mp slot
  exact absent (reaches_of_enter led)

/-- What is found before the directory is made and after it is the same exactly if the directory was
there, or nothing is found in it afterwards either. -/
theorem compare_eq_iff (plain : ∀ file ∈ files, PlainName file.1)
    (output : storage.makeDirectories directory = (made, .ok ())) :
    compare storage storage directory files = compare made made directory files ↔
      storage.Reaches directory ∨ (compare made made directory files).unchanged = [] := by
  constructor
  · intro same
    refine or_iff_not_imp_left.mpr fun absent => ?_
    rw [← same]
    exact unchanged_of_not_reaches plain absent
  · intro foreseen
    by_cases present : storage.Reaches directory
    · rw [makeDirectories_of_reaches present] at output
      obtain ⟨rfl, -⟩ := Prod.mk.inj output
      rfl
    · rw [compare_of_unchanged_nil (unchanged_of_not_reaches plain present),
        compare_of_unchanged_nil (foreseen.resolve_left present)]

/-- A path that never goes up meets no earlier files in directories that had to be made. -/
theorem unchanged_of_rooted (rooted : storage.Rooted) (down : ".." ∉ directory.steps)
    (plain : ∀ file ∈ files, PlainName file.1)
    (output : storage.makeDirectories directory = (made, .ok ())) :
    storage.Reaches directory ∨ (compare made made directory files).unchanged = [] := by
  have kept := (kept_makeDirectories storage directory).files
  have grown := grown_makeDirectories storage directory
  rw [output] at kept grown
  refine or_iff_not_imp_left.mpr fun absent => ?_
  rw [compare, List.map_eq_nil_iff, List.filter_eq_nil_iff]
  intro file member held
  obtain ⟨place, slot, found⟩ := holds_eq_true_iff.mp held
  obtain ⟨outer, led, -, rfl⟩ := (slot?_join_eq_some_iff (plain file member)).mp slot
  have earlier : (storage.at? (outer ++ [file.1])).isSome := by
    have there : storage.fileAt? (outer ++ [file.1]) = some (textBytes file.2) := (kept _).symm.trans found
    rw [fileAt?] at there
    split at there
    · rename_i present
      rw [present]
      rfl
    · cases there
  have start : made.start directory = storage.start directory := by rw [start, start, grown.home]
  rw [start] at led
  exact absent (reaches_of_enter (rooted.enter down led (rooted outer file.1 earlier)))

theorem changed_eq (storage : Storage) (directory : Path) (files : List (String × String)) :
    storage.changed directory files =
      (files.filter (!holds storage storage directory ·)).map fun file =>
        (directory.join file.1, textBytes file.2) := by
  rw [changed, List.filter_map]
  congr 1
  refine List.filter_congr fun file _ => ?_
  simp [holds, toOption_read_eq]

/-- A commit that succeeds has made the directory, moved the changed files and left no temporary file. -/
theorem moved_of_commit_ok (idle : storage.pending = [])
    (done : (storage.commit directory files false).2 = .ok report) :
    ∃ made, storage.makeDirectories directory = (made, .ok ()) ∧
      report = compare made made directory files ∧
      (storage.commit directory files false).1.pending = [] ∧
      Moved made (storage.commit directory files false).1 (made.changed directory files) := by
  have kept := kept_makeDirectories storage directory
  rcases output : storage.makeDirectories directory with ⟨made, _ | ⟨⟨⟩⟩⟩
  · rw [commit, if_neg (by decide), output] at done
    cases done
  · rw [output] at kept
    rw [commit, if_neg (by decide), output] at done ⊢
    dsimp only at done ⊢
    have none : made.pending = [] := kept.pending.trans idle
    rcases staging : made.stageAll directory false files with stopped | ⟨next, found⟩
    · rw [staging] at done
      cases done
    · rw [staging] at done
      dsimp only at done ⊢
      obtain ⟨staged, written⟩ := staged_stageAll staging
      rw [if_neg (by decide)] at done ⊢
      have start : Moved made next [] := moved_nil staged.sameDirectories staged.sameFiles
      obtain ⟨added, pending, aligned⟩ := staged.pending
      rw [none, List.nil_append] at pending
      rw [written, pendingSince, none, List.length_nil, List.drop_zero, pending] at done ⊢
      rcases settled : next.settleAll (added.zip ((made.changed directory files).map Prod.fst)) with
        ⟨after, outcome⟩
      rw [settled] at done
      dsimp only at done ⊢
      rcases moved_settleAll start pending aligned settled with ⟨rfl, idle, moved⟩ | ⟨_, _, _, _, _, rfl, _⟩
      · obtain rfl := Except.ok.inj done
        exact ⟨made, rfl, report_of_stageAll staging, idle, moved⟩
      · cases done

section Contents

variable (plain : ∀ file ∈ files, PlainName file.1) (distinct : (files.map Prod.fst).Nodup)

include plain distinct

/-- What was moved into the slot of a file is that file. -/
private theorem eq_of_lastIn? (member : file ∈ files)
    (slot : made.slot? (directory.join file.1) = some place) {bytes : List UInt8}
    (last : made.lastIn? (made.changed directory files) place = some bytes) :
    bytes = textBytes file.2 := by
  obtain ⟨latest, found, rfl⟩ := Option.map_eq_some_iff.mp last
  have there : made.slot? latest.1 = some place := by simpa using List.find?_some found
  have listed := List.mem_reverse.mp (List.mem_of_find?_eq_some found)
  rw [changed_eq] at listed
  obtain ⟨other, inside, rfl⟩ := List.mem_map.mp listed
  have otherMember := (List.mem_filter.mp inside).1
  have named := eq_of_slot?_join (plain other otherMember) (plain file member) there slot
  rw [List.inj_on_of_nodup_map distinct otherMember member named]

/-- Afterwards every file has its contents in its slot. -/
theorem exists_slot_of_moved (moved : Moved made after (made.changed directory files))
    (member : file ∈ files) :
    ∃ place, made.slot? (directory.join file.1) = some place ∧
      after.fileAt? place = some (textBytes file.2) := by
  cases held : holds made made directory file with
  | true =>
    obtain ⟨place, slot, found⟩ := holds_eq_true_iff.mp held
    refine ⟨place, slot, ?_⟩
    rw [moved.contents]
    cases last : made.lastIn? (made.changed directory files) place with
    | none => exact found
    | some bytes => rw [eq_of_lastIn? plain distinct member slot last, Option.some_or]
  | false =>
    have listed : (directory.join file.1, textBytes file.2) ∈ made.changed directory files := by
      rw [changed_eq]
      exact List.mem_map_of_mem (List.mem_filter.mpr ⟨member, by simp [held]⟩)
    obtain ⟨place, slot⟩ := Option.isSome_iff_exists.mp (moved.slots _ listed)
    refine ⟨place, slot, ?_⟩
    rw [moved.contents]
    cases last : made.lastIn? (made.changed directory files) place with
    | none =>
      rw [lastIn?, Option.map_eq_none_iff, List.find?_eq_none] at last
      exact absurd slot (by simpa using last _ (List.mem_reverse.mpr listed))
    | some bytes => rw [eq_of_lastIn? plain distinct member slot last, Option.some_or]

end Contents

/-- Other places hold the files that they held. -/
theorem fileAt?_of_moved (moved : Moved made after (made.changed directory files))
    (elsewhere : ∀ file ∈ files, made.slot? (directory.join file.1) ≠ some place) :
    after.fileAt? place = made.fileAt? place := by
  have none : made.lastIn? (made.changed directory files) place = none := by
    rw [lastIn?, Option.map_eq_none_iff, List.find?_eq_none]
    intro target listed
    rw [List.mem_reverse, changed_eq] at listed
    obtain ⟨file, inside, rfl⟩ := List.mem_map.mp listed
    simpa using elsewhere file (List.mem_filter.mp inside).1
  rw [moved.contents, none, Option.none_or]

/-- A directory or a file is known by looking for either. -/
theorem at?_eq_some_of {entry : StoredEntry} (held : before.at? place = some entry)
    (directories : before.at? place = some .directory → after.at? place = some .directory)
    (same : after.fileAt? place = before.fileAt? place) : after.at? place = some entry := by
  cases entry with
  | directory => exact directories held
  | file bytes =>
    rw [fileAt?, fileAt?, held] at same
    dsimp only at same
    split at same
    · rename_i present
      rw [present, Option.some.inj same]
    · cases same

private theorem stageAll_of_holds (same : ∀ file ∈ files, holds storage storage directory file = true) :
    storage.stageAll directory false files =
      .ok (storage, ⟨[], files.map fun file => directory.join file.1⟩) := by
  induction files with
  | nil => rfl
  | cons file rest ih =>
    obtain ⟨first, later⟩ := List.forall_mem_cons.mp same
    obtain ⟨name, contents⟩ := file
    rw [stageAll, toOption_read_eq]
    dsimp only
    rw [if_pos (of_decide_eq_true first), ih later]
    rfl

/-- A commit of files that are there does nothing. -/
theorem commit_of_holds (present : storage.Reaches directory)
    (same : ∀ file ∈ files, holds storage storage directory file = true) :
    storage.commit directory files false =
      (storage, .ok ⟨[], files.map fun file => directory.join file.1⟩) := by
  rw [commit, if_neg (by decide), makeDirectories_of_reaches present]
  dsimp only
  rw [stageAll_of_holds same]
  dsimp only
  rw [if_neg (by decide), List.zip_nil_right]
  rfl

/-- What a commit that succeeds leaves behind. Its report sorts the files by whether they were there with
their contents at the start. -/
structure Committed (before after : Storage) (directory : Path) (files : List (String × String))
    (report : CommitReport) : Prop where
  /-- Every file has exactly its contents. -/
  contents : ∀ file ∈ files, after.read (directory.join file.1) = .ok (textBytes file.2)
  /-- No other entry is changed. -/
  kept : ∀ place entry, (∀ file ∈ files, after.slot? (directory.join file.1) ≠ some place) →
    before.at? place = some entry → after.at? place = some entry
  /-- No other file is added. -/
  others : ∀ place, (∀ file ∈ files, after.slot? (directory.join file.1) ≠ some place) →
    after.fileAt? place = before.fileAt? place
  /-- No temporary file is left. -/
  idle : after.pending = []
  /-- The files that were missing or different are reported as written, and the rest as unchanged. -/
  sorted : report = compare before after directory files
  /-- A second commit finds all files unchanged and leaves the storage as it is. -/
  again : after.commit directory files false =
    (after, .ok ⟨[], files.map fun file => directory.join file.1⟩)

theorem committed_of_moved (plain : ∀ file ∈ files, PlainName file.1)
    (distinct : (files.map Prod.fst).Nodup)
    (output : storage.makeDirectories directory = (made, .ok ()))
    (moved : Moved made after (made.changed directory files)) (idle : after.pending = []) :
    Committed storage after directory files (compare made made directory files) := by
  have files' := (kept_makeDirectories storage directory).files
  have grown := grown_makeDirectories storage directory
  rw [output] at files' grown
  have slots (file : String × String) :
      after.slot? (directory.join file.1) = made.slot? (directory.join file.1) :=
    slot?_congr moved.directories _
  have others (place : Place)
      (elsewhere : ∀ file ∈ files, after.slot? (directory.join file.1) ≠ some place) :
      after.fileAt? place = storage.fileAt? place := by
    simp only [slots] at elsewhere
    exact (fileAt?_of_moved moved elsewhere).trans (files' place)
  have found : ∀ file ∈ files, ∃ place, after.slot? (directory.join file.1) = some place ∧
      after.fileAt? place = some (textBytes file.2) := by
    intro file member
    rw [slots]
    exact exists_slot_of_moved plain distinct moved member
  refine ⟨?_, ?_, others, idle, ?_, ?_⟩
  · intro file member
    exact read_eq_ok_iff.mpr (found file member)
  · intro place entry elsewhere held
    refine at?_eq_some_of held (fun directory => ?_) (others place elsewhere)
    exact (moved.directories.directories place).mpr (grown.directories place directory)
  · exact (compare_congr moved.directories files').symm
  · refine commit_of_holds ((reaches_makeDirectories output).congr moved.directories) fun file member => ?_
    exact holds_eq_true_iff.mpr (found file member)

/-- A dry run changes nothing and cannot fail. It reports what the commit then reports exactly if the
output directory is there, or the commit finds no file unchanged; in a storage whose entries lie in
directories one of these is the case as long as the path of the directory does not go up. The commit leaves
the files and nothing else, and a second one has nothing to do. -/
theorem dryRun_predicts_commit (storage : Storage) (directory : Path) (files : List (String × String))
    (report : CommitReport) (idle : storage.pending = []) (plain : ∀ file ∈ files, PlainName file.1)
    (distinct : (files.map Prod.fst).Nodup)
    (done : (storage.commit directory files false).2 = .ok report) :
    (∃ predicted, storage.commit directory files true = (storage, .ok predicted) ∧
        (predicted = report ↔ storage.Reaches directory ∨ report.unchanged = [])) ∧
      (storage.Rooted → ".." ∉ directory.steps →
        storage.commit directory files true = (storage, .ok report)) ∧
      Committed storage (storage.commit directory files false).1 directory files report := by
  obtain ⟨made, output, rfl, idle', moved⟩ := moved_of_commit_ok idle done
  have predicts := compare_eq_iff plain output
  refine ⟨⟨_, commit_dryRun storage directory files, predicts⟩, ?_, ?_⟩
  · intro rooted down
    rw [commit_dryRun, predicts.mpr (unchanged_of_rooted rooted down plain output)]
  · exact committed_of_moved plain distinct output moved idle'

/-- An output directory in which one file is as it is to be and another is older. -/
def earlierStorage : Storage :=
  ((ofHome ["work"]).plant ["work", "gen", "mod.rs"] (.file (textBytes "pub mod filters;\n"))).plant
    ["work", "gen", "filters.rs"] (.file (textBytes "// previous\n"))

def moduleFiles : List (String × String) :=
  [("mod.rs", "pub mod filters;\n"), ("filters.rs", "// filters\n")]

theorem plainName_moduleFiles : ∀ file ∈ moduleFiles, PlainName file.1 := by
  simp only [moduleFiles, List.forall_mem_cons]
  exact ⟨⟨by decide, by decide, by decide, by decide⟩, ⟨by decide, by decide, by decide, by decide⟩, by simp⟩

/-- There the dry run reports what the commit reports, and a second commit reports nothing written. -/
theorem dryRun_predicts_commit_earlier :
    earlierStorage.commit ⟨"gen"⟩ moduleFiles true =
        (earlierStorage, .ok ⟨[⟨"gen/filters.rs"⟩], [⟨"gen/mod.rs"⟩]⟩) ∧
      Committed earlierStorage (earlierStorage.commit ⟨"gen"⟩ moduleFiles false).1 ⟨"gen"⟩ moduleFiles
        ⟨[⟨"gen/filters.rs"⟩], [⟨"gen/mod.rs"⟩]⟩ := by
  have done : (earlierStorage.commit ⟨"gen"⟩ moduleFiles false).2 =
      .ok ⟨[⟨"gen/filters.rs"⟩], [⟨"gen/mod.rs"⟩]⟩ := by decide +kernel
  obtain ⟨⟨predicted, dry, predicts⟩, -, committed⟩ := dryRun_predicts_commit earlierStorage ⟨"gen"⟩
    moduleFiles _ rfl plainName_moduleFiles (by decide) done
  obtain rfl := predicts.mpr (.inl (.inr (by decide +kernel)))
  exact ⟨dry, committed⟩

/-- A file beside an output directory that is written by way of a missing one. -/
def detourStorage : Storage :=
  (ofHome ["work"]).plant ["work", "mod.rs"] (.file (textBytes "pub mod filters;\n"))

/-- The dry run says that the file would be written, and the commit leaves it unchanged. -/
theorem dryRun_detour :
    detourStorage.pending = [] ∧ (∀ file ∈ moduleFiles.take 1, PlainName file.1) ∧
      ((moduleFiles.take 1).map Prod.fst).Nodup ∧
      (detourStorage.commit ⟨"gen/.."⟩ (moduleFiles.take 1) false).2 = .ok ⟨[], [⟨"gen/../mod.rs"⟩]⟩ ∧
      (detourStorage.commit ⟨"gen/.."⟩ (moduleFiles.take 1) true).2 = .ok ⟨[⟨"gen/../mod.rs"⟩], []⟩ ∧
      (detourStorage.commit ⟨"gen/.."⟩ (moduleFiles.take 1) true).2 ≠
        (detourStorage.commit ⟨"gen/.."⟩ (moduleFiles.take 1) false).2 := by
  refine ⟨rfl, fun file member => ?_, by decide, ?_⟩
  · exact plainName_moduleFiles file (List.mem_of_mem_take member)
  · decide +kernel

end QuerySynth.Storage
