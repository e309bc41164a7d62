import QuerySynth.Storage.Commit
import QuerySynth.Proofs.Storage.Files

/-! # Commits that stop

Making the output directory and staging leave every file. Moving goes through the changed files in their
order, so a commit that stops has moved the changed files before the one that cannot be moved, and no
others. It leaves all files as they were exactly when there are none before that one. Of the temporary
files only that of the one that cannot be moved is left.
-/

namespace QuerySynth

/-- A path and the contents that it is to have. -/
abbrev TargetFile := Path × List UInt8

namespace Storage

/-- The files whose targets in a directory do not hold their contents, with the paths of the targets. -/
def changed (storage : Storage) (directory : Path) (files : List (String × String)) : List TargetFile :=
  (files.map fun file => (directory.join file.1, textBytes file.2)).filter fun file =>
    (storage.read file.1).toOption ≠ some file.2

/-- What the last one of some files with a slot at a place contains. -/
def lastIn? (storage : Storage) (files : List TargetFile) (place : Place) : Option (List UInt8) :=
  (files.reverse.find? fun file => storage.slot? file.1 = some place).map Prod.snd

/-- The later state has the files of the earlier one, but for the places of some files: each of these
holds what was last moved there. -/
structure Moved (before after : Storage) (files : List TargetFile) : Prop where
  directories : SameDirectories before after
  slots : ∀ file ∈ files, (before.slot? file.1).isSome
  contents : ∀ place, after.fileAt? place = (before.lastIn? files place).or (before.fileAt? place)

end Storage

/-- The changed files that were moved before a fault: none, unless a move failed, and then those before
its target. -/
def CommitFault.movedBefore (changed : List TargetFile) : CommitFault → List TargetFile
  | .notMoved target _ => changed.takeWhile fun file => file.1 ≠ target
  | _ => []

/-- The changed file whose temporary file is left: the one that cannot be moved, if that is the fault. -/
def CommitFault.stuck? (changed : List TargetFile) : CommitFault → Option TargetFile
  | .notMoved target _ => changed.find? fun file => file.1 = target
  | _ => none

/-- What was moved is some of the changed files. -/
theorem CommitFault.mem_of_mem_movedBefore {changed : List TargetFile} {file : TargetFile}
    (fault : CommitFault) (member : file ∈ fault.movedBefore changed) : file ∈ changed := by
  cases fault with
  | notMoved target cause => exact (List.takeWhile_prefix _).subset member
  | noOutput parent cause => cases member
  | noTemporary parent cause => cases member
  | notWritten target cause => cases member

namespace Storage

variable {storage before after : Storage} {directory path : Path} {bytes : List UInt8}
  {files moved : List TargetFile} {staged : List PendingFile}

/-- No file is touched and no temporary file comes or goes. -/
structure Kept (before after : Storage) : Prop where
  files : SameFiles before after
  pending : after.pending = before.pending

theorem Kept.refl (storage : Storage) : Kept storage storage :=
  ⟨fun _ => rfl, rfl⟩

theorem Kept.trans {middle : Storage} (first : Kept before middle) (second : Kept middle after) :
    Kept before after :=
  ⟨first.files.trans second.files, second.pending.trans first.pending⟩

theorem kept_makeDirectory (made : storage.makeDirectory path = .ok after) : Kept storage after := by
  rw [makeDirectory, bind_eq_ok_iff] at made
  obtain ⟨target, -, made⟩ := made
  cases target with
  | directory place => cases made
  | named place name =>
    dsimp only at made
    split at made
    · cases made
    · rename_i vacant
      obtain rfl := Except.ok.inj made
      exact ⟨sameFiles_put_directory (by simpa using vacant), rfl⟩

/-- Making missing directories is a run of steps that each make one. -/
theorem makeMissing_induction {R : Storage → Storage → Prop} (refl : ∀ storage, R storage storage)
    (trans : ∀ {before middle after}, R before middle → R middle after → R before after)
    (step : ∀ {storage path made}, storage.makeDirectory path = .ok made → R storage made)
    (paths : List Path) (storage : Storage) : R storage (storage.makeMissing paths).1 := by
  induction paths generalizing storage with
  | nil => exact refl storage
  | cons path parents ih =>
    rw [makeMissing]
    split
    · rename_i made
      exact step made
    · have outer := ih storage
      split
      · rename_i stopped
        rwa [stopped] at outer
      · rename_i reached
        rw [reached] at outer
        split
        · rename_i made
          exact trans outer (step made)
        · exact outer
    · exact refl storage

/-- Making directories touches no file, also when it stops. -/
theorem kept_makeDirectories (storage : Storage) (directory : Path) :
    Kept storage (storage.makeDirectories directory).1 :=
  makeMissing_induction Kept.refl Kept.trans kept_makeDirectory directory.withParents storage

/-- Staging adds temporary files with some contents and changes nothing else. -/
structure Staged (before after : Storage) (contents : List (List UInt8)) : Prop where
  entries : after.entries = before.entries
  home : after.home = before.home
  pending : ∃ added, after.pending = before.pending ++ added ∧ added.map (·.bytes) = contents

theorem Staged.sameFiles {contents : List (List UInt8)} (staged : Staged before after contents) :
    SameFiles before after := by
  intro place
  rw [fileAt?, at?, staged.entries, fileAt?, at?]

theorem Staged.sameDirectories {contents : List (List UInt8)} (staged : Staged before after contents) :
    SameDirectories before after := by
  refine ⟨staged.home, fun place => ?_⟩
  rw [at?, staged.entries, at?]

/-- A file is staged in the directory that its path stages in, where the path leads there and the device
takes the contents. -/
theorem stage_cases (storage : Storage) (path : Path) (bytes : List UInt8) :
    (∃ place, storage.stage path bytes = .ok { storage with pending := storage.pending ++ [⟨place, bytes⟩] }) ∨
      (∃ cause, storage.stage path bytes = .error (.noTemporary path.stagingDirectory cause)) ∨
      ∃ cause, storage.stage path bytes = .error (.notWritten path cause) := by
  delta stage
  generalize path.stagingDirectory = directory
  dsimp only
  cases storage.enter (storage.start directory) directory.steps with
  | error cause => exact .inr (.inl ⟨cause, rfl⟩)
  | ok place =>
    cases storage.refusal? path bytes with
    | some cause => exact .inr (.inr ⟨cause, rfl⟩)
    | none => exact .inl ⟨place, rfl⟩

theorem staged_stage (staged : storage.stage path bytes = .ok after) : Staged storage after [bytes] := by
  rcases stage_cases storage path bytes with ⟨place, made⟩ | ⟨cause, stopped⟩ | ⟨cause, stopped⟩
  · obtain rfl := Except.ok.inj (made.symm.trans staged)
    exact ⟨rfl, rfl, [⟨place, bytes⟩], rfl, rfl⟩
  · cases stopped.symm.trans staged
  · cases stopped.symm.trans staged

/-- The changed files are the same where the directories and the files are. -/
theorem changed_congr (directories : SameDirectories before after) (same : SameFiles before after)
    (directory : Path) (files : List (String × String)) :
    after.changed directory files = before.changed directory files := by
  simp only [changed, toOption_read_congr directories same]

theorem staged_stageAll {files : List (String × String)} {report : CommitReport}
    (staged : storage.stageAll directory false files = .ok (after, report)) :
    Staged storage after ((storage.changed directory files).map Prod.snd) ∧
      report.written = (storage.changed directory files).map Prod.fst := by
  induction files generalizing storage report with
  | nil =>
    obtain ⟨rfl, rfl⟩ := Prod.mk.inj (Except.ok.inj staged)
    exact ⟨⟨rfl, rfl, [], (List.append_nil _).symm, rfl⟩, rfl⟩
  | cons file rest ih =>
    obtain ⟨name, contents⟩ := file
    rw [stageAll] at staged
    dsimp only at staged
    split at staged
    · rename_i unchanged
      obtain ⟨⟨later, others⟩, made, staged⟩ := bind_eq_ok_iff.mp staged
      obtain ⟨rfl, rfl⟩ := Prod.mk.inj (Except.ok.inj staged)
      have skipped : storage.changed directory ((name, contents) :: rest) = storage.changed directory rest := by
        rw [changed, List.map_cons, List.filter_cons_of_neg (by simpa using unchanged), changed]
      obtain ⟨tail, written⟩ := ih made
      rw [skipped]
      exact ⟨tail, written⟩
    · rename_i differs
      obtain ⟨first, single, staged⟩ := bind_eq_ok_iff.mp staged
      obtain ⟨⟨later, others⟩, made, staged⟩ := bind_eq_ok_iff.mp staged
      obtain ⟨rfl, rfl⟩ := Prod.mk.inj (Except.ok.inj staged)
      have head := staged_stage single
      obtain ⟨tail, written⟩ := ih made
      have listed : storage.changed directory ((name, contents) :: rest) =
          (directory.join name, textBytes contents) :: storage.changed directory rest := by
        rw [changed, List.map_cons, List.filter_cons_of_pos (by simpa using differs), changed]
      rw [changed_congr head.sameDirectories head.sameFiles] at tail written
      rw [listed]
      obtain ⟨first', added, single⟩ := head.pending
      obtain ⟨others', more, several⟩ := tail.pending
      refine ⟨⟨tail.entries.trans head.entries, tail.home.trans head.home, first' ++ others', ?_, ?_⟩, ?_⟩
      · rw [more, added, List.append_assoc]
      · rw [List.map_append, single, several, List.map_cons, List.singleton_append]
      · rw [written, List.map_cons]

/-- Staging moves nothing, so it finds no fault in moving. -/
theorem fault_of_stageAll {files : List (String × String)} {fault : CommitFault}
    (stopped : storage.stageAll directory false files = .error fault) (target : Path) (cause : StorageFault) :
    fault ≠ .notMoved target cause := by
  rintro rfl
  induction files generalizing storage with
  | nil => cases stopped
  | cons file rest ih =>
    obtain ⟨name, contents⟩ := file
    rw [stageAll] at stopped
    dsimp only at stopped
    split at stopped
    · rcases bind_eq_error_iff.mp stopped with later | ⟨_, -, finished⟩
      · exact ih later
      · cases finished
    · rcases bind_eq_error_iff.mp stopped with single | ⟨_, -, stopped⟩
      · rcases stage_cases storage (directory.join name) (textBytes contents) with
          ⟨place, made⟩ | ⟨cause, refused⟩ | ⟨cause, refused⟩
        · cases made.symm.trans single
        · cases single.symm.trans refused
        · cases single.symm.trans refused
      · rcases bind_eq_error_iff.mp stopped with later | ⟨_, -, finished⟩
        · exact ih later
        · cases finished

theorem replace_eq_ok_iff :
    storage.replace path bytes = .ok after ↔
      ∃ place, storage.slot? path = some place ∧ after = storage.put place (.file bytes) := by
  rw [replace, bind_eq_ok_iff]
  constructor
  · rintro ⟨target, reached, made⟩
    cases target with
    | directory place => cases made
    | named inner name =>
      dsimp only at made
      split at made
      · cases made
      · rename_i noSlash
        split at made
        · cases made
        · rename_i free
          refine ⟨inner ++ [name], slot?_eq_some_iff.mpr ⟨inner, name, reached, ?_, free, rfl⟩, ?_⟩
          · exact Bool.eq_false_iff.mpr noSlash
          · exact (Except.ok.inj made).symm
  · rintro ⟨place, slot, rfl⟩
    obtain ⟨inner, name, reached, noSlash, free, rfl⟩ := slot?_eq_some_iff.mp slot
    exact ⟨_, reached, by simp [noSlash, free]⟩

theorem slot?_eq_none_of_replace {cause : StorageFault}
    (failed : storage.replace path bytes = .error cause) : storage.slot? path = none := by
  rw [Option.eq_none_iff_forall_not_mem]
  intro place slot
  have accepted : storage.replace path bytes = .ok (storage.put place (.file bytes)) :=
    replace_eq_ok_iff.mpr ⟨place, slot, rfl⟩
  rw [failed] at accepted
  cases accepted

theorem moved_nil (directories : SameDirectories before after) (same : SameFiles before after) :
    Moved before after [] :=
  ⟨directories, by simp, fun place => by simpa [lastIn?] using same place⟩

/-- One more file is put into its slot. -/
theorem Moved.put (sofar : Moved before storage moved) {place : Place}
    (slot : storage.slot? path = some place) :
    Moved before (storage.put place (.file bytes)) (moved ++ [(path, bytes)]) := by
  have slotBefore : before.slot? path = some place := by rwa [← slot?_congr sofar.directories]
  have below := slot?_ne_root slot
  refine ⟨sofar.directories.trans (sameDirectories_put_file below (at?_slot? slot)), ?_, ?_⟩
  · intro file member
    rcases List.mem_append.mp member with earlier | last
    · exact sofar.slots file earlier
    · obtain rfl := List.mem_singleton.mp last
      simp [slotBefore]
  · intro other
    have latest : before.lastIn? (moved ++ [(path, bytes)]) other =
        if other = place then some bytes else before.lastIn? moved other := by
      rw [lastIn?, List.reverse_append, List.reverse_singleton, List.singleton_append, List.find?_cons,
        slotBefore, lastIn?]
      by_cases same : other = place
      · simp [same]
      · simp [same, Ne.symm same]
    rw [fileAt?_put_file below, sofar.contents, latest]
    split <;> rfl

/-- Only the temporary files are different. -/
theorem Moved.congr (sofar : Moved before storage moved) (entries : after.entries = storage.entries)
    (home : after.home = storage.home) : Moved before after moved := by
  have same : after.at? = storage.at? := by
    funext place
    rw [at?, entries, at?]
  refine ⟨⟨home.trans sofar.directories.home, ?_⟩, sofar.slots, ?_⟩
  · intro place
    rw [same, sofar.directories.directories]
  · intro place
    rw [fileAt?, same, ← sofar.contents, fileAt?]

/-- Removing temporary files touches nothing else. -/
theorem foldl_remove (storage : Storage) (staged : List PendingFile) :
    staged.foldl remove storage = { storage with pending := staged.foldl List.erase storage.pending } := by
  induction staged generalizing storage with
  | nil => rfl
  | cons next rest ih => rw [List.foldl_cons, ih, remove, List.foldl_cons]

/-- Of temporary files in a row the first is left when all others are removed. -/
theorem foldl_erase (file : PendingFile) (staged : List PendingFile) :
    staged.foldl List.erase (file :: staged) = [file] := by
  induction staged with
  | nil => rfl
  | cons next rest ih =>
    have first : (file :: next :: rest).erase next = file :: rest := by
      by_cases same : file = next
      · rw [same, List.erase_cons_head]
      · rw [List.erase_cons_tail (by simpa using same), List.erase_cons_head]
    rw [List.foldl_cons, first, ih]

/-- Moving staged files stops at the first one whose target has no slot, and then leaves the temporary file
of that one only. -/
theorem moved_settleAll (sofar : Moved before storage moved) (listed : storage.pending = staged)
    (aligned : staged.map (·.bytes) = files.map Prod.snd) {outcome : Except CommitFault Unit}
    (settled : storage.settleAll (staged.zip (files.map Prod.fst)) = (after, outcome)) :
    (outcome = .ok () ∧ after.pending = [] ∧ Moved before after (moved ++ files)) ∨
      ∃ done target rest cause, files = done ++ target :: rest ∧
        outcome = .error (.notMoved target.1 cause) ∧ before.slot? target.1 = none ∧
        after.pending.map (·.bytes) = [target.2] ∧ Moved before after (moved ++ done) := by
  induction files generalizing storage moved staged with
  | nil =>
    obtain rfl := List.map_eq_nil_iff.mp aligned
    obtain ⟨rfl, rfl⟩ := Prod.mk.inj settled
    refine .inl ⟨rfl, listed, ?_⟩
    rwa [List.append_nil]
  | cons file rest ih =>
    obtain ⟨path, bytes⟩ := file
    rcases staged with _ | ⟨first, others⟩
    · cases aligned
    · rw [List.map_cons, List.map_cons, List.cons.injEq] at aligned
      obtain ⟨rfl, aligned⟩ := aligned
      rw [List.map_cons, List.zip_cons_cons, settleAll, settle] at settled
      dsimp only at settled
      cases replaced : storage.replace path first.bytes with
      | ok next =>
        rw [replaced] at settled
        dsimp only at settled
        obtain ⟨place, slot, rfl⟩ := replace_eq_ok_iff.mp replaced
        have step : Moved before ((storage.put place (.file first.bytes)).remove first)
            (moved ++ [(path, first.bytes)]) := (sofar.put slot).congr rfl rfl
        have left : ((storage.put place (.file first.bytes)).remove first).pending = others := by
          rw [remove, put, listed, List.erase_cons_head]
        have outcomes := ih step left aligned settled
        simp only [List.append_assoc, List.singleton_append] at outcomes
        rcases outcomes with finished | ⟨done, target, behind, cause, rfl, stopped⟩
        · exact .inl finished
        · exact .inr ⟨_ :: done, target, behind, cause, rfl, stopped⟩
      | error cause =>
        rw [replaced] at settled
        obtain ⟨rfl, rfl⟩ := Prod.mk.inj settled
        have count : others.length = rest.length := by simpa using congrArg List.length aligned
        have removed : (others.zip (rest.map Prod.fst)).map Prod.fst = others :=
          List.map_fst_zip (by simp [count])
        rw [removed, foldl_remove, listed, foldl_erase]
        refine .inr ⟨[], (path, first.bytes), rest, cause, rfl, rfl, ?_, rfl, ?_⟩
        · rw [← slot?_congr sofar.directories]
          exact slot?_eq_none_of_replace replaced
        · rw [List.append_nil]
          exact sofar.congr rfl rfl

/-- A moved file that was changed is seen. -/
theorem eq_nil_of_sameFiles (sofar : Moved before after moved)
    (differ : ∀ file ∈ moved, (before.read file.1).toOption ≠ some file.2) (same : SameFiles before after) :
    moved = [] := by
  rcases moved with _ | ⟨file, rest⟩
  · rfl
  · obtain ⟨place, slot⟩ := Option.isSome_iff_exists.mp (sofar.slots file List.mem_cons_self)
    have held := (sofar.contents place).symm.trans (same place)
    cases last : before.lastIn? (file :: rest) place with
    | none =>
      rw [lastIn?, Option.map_eq_none_iff, List.find?_eq_none] at last
      exact absurd slot (by simpa using last file (by simp))
    | some bytes =>
      rw [last, Option.some_or] at held
      obtain ⟨latest, found, rfl⟩ := Option.map_eq_some_iff.mp last
      have there : before.slot? latest.1 = some place := by simpa using List.find?_some found
      have listed : latest ∈ file :: rest := List.mem_reverse.mp (List.mem_of_find?_eq_some found)
      have reads := read_eq_ok_iff.mpr ⟨place, there, held.symm⟩
      exact absurd (toOption_eq_some_iff.mpr reads) (differ latest listed)

/-- The path of a file without a slot is none of the paths before it, because those have slots. -/
theorem takeWhile_target {done rest : List TargetFile} {target : TargetFile}
    (slots : ∀ file ∈ done, (storage.slot? file.1).isSome) (full : storage.slot? target.1 = none) :
    (done ++ target :: rest).takeWhile (fun file => file.1 ≠ target.1) = done := by
  have before : ∀ file ∈ done, decide (file.1 ≠ target.1) = true := by
    intro file member
    have slot := slots file member
    rw [decide_eq_true_iff]
    intro same
    simp [same, full] at slot
  rw [List.takeWhile_append_of_pos before, List.takeWhile_cons_of_neg (by simp), List.append_nil]

/-- So it is the first one with its path. -/
theorem find?_target {done rest : List TargetFile} {target : TargetFile}
    (slots : ∀ file ∈ done, (storage.slot? file.1).isSome) (full : storage.slot? target.1 = none) :
    (done ++ target :: rest).find? (fun file => file.1 = target.1) = some target := by
  rw [List.find?_eq_some_iff_append]
  refine ⟨by simp, done, rest, rfl, ?_⟩
  intro file member
  have slot := slots file member
  rw [Bool.not_eq_true', decide_eq_false_iff_not]
  intro same
  simp [same, full] at slot

section Stopped

variable {files : List (String × String)} {fault : CommitFault}

/-- A commit that stops has moved the changed files before the one that cannot be moved, and has left the
temporary file of that one only. -/
theorem moved_of_commit_error (idle : storage.pending = [])
    (failed : (storage.commit directory files false).2 = .error fault) :
    let changed := (storage.makeDirectories directory).1.changed directory files
    (storage.commit directory files false).1.pending.map (·.bytes) =
        ((fault.stuck? changed).map Prod.snd).toList ∧
      Moved (storage.makeDirectories directory).1 (storage.commit directory files false).1
        (fault.movedBefore changed) := by
  have kept := kept_makeDirectories storage directory
  rcases output : storage.makeDirectories directory with ⟨made, _ | ⟨⟨⟩⟩⟩
  · rw [output] at kept
    rw [commit, if_neg (by decide), output] at failed ⊢
    obtain rfl := Except.error.inj failed
    exact ⟨congrArg _ (kept.pending.trans idle), moved_nil ⟨rfl, fun _ => Iff.rfl⟩ fun _ => rfl⟩
  · rw [output] at kept
    rw [commit, if_neg (by decide), output] at failed ⊢
    dsimp only at failed ⊢
    have none : made.pending = [] := kept.pending.trans idle
    rcases staging : made.stageAll directory false files with stopped | ⟨next, report⟩
    · rw [staging] at failed
      obtain rfl := Except.error.inj failed
      have unmoved := fault_of_stageAll staging
      have nothing : stopped.movedBefore (made.changed directory files) = [] ∧
          stopped.stuck? (made.changed directory files) = Option.none := by
        cases stopped with
        | notMoved target cause => exact absurd rfl (unmoved target cause)
        | _ => exact ⟨rfl, rfl⟩
      rw [nothing.1, nothing.2]
      exact ⟨congrArg _ none, moved_nil ⟨rfl, fun _ => Iff.rfl⟩ fun _ => rfl⟩
    · rw [staging] at failed
      dsimp only at failed ⊢
      obtain ⟨staged, written⟩ := staged_stageAll staging
      rw [if_neg (by decide)] at failed ⊢
      have start : Moved made next [] := moved_nil staged.sameDirectories staged.sameFiles
      obtain ⟨added, pending, aligned⟩ := staged.pending
      rw [none, List.nil_append] at pending
      rw [written, pendingSince, none, List.length_nil, List.drop_zero, pending] at failed ⊢
      rcases settled : next.settleAll (added.zip ((made.changed directory files).map Prod.fst)) with
        ⟨after, outcome⟩
      rw [settled] at failed
      dsimp only at failed ⊢
      rcases moved_settleAll start pending aligned settled with
        ⟨rfl, -⟩ | ⟨done, target, rest, cause, split, rfl, full, left, sofar⟩
      · cases failed
      · obtain rfl := Except.error.inj failed
        rw [List.nil_append] at sofar
        rw [CommitFault.movedBefore, CommitFault.stuck?, split, takeWhile_target sofar.slots full,
          find?_target sofar.slots full]
        exact ⟨left, sofar⟩

/-- A commit that stops leaves every file as it was exactly when no changed file comes before the one
that cannot be moved. In any case the changed files before that one are in their places, every other place
holds the file that it held, and no temporary file is left but that of the one that cannot be moved. -/
theorem sameFiles_commit_iff (idle : storage.pending = [])
    (failed : (storage.commit directory files false).2 = .error fault) :
    let made := (storage.makeDirectories directory).1
    let after := (storage.commit directory files false).1
    let moved := fault.movedBefore (made.changed directory files)
    (SameFiles storage after ↔ moved = []) ∧
      (∀ place, after.fileAt? place = (made.lastIn? moved place).or (storage.fileAt? place)) ∧
      after.pending.map (·.bytes) =
        ((fault.stuck? (made.changed directory files)).map Prod.snd).toList := by
  intro made after moved
  have kept : SameFiles storage made := (kept_makeDirectories storage directory).files
  obtain ⟨left, sofar⟩ := moved_of_commit_error idle failed
  have contents (place : Place) :
      after.fileAt? place = (made.lastIn? moved place).or (storage.fileAt? place) := by
    rw [sofar.contents, kept place]
  have differ : ∀ file ∈ moved, (made.read file.1).toOption ≠ some file.2 := by
    intro file member
    have listed : file ∈ made.changed directory files := fault.mem_of_mem_movedBefore member
    simpa using (List.mem_filter.mp listed).2
  refine ⟨⟨fun same => ?_, fun unmoved place => ?_⟩, contents, left⟩
  · exact eq_nil_of_sameFiles sofar differ fun place => (same place).trans (kept place).symm
  · rw [contents, unmoved]
    rfl

end Stopped

/-- An output directory with an earlier file, and with a directory in the place of another file. -/
def blockedStorage : Storage :=
  ((ofHome ["work"]).plant ["work", "gen", "filters.rs"] (.file (textBytes "// previous\n"))).plant
    ["work", "gen", "mod.rs"] .directory

/-- Where the file that cannot be moved comes first, the earlier file stays, and so does a temporary one. -/
theorem sameFiles_commit_blocked :
    blockedStorage.pending = [] ∧
      (blockedStorage.commit ⟨"gen"⟩ [("mod.rs", "pub mod filters;\n"), ("filters.rs", "// filters\n")] false).2 =
        .error (.notMoved ⟨"gen/mod.rs"⟩ .isDirectory) ∧
      SameFiles blockedStorage (blockedStorage.commit ⟨"gen"⟩
        [("mod.rs", "pub mod filters;\n"), ("filters.rs", "// filters\n")] false).1 ∧
      (blockedStorage.commit ⟨"gen"⟩ [("mod.rs", "pub mod filters;\n"), ("filters.rs", "// filters\n")]
        false).1.pending.map (·.bytes) = [textBytes "pub mod filters;\n"] := by
  have failed : (blockedStorage.commit ⟨"gen"⟩
      [("mod.rs", "pub mod filters;\n"), ("filters.rs", "// filters\n")] false).2 =
        .error (.notMoved ⟨"gen/mod.rs"⟩ .isDirectory) := by
    decide +kernel
  obtain ⟨same, -, left⟩ := sameFiles_commit_iff rfl failed
  refine ⟨rfl, failed, same.mpr (by decide +kernel), left.trans ?_⟩
  decide +kernel

/-- Where it comes second, the commit stops as well, and the earlier file is lost. -/
theorem fileAt?_commit_blocked :
    (blockedStorage.commit ⟨"gen"⟩ [("filters.rs", "// filters\n"), ("mod.rs", "pub mod filters;\n")] false).2 =
        .error (.notMoved ⟨"gen/mod.rs"⟩ .isDirectory) ∧
      blockedStorage.fileAt? ["work", "gen", "filters.rs"] = some (textBytes "// previous\n") ∧
      (blockedStorage.commit ⟨"gen"⟩
        [("filters.rs", "// filters\n"), ("mod.rs", "pub mod filters;\n")] false).1.fileAt?
          ["work", "gen", "filters.rs"] = some (textBytes "// filters\n") := by
  decide +kernel

end Storage

end QuerySynth
