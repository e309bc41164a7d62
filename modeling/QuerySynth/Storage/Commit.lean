import QuerySynth.Storage.Basic

/-! # Commits

A commit writes every changed file under a temporary name in the directory of its target before
it moves any of them, so that a refusal up to that point leaves all files as they were. Files
that already have their contents are left alone.

A commit that stops removes its temporary files, but for the one that could not be moved: the fault
still holds that one, and it stays for as long as the fault is kept.
-/

namespace QuerySynth

/-- Why a commit stops. -/
inductive CommitFault where
  | noOutput (directory : Path) (cause : StorageFault)
  | noTemporary (directory : Path) (cause : StorageFault)
  | notWritten (target : Path) (cause : StorageFault)
  | notMoved (target : Path) (cause : StorageFault)
deriving DecidableEq, Repr

def CommitFault.message : CommitFault → String
  | noOutput directory cause =>
    "failed to create output directory " ++ directory.text ++ ": " ++ cause.message
  | noTemporary directory cause =>
    "failed to create temporary file in " ++ directory.text ++ ": " ++ cause.message
  | notWritten target cause => "failed to write " ++ target.text ++ ": " ++ cause.message
  | notMoved target cause =>
    "failed to move temporary file into " ++ target.text ++
      ": failed to persist temporary file: " ++ cause.message ++ ": " ++ cause.message

/-- What a commit did, each list in the order of the files. -/
structure CommitReport where
  written : List Path
  unchanged : List Path
deriving DecidableEq, Repr

/-- The directory in which the temporary file for a target lies. -/
def Path.stagingDirectory (target : Path) : Path :=
  match target.parent? with
  | some parent => if parent.text = "" then ⟨"."⟩ else parent
  | none => ⟨"."⟩

namespace Storage

/-- Why the device does not take contents for a target; there is nothing to take of empty ones. -/
def refusal? (storage : Storage) (path : Path) (bytes : List UInt8) : Option StorageFault :=
  if bytes = [] then none else storage.refused.lookup path

/-- Write a temporary file beside a target. One that cannot be filled is removed again. -/
def stage (storage : Storage) (path : Path) (bytes : List UInt8) : Except CommitFault Storage :=
  let directory := path.stagingDirectory
  match storage.enter (storage.start directory) directory.steps with
  | .error cause => .error (.noTemporary directory cause)
  | .ok place =>
    match storage.refusal? path bytes with
    | some cause => .error (.notWritten path cause)
    | none => .ok { storage with pending := storage.pending ++ [⟨place, bytes⟩] }

/-- Put a file at a path, in place of an earlier file. -/
def replace (storage : Storage) (path : Path) (bytes : List UInt8) :
    Except StorageFault Storage := do
  match ← storage.target path with
  | .directory _ => .error .busy
  | .named place name =>
    if path.endsInSlash then .error .notDirectory
    else if storage.at? (place ++ [name]) = some .directory then .error .isDirectory
    else .ok (storage.put (place ++ [name]) (.file bytes))

def remove (storage : Storage) (file : PendingFile) : Storage :=
  { storage with pending := storage.pending.erase file }

def settle (storage : Storage) (file : PendingFile) (path : Path) : Except CommitFault Storage :=
  match storage.replace path file.bytes with
  | .ok moved => .ok (moved.remove file)
  | .error cause => .error (.notMoved path cause)

/-- Compare files with their contents and stage those that differ. -/
def stageAll (storage : Storage) (directory : Path) (dryRun : Bool) :
    List (String × String) → Except CommitFault (Storage × CommitReport)
  | [] => .ok (storage, ⟨[], []⟩)
  | (name, contents) :: rest =>
    let path := directory.join name
    let bytes := textBytes contents
    if (storage.read path).toOption = some bytes then do
      let (staged, report) ← storage.stageAll directory dryRun rest
      return (staged, { report with unchanged := path :: report.unchanged })
    else do
      let staged ← if dryRun then .ok storage else storage.stage path bytes
      let (staged, report) ← staged.stageAll directory dryRun rest
      return (staged, { report with written := path :: report.written })

/-- Move temporary files to their targets in turn. Those behind one that cannot be moved are removed. -/
def settleAll (storage : Storage) : List (PendingFile × Path) → Storage × Except CommitFault Unit
  | [] => (storage, .ok ())
  | (file, path) :: rest =>
    match storage.settle file path with
    | .ok settled => settled.settleAll rest
    | .error fault => ((rest.map Prod.fst).foldl remove storage, .error fault)

/-- The temporary files that came since an earlier state. -/
def pendingSince (storage earlier : Storage) : List PendingFile :=
  storage.pending.drop earlier.pending.length

/-- Write files, given by names and contents, into a directory. A dry run only reports. -/
def commit (storage : Storage) (directory : Path) (files : List (String × String))
    (dryRun : Bool) : Storage × Except CommitFault CommitReport :=
  match if dryRun then (storage, .ok ()) else storage.makeDirectories directory with
  | (made, .error cause) => (made, .error (.noOutput directory cause))
  | (made, .ok ()) =>
    match made.stageAll directory dryRun files with
    | .error fault => (made, .error fault)
    | .ok (staged, report) =>
      if dryRun then (staged, .ok report)
      else
        let (settled, outcome) := staged.settleAll ((staged.pendingSince made).zip report.written)
        (settled, outcome.map fun _ => report)

/-- Write one file by way of a temporary one. -/
def overwrite (storage : Storage) (path : Path) (contents : String) :
    Storage × Except CommitFault Unit :=
  match storage.stage path (textBytes contents) with
  | .error fault => (storage, .error fault)
  | .ok staged => staged.settleAll ((staged.pendingSince storage).zip [path])

end Storage

end QuerySynth
