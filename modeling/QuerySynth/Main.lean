import QuerySynth.CommandLine.Outcome

/-! # The program

Reads what the command can see, runs it, and stores what it changed. Changed files are written
under temporary names before any of them is moved to its own.
-/

namespace QuerySynth

def Place.text (place : Place) : String := "/" ++ "/".intercalate place

/-- What a place holds now. -/
def Place.look (place : Place) : IO (Option StoredEntry) := do
  try
    return some (.file (← IO.FS.readBinFile place.text).data.toList)
  catch
    | .noFileOrDirectory .. => return none
    | .inappropriateType .. => return some .directory
    | problem => throw problem

/-- Read places into the storage. A place below a file holds nothing. -/
def Storage.load (storage : Storage) (places : List Place) : IO Storage :=
  places.foldlM (fun storage place => do
    if (storage.at? place).isSome || storage.at? place.dropLast != some .directory then
      return storage
    match ← place.look with
    | some entry => return storage.put place entry
    | none => return storage) storage

/-- The places in the directory of a path. -/
def Storage.loadInside (storage : Storage) (path : Path) : IO Storage := do
  match (storage.placesOn path).getLast? with
  | some place =>
    if storage.isDirectory path then
      let found ← (← IO.FS.realPath place.text).readDir
      storage.load (found.toList.map fun entry => place ++ [entry.fileName])
    else return storage
  | none => return storage

/-- The storage that a command runs on. -/
def Command.snapshot (home : Place) (command : Command) : IO Storage := do
  let storage := Storage.ofHome home
  let storage ← storage.load (command.paths.flatMap storage.placesOn)
  storage.loadInside command.inputs.schema

/-- Store changes: directories, then files under temporary names, then the names. -/
def store (changes : List (Place × Option StoredEntry)) : IO Unit := do
  let mut moves : List (String × String) := []
  for (place, entry) in changes do
    match entry with
    | some .directory => IO.FS.createDirAll place.text
    | some (.file bytes) =>
      let temporary := Place.text (place.dropLast ++ [".tmp-" ++ place.getLast?.getD ""])
      IO.FS.writeBinFile temporary ⟨bytes.toArray⟩
      moves := moves ++ [(temporary, place.text)]
    | none => pure ()
  for (temporary, target) in moves do
    IO.FS.rename temporary target

/-- The environment variables of the log. -/
def logVariables : IO (Keyed String) := do
  let names := ["QUERYGEN_LOG_LEVEL", "QUERYGEN_LOG_FORMAT", "QUERYGEN_LOG_TARGET_FILTER",
    "QUERYGEN_LOG_INCLUDE_LOCATION"]
  let mut environment : Keyed String := []
  for name in names do
    if let some value ← IO.getEnv name then
      environment := environment.insert name value
  return environment

/-- Run a command line on the file system. -/
def runProgram (arguments : List String) : IO UInt32 := do
  let home := (Path.mk (← IO.currentDir).toString).steps
  let before ←
    match Request.ofArguments? arguments with
    | some (.run command _) => command.snapshot home
    | _ => pure (Storage.ofHome home)
  let (after, outcome) := before.runArguments (← logVariables) arguments
  store (before.changesTo after)
  IO.print outcome.output
  IO.eprint outcome.errors
  return outcome.exitCode.toUInt32

end QuerySynth

def main (arguments : List String) : IO UInt32 :=
  QuerySynth.runProgram arguments
