import QuerySynth.CommandLine.Arguments
import QuerySynth.CommandLine.Snapshot
import QuerySynth.Endpoint.Summary
import QuerySynth.Logging

/-! # What a command prints

The results of a run go to the output; findings, warnings and the reason of a failure go to the
error output. The exit code is zero when all went well, one when the run stopped, and two when
the command line could not be read.
-/

namespace QuerySynth

/-- What a run leaves behind besides the storage. -/
structure RunOutcome where
  exitCode : Nat
  output : String
  errors : String
deriving DecidableEq, Repr

/-- Lines of a text, each with its end. -/
def unlines (lines : List String) : String :=
  String.join (lines.map (· ++ "\n"))

def RunFault.outcome (fault : RunFault) : RunOutcome :=
  ⟨1, "", unlines ["error: " ++ fault.message]⟩

/-- The lines about the files of a commit: the written ones, then the unchanged ones. -/
def CommitReport.lines (report : CommitReport) (dryRun : Bool) : List String :=
  let verb := if dryRun then "Would write " else "Wrote "
  report.written.map (fun path => "✅ " ++ verb ++ path.text) ++
    report.unchanged.map fun path => "ℹ️  Unchanged " ++ path.text

def generateOutcome (dryRun : Bool) : Except RunFault (Plan × CommitReport) → RunOutcome
  | .error fault => fault.outcome
  | .ok (plan, report) =>
    ⟨0, unlines (report.lines dryRun), Diagnostic.summary plan.model.diagnostics⟩

/-- The outcome of a run that ends with one line. -/
def lineOutcome (line : String) : Except RunFault Unit → RunOutcome
  | .error fault => fault.outcome
  | .ok () => ⟨0, unlines [line], ""⟩

def inspectOutcome : Except RunFault EndpointModel → RunOutcome
  | .error fault => fault.outcome
  | .ok model =>
    let counts := toString model.endpoints.length ++ " endpoint(s), " ++
      toString model.diagnostics.length ++ " diagnostic(s)"
    ⟨0, String.join (model.endpoints.map Endpoint.summary) ++ unlines [counts],
      Diagnostic.summary model.diagnostics⟩

def Storage.execute (storage : Storage) (settings : Settings) : Command → Storage × RunOutcome
  | .generate inputs output dryRun =>
    (storage.generate settings inputs.description inputs.schema output dryRun).map id
      (generateOutcome dryRun)
  | .normalize inputs _ true =>
    (storage, lineOutcome ("✅ " ++ inputs.description.text ++ " is already normalized")
      (storage.checkNormalized settings inputs.description inputs.schema))
  | .normalize inputs output false =>
    (storage.normalize settings inputs.description inputs.schema output).map id
      (lineOutcome ("✅ Wrote " ++ output.text))
  | .inspect inputs =>
    (storage, inspectOutcome (storage.inspect settings inputs.description inputs.schema))

/-- Run a command; its settings are found first. -/
def Storage.runCommand (storage : Storage) (command : Command) : Storage × RunOutcome :=
  match storage.runSettings command.inputs with
  | .error fault => (storage, fault.outcome)
  | .ok settings => storage.execute settings command

def versionLine : String := "querygen 0.1.0-alpha.1"

/-- How the program is called. -/
def usageLines : List String :=
  ["Usage: querygen [-v]... <command> [options]",
   "",
   "Commands:",
   "  generate   write the handlers of a description and a schema",
   "  normalize  write a description in its canonical form",
   "  inspect    report on the endpoints of a description and a schema",
   "",
   "Options:",
   "  --openapi <path>      the description",
   "  --descriptors <path>  the compiled schema, a file or a directory",
   "  --base-path <path>    what precedes the resources in paths",
   "  --config <path>       the settings file",
   "  -o, --output <path>   where to write (generate, normalize)",
   "  --dry-run             only report what would be written (generate)",
   "  --check               only check for the canonical form (normalize)",
   "  -h, --help            print this text",
   "  -V, --version         print the version"]

/-- Answer a request. Log directives that cannot be read are reported before a command runs. -/
def Storage.answer (storage : Storage) (environment : Keyed String) : Request → Storage × RunOutcome
  | .help => (storage, ⟨0, unlines usageLines, ""⟩)
  | .version => (storage, ⟨0, unlines [versionLine], ""⟩)
  | .run command verbosity =>
    let log := (LogSettings.ofEnvironment environment).withVerbosity verbosity
    let warnings := log.badDirectives.map ("Warning: Invalid log filter directive: " ++ ·)
    let (stored, outcome) := storage.runCommand command
    (stored, { outcome with errors := unlines warnings ++ outcome.errors })

def Storage.runArguments (storage : Storage) (environment : Keyed String)
    (arguments : List String) : Storage × RunOutcome :=
  match Request.ofArguments? arguments with
  | some request => storage.answer environment request
  | none => (storage, ⟨2, "", unlines usageLines⟩)

end QuerySynth
