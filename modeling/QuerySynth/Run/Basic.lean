import QuerySynth.Generate.Plan
import QuerySynth.Run.Fault

/-! # Runs

The three things that a run can do with a description and a schema: generate files from them,
write the description in its canonical form, and report on the endpoints. Settings come first,
then the inputs are read, and nothing is stored before all work in memory is done.
-/

namespace QuerySynth

/-- Where the inputs of a run are, and what overrides its settings. -/
structure RunInputs where
  description : Path
  schema : Path
  basePath : Option String
  settings : Option Path
deriving DecidableEq, Repr

namespace Storage

def runSettings (storage : Storage) (inputs : RunInputs) : Except RunFault Settings := do
  let settings ← (storage.resolveSettings inputs.settings inputs.description).mapError .settings
  return { settings with basePath := inputs.basePath.or settings.basePath }

def runSchema (storage : Storage) (settings : Settings) (path : Path) : Except RunFault Schema :=
  (storage.loadSchema ⟨.standard, settings.groupOption⟩ path).mapError (.schema path)

def runInputs (storage : Storage) (settings : Settings) (description schema : Path) :
    Except RunFault (Rest.Description × Schema) := do
  let read ← (storage.loadDescription description).mapError .description
  return (read, ← storage.runSchema settings schema)

def planRun (storage : Storage) (settings : Settings) (description schema : Path) :
    Except RunFault Plan := do
  let (description, schema) ← storage.runInputs settings description schema
  (settings.plan description schema .standard).mapError .generate

def generate (storage : Storage) (settings : Settings) (description schema output : Path)
    (dryRun : Bool) : Storage × Except RunFault (Plan × CommitReport) :=
  match storage.planRun settings description schema with
  | .error fault => (storage, .error fault)
  | .ok plan =>
    let (stored, outcome) :=
      storage.commit output (plan.files.map fun f => (f.name, f.contents)) dryRun
    (stored, (outcome.map (plan, ·)).mapError .commit)

/-- The canonical form of a description, and what had to change. -/
def normalized (storage : Storage) (settings : Settings) (description schema : Path) :
    Except RunFault (Document × Rest.NormalizeReport) := do
  let schema ← storage.runSchema settings schema
  let document ← (storage.loadDocument description).mapError .description
  return Rest.normalizeDocument document schema .standard settings.basePath

/-- Write the canonical form of a description. -/
def normalize (storage : Storage) (settings : Settings) (description schema output : Path) :
    Storage × Except RunFault Unit :=
  match storage.normalized settings description schema with
  | .error fault => (storage, .error fault)
  | .ok (document, _) =>
    let (stored, outcome) := storage.overwrite output (output.format.render document)
    (stored, outcome.mapError .commit)

/-- Make sure that a description is in its canonical form. -/
def checkNormalized (storage : Storage) (settings : Settings) (description schema : Path) :
    Except RunFault Unit := do
  let (_, report) ← storage.normalized settings description schema
  if report.isUnchanged then .ok () else .error (.notNormalized description report)

def inspect (storage : Storage) (settings : Settings) (description schema : Path) :
    Except RunFault EndpointModel := do
  let (description, schema) ← storage.runInputs settings description schema
  return settings.endpointModel description schema .standard

end Storage

end QuerySynth
