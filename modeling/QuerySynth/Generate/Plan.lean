import QuerySynth.Endpoint.Build
import QuerySynth.Generate.Files
import QuerySynth.Settings.Basic

/-! # Plans

Everything that a run generates, before anything is stored.
-/

namespace QuerySynth

/-- The endpoints of a run with the files made of them. -/
structure Plan where
  model : EndpointModel
  files : List GeneratedFile

namespace Settings

def surroundings (settings : Settings) : Except GenerateFault Surroundings :=
  Surroundings.ofTexts settings.messageModule settings.supportModule settings.queryModule
    settings.defaultPageSize

def endpointModel (settings : Settings) (description : Rest.Description) (schema : Schema)
    (registry : Registry) : EndpointModel :=
  buildEndpoints description schema ⟨registry, settings.basePath, settings.pageSizeField⟩

/-- The plan of a run. Module paths are read before endpoints are built. -/
def plan (settings : Settings) (description : Rest.Description) (schema : Schema)
    (registry : Registry) : Except GenerateFault Plan := do
  let around ← settings.surroundings
  let model := settings.endpointModel description schema registry
  return ⟨model, ← renderFiles schema registry around model.endpoints⟩

end Settings

end QuerySynth
