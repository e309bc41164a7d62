import QuerySynth.Generate.Fault
import QuerySynth.Rest.Normalize
import QuerySynth.Rest.Source
import QuerySynth.Schema.Source
import QuerySynth.Settings.Reader
import QuerySynth.Storage.Commit

/-! # Why a run stops

Every stage of a run has its faults; here they come together, with the context that the run adds.
-/

namespace QuerySynth

/-- A reason why a run stops. -/
inductive RunFault where
  | settings (fault : SettingsFault)
  | description (fault : DescriptionFault)
  | schema (path : Path) (fault : SchemaFault)
  | generate (fault : GenerateFault)
  | commit (fault : CommitFault)
  /-- A description that had to be in its canonical form is not. -/
  | notNormalized (path : Path) (report : Rest.NormalizeReport)

/-- The words of a fault, the outermost context first. -/
def RunFault.message : RunFault → String
  | settings fault => fault.message?.getD ""
  | description fault => fault.message
  | schema path fault =>
    "failed to load descriptors from " ++ path.text ++ ": " ++ fault.messageWithCause
  | generate fault => fault.message
  | commit fault => fault.message
  | notNormalized path report =>
    path.text ++ " is not normalized: " ++ toString report.renamedParams ++
      " parameter(s) renamed, " ++ toString report.coercedLists ++ " list(s) coerced, " ++
      toString report.renamedSchemas.length ++ " schema(s) renamed"

end QuerySynth
