/-! # Settings

What a run can be told: the modules around the generated code, paging, the option that names
required groups, and the base path of the resources.
-/

namespace QuerySynth

/-- The settings of a run. -/
structure Settings where
  /-- The module of the message types. -/
  messageModule : String := "crate::pb"
  /-- The module of the run-time support. -/
  supportModule : String := "crate::runtime"
  /-- The module of the query builders. -/
  queryModule : String := "crate::queries"
  /-- The page size of requests that give none; never zero in settings that were read. -/
  defaultPageSize : Nat := 100
  /-- The request field of the page size. -/
  pageSizeField : String := "page_size"
  /-- The schema option that names the required group of a field. -/
  groupOption : String := "querygen.v1.required_group"
  /-- The base path in place of the one that the description gives. -/
  basePath : Option String := none
deriving DecidableEq, Repr

end QuerySynth
