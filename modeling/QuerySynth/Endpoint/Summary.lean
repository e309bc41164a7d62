import QuerySynth.Endpoint.Basic

/-! # Endpoint summaries

The lines that tell a reader what an endpoint takes.
-/

namespace QuerySynth.Endpoint

def keyLine (key : KeyBinding) : String :=
  let value :=
    match key.value with
    | .scalar kind => kind.name
    | .filter filterType => filterType ++ ".eq"
  "  key " ++ key.param.rawName ++ " -> " ++ key.field ++ " (" ++ value ++ ")\n"

def filterLine (binding : FilterBinding) : String :=
  "  filter " ++ binding.field ++ ": " ++ binding.filterType ++ " [" ++
    ", ".intercalate (binding.operators.map (·.operator.token)) ++ "]\n"

def summary (endpoint : Endpoint) : String :=
  endpoint.location ++ " -> " ++ endpoint.handlerName ++ " (" ++ endpoint.kind.word ++ " " ++
    endpoint.resource ++ ", " ++ endpoint.requestMessage ++ " -> " ++
    endpoint.responseMessage ++ ")\n" ++
  String.join (endpoint.key.toList.map keyLine) ++
  String.join (endpoint.filters.map filterLine) ++
  String.join (endpoint.scalars.map fun s => "  param " ++ s.param ++ " -> " ++ s.field ++ "\n") ++
  String.join (endpoint.pageSizeField.toList.map fun field => "  page size " ++ field ++ "\n") ++
  String.join (endpoint.requiredGroups.map fun group =>
    "  required one of " ++ group.name ++ ": " ++ ", ".intercalate group.members ++ "\n")

end QuerySynth.Endpoint
