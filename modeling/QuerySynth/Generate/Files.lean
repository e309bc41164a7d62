import QuerySynth.Generate.Handler

/-! # Generated files

The three files of a run: filter constructors, handlers, and the module that declares both. All
of them are made before any is stored.
-/

namespace QuerySynth

open Code

/-- The filter families that the handler of an endpoint calls, by name. -/
def Endpoint.filterTypes (endpoint : Endpoint) : List String :=
  match endpoint.kind with
  | .list => endpoint.filters.map (·.filterType)
  | .get => (endpoint.key.bind (·.value.filterType?)).toList

/-- The known filter families that the handlers call, in the order of their names. -/
def referencedFilters (registry : Registry) (endpoints : List Endpoint) : List Family :=
  (sortedNames (endpoints.flatMap (·.filterTypes))).filterMap registry.get?

/-- The translators of the endpoints' row messages, in the order of their names. -/
def translators (schema : Schema) (endpoints : List Endpoint) :
    Except GenerateFault (List Function) :=
  (sortedNames (endpoints.map (·.rowMessage))).mapM fun name =>
    match schema.message? name with
    | some message => .ok (translator message)
    | none => .error (.noRow name)

/-- The handlers in the order of the endpoints; a fault names its endpoint. -/
def handlers (schema : Schema) (registry : Registry) (around : Surroundings)
    (endpoints : List Endpoint) : Except GenerateFault (List Function) :=
  endpoints.mapM fun endpoint =>
    (handler schema registry around endpoint).mapError (.inHandler endpoint.location)

/-- The module of the handlers and translators. -/
def handlerModule (schema : Schema) (registry : Registry) (around : Surroundings)
    (endpoints : List Endpoint) : Except GenerateFault Module := do
  let functions := (← handlers schema registry around endpoints) ++ (← translators schema endpoints)
  return {
    allowed := ["clippy::too_many_arguments", "clippy::needless_update"]
    items := around.imports ++
      (if (referencedFilters registry endpoints).isEmpty then []
        else [.bring false ["super", "filters"] none]) ++
      functions.map .function }

def renderHandlers (schema : Schema) (registry : Registry) (around : Surroundings)
    (endpoints : List Endpoint) : Except GenerateFault String := do
  finish [around.messages, around.support, around.queries]
    (← handlerModule schema registry around endpoints)

/-- The module that declares the others. -/
def indexModule : Code.Module :=
  ⟨[], [.module "filters", .module "handlers"]⟩

/-- A generated file, by its name in the output directory. -/
structure GeneratedFile where
  name : String
  contents : String
deriving DecidableEq, Repr

def generatedNames : List String := ["filters.rs", "handlers.rs", "mod.rs"]

def renderFiles (schema : Schema) (registry : Registry) (around : Surroundings)
    (endpoints : List Endpoint) : Except GenerateFault (List GeneratedFile) := do
  let filters ← (renderConstructors around (referencedFilters registry endpoints)).mapError
    (.inFile "filters.rs")
  let handlers ← (renderHandlers schema registry around endpoints).mapError
    (.inFile "handlers.rs")
  let index ← (finish [] indexModule).mapError (.inFile "mod.rs")
  return [⟨"filters.rs", filters⟩, ⟨"handlers.rs", handlers⟩, ⟨"mod.rs", index⟩]

end QuerySynth
