import QuerySynth.Endpoint.Binding
import QuerySynth.Endpoint.Group
import QuerySynth.Rest.Collect
import QuerySynth.Rest.Description
import QuerySynth.Rest.Resource

/-! # Building endpoints

Every operation of a description either becomes an endpoint or is reported. Endpoints are ordered
by resource, kind and path, and of several with one handler name the first is kept.
-/

namespace QuerySynth

open Rest

/-- What building endpoints depends on besides the two models. -/
structure BuildOptions where
  registry : Registry
  /-- The base path of all paths; that of the first server when none is given. -/
  basePath : Option String
  pageSizeField : String

def defaultPageSizeField : String := "page_size"

def pageTokenField : String := "page_token"

def nextPageTokenField : String := "next_page_token"

/-- The field of a response that holds rows: the first plain message field, repeated for a List
and single for a Get. -/
def rowField? (response : Message) (kind : MethodKind) : Option Field :=
  response.fields.find? fun field =>
    field.message?.isSome && field.wrapper.isNone && field.repeated == (kind == .list)

/-- The handler name of an operation: its identifier in delimited form, or kind and resource. -/
def handlerName (operationId : Option String) (kind : MethodKind) (resource : String) : String :=
  match operationId with
  | some id =>
    String.ofList (Name.snake (id.toList.map fun c => if c.isAlphanum then c else '_'))
  | none => String.ofList (kind.word.toList.map Char.toLower) ++ "_" ++ resource

/-- The messages that serve an operation. -/
structure Exchange where
  kind : MethodKind
  request : Message
  response : Message
  rowMessage : String
  rowsField : String

/-- The messages that serve a resource, or why there are none. -/
def findExchange (schema : Schema) (resource : String) (kind : MethodKind) :
    Except Finding Exchange :=
  match schema.method? resource kind with
  | none => .error (.noMethod kind resource)
  | some method =>
    match schema.message? method.input, schema.message? method.output with
    | some request, some response =>
      match rowField? response kind with
      | none => .error (.noRowField response.name)
      | some rows =>
        let row := rows.message?.getD ""
        if (schema.message? row).isSome then .ok ⟨kind, request, response, row, rows.name⟩
        else .error (.noRowMessage row)
    | _, _ => .error (.noMessages method.name)

/-- The page size field of a List request that has it. -/
def pageSizeField? (options : BuildOptions) (exchange : Exchange) : Option String :=
  if exchange.kind = .list ∧ (exchange.request.field? options.pageSizeField).isSome then
    some options.pageSizeField
  else none

/-- The page token field, when pages are sized and both messages carry tokens. -/
def pageTokenField? (options : BuildOptions) (exchange : Exchange) : Option String :=
  if exchange.kind = .list ∧ (exchange.response.field? nextPageTokenField).isSome ∧
      (exchange.request.field? pageTokenField).isSome ∧
      (pageSizeField? options exchange).isSome then some pageTokenField
  else none

def keyCount (raws : List RawParameter) : Nat :=
  (raws.filter (·.location = .path)).length

/-- An operation with a key in its path is a Get. -/
def kindOf (raws : List RawParameter) : MethodKind :=
  if keyCount raws = 0 then .list else .get

/-- The parameters of an operation, flattened with the descriptions of its request. -/
def flattenAll (schema : Schema) (registry : Registry) (request : Message)
    (raws : List RawParameter) : List Parameter :=
  let ctx : FlattenContext := ⟨registry, request.descriptions, schema.wrappers⟩
  raws.map fun raw => (raw.flatten ctx).parameter

/-- The endpoint of a complete draft, and all its findings. -/
def assemble (options : BuildOptions) (operation : Operation) (resource : String)
    (exchange : Exchange) (draft : Draft) : Endpoint × List Finding :=
  let (groups, dropped) := requiredGroups exchange.request draft.params draft.unresolvedGroups
  ({ path := operation.path
     verb := operation.verb
     operationId := operation.operationId
     resource
     kind := exchange.kind
     handlerName := handlerName operation.operationId exchange.kind resource
     requestMessage := exchange.request.name
     responseMessage := exchange.response.name
     rowMessage := exchange.rowMessage
     rowsField := exchange.rowsField
     pageSizeField := pageSizeField? options exchange
     pageTokenField := pageTokenField? options exchange
     params := draft.params
     key := draft.key
     filters := draft.filters.values
     scalars := draft.scalars
     requiredGroups := groups },
   draft.findings ++ dropped)

/-- The endpoint of a GET operation with its collected parameters, and its findings. -/
def buildEndpoint (schema : Schema) (options : BuildOptions) (operation : Operation)
    (resource : String) (raws : List RawParameter) :
    Except (List Finding) (Endpoint × List Finding) :=
  match findExchange schema resource (kindOf raws) with
  | .error finding => .error [finding]
  | .ok exchange =>
    if 1 < keyCount raws then .error [.keyCount (keyCount raws)]
    else
      let params := flattenAll schema options.registry exchange.request raws
      (Draft.addAll options.registry exchange.request params).map
        (assemble options operation resource exchange)

/-- What became of one operation. -/
structure Outcome where
  endpoint : Option Endpoint
  diagnostics : List Diagnostic

/-- Build one operation, or report why it has no endpoint. -/
def buildOperation (description : Description) (schema : Schema) (options : BuildOptions)
    (operation : Operation) : Outcome :=
  let report (findings : List Finding) := findings.map (·.report operation.location)
  let basePath := options.basePath.getD description.basePath
  if operation.method ≠ "get" then ⟨none, report [.notGet]⟩
  else
    match Rest.resource? operation.path basePath with
    | none => ⟨none, report [.noResource basePath]⟩
    | some resource =>
      let (raws, findings) := collect description.document operation.path operation.method
      match buildEndpoint schema options operation resource raws with
      | .ok (endpoint, more) => ⟨some endpoint, report (findings ++ more)⟩
      | .error more => ⟨none, report (findings ++ more)⟩

/-- The order of endpoints: by resource, then kind, then path. -/
def Endpoint.precedes (a b : Endpoint) : Bool :=
  if a.resource ≠ b.resource then a.resource < b.resource
  else if a.kind ≠ b.kind then a.kind.rank < b.kind.rank
  else a.path ≤ b.path

/-- Keep the first endpoint of every handler name and report the others; `seen` holds the places
of the handlers so far. -/
def dropDuplicates (seen : Keyed String) : List Endpoint → List Endpoint × List Diagnostic
  | [] => ([], [])
  | endpoint :: rest =>
    match seen.get? endpoint.handlerName with
    | some first =>
      let (kept, diagnostics) := dropDuplicates seen rest
      (kept, (Finding.handlerTaken endpoint.handlerName first).report endpoint.location ::
        diagnostics)
    | none =>
      let (kept, diagnostics) :=
        dropDuplicates (seen.insert endpoint.handlerName endpoint.location) rest
      (endpoint :: kept, diagnostics)

/-- The endpoints of a description and everything that was found on the way. -/
structure EndpointModel where
  endpoints : List Endpoint
  diagnostics : List Diagnostic
deriving Repr

/-- Match a description with a schema. -/
def buildEndpoints (description : Description) (schema : Schema) (options : BuildOptions) :
    EndpointModel :=
  let outcomes := description.operations.map (buildOperation description schema options)
  let (kept, duplicates) :=
    dropDuplicates [] ((outcomes.filterMap (·.endpoint)).mergeSort Endpoint.precedes)
  ⟨kept, outcomes.flatMap (·.diagnostics) ++ duplicates⟩

end QuerySynth
