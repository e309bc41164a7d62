import QuerySynth.Endpoint.Basic
import QuerySynth.Generate.Constructor

/-! # Handlers

For every endpoint a function that reads the parameters into a request, runs the query and
translates the rows; for every row message a function that reads the plain columns of a row.
-/

namespace QuerySynth

open Code

/-- The name of the function that reads a row into a message. -/
def translatorName (message : String) : String :=
  "translate_" ++ Name.toSnake message ++ "_row"

/-- The call of a family's constructor with the given arguments; the others stay unset. -/
def constructorCall (registry : Registry) (filterType : String)
    (argument : Operator → Option Expr) : Except GenerateFault Expr :=
  match registry.get? filterType with
  | none => .error (.unknownFilter filterType)
  | some family =>
    .ok (.call (.path ["filters", ident family.constructorName])
      (family.operators.map fun op => (argument op).getD .absent))

namespace Code.Expr

/-- Read a query parameter. -/
def parse (param : String) : Expr :=
  .attempt (.method (.var "params") "parse" [] [.text param])

/-- Read a query parameter that carries a list. -/
def parseList (param : String) : Expr :=
  .attempt (.method (.var "params") "parse_list" [] [.text param])

/-- The value, or the default of its type. -/
def orDefault (value : Expr) : Expr :=
  .method value "unwrap_or_default" [] []

/-- The value, or a number. -/
def orNumber (value : Expr) (number : Nat) : Expr :=
  .method value "unwrap_or" [] [.number number]

end Code.Expr

/-- What a handler passes for an operator of a filter: the parameter bound to it. -/
def FilterBinding.argument? (binding : FilterBinding) (op : Operator) : Option Expr :=
  (binding.param? op).map fun param => if op.isList then .parseList param else .parse param

def filterInit (registry : Registry) (binding : FilterBinding) :
    Except GenerateFault FieldInit := do
  return .assign (fieldIdent binding.field)
    (← constructorCall registry binding.filterType binding.argument?)

/-- The request field of a plain value. -/
def scalarInit (binding : ScalarBinding) : FieldInit :=
  .assign (fieldIdent binding.field)
    (match binding.value, binding.repeated with
      | .wrapper _, _ => .parse binding.param
      | .scalar _, true => .orDefault (.parseList binding.param)
      | .scalar _, false => .orDefault (.parse binding.param))

/-- The request field of the page size: the parameter bound to it, or the default. -/
def pageSizeInit (around : Surroundings) (endpoint : Endpoint) (request : Message)
    (field : String) : FieldInit :=
  let size : Expr :=
    match endpoint.scalars.find? (·.field == field) with
    | some binding => .orNumber (.parse binding.param) around.defaultPageSize
    | none => .number around.defaultPageSize
  .assign (fieldIdent field)
    (if (request.field? field).any (·.wrapper.isSome) then .present size else size)

/-- The elements whose keys do not occur earlier, neither in `seen` nor in the list. -/
def firstOfEach {α : Type} (key : α → String) (seen : List String) : List α → List α
  | [] => []
  | x :: rest =>
    if seen.contains (key x) then firstOfEach key seen rest
    else x :: firstOfEach key (key x :: seen) rest

/-- The fields of a List request: filters, the page size, then the other plain values. A field
is assigned once. -/
def listInits (registry : Registry) (around : Surroundings) (endpoint : Endpoint)
    (request : Message) : Except GenerateFault (List FieldInit) := do
  let filters := firstOfEach FilterBinding.field [] endpoint.filters
  let taken := filters.map (·.field) ++ endpoint.pageSizeField.toList
  return (← filters.mapM (filterInit registry)) ++
    endpoint.pageSizeField.toList.map (pageSizeInit around endpoint request) ++
    (firstOfEach ScalarBinding.field taken endpoint.scalars).map scalarInit

def handlerFunction (endpoint : Endpoint) (doc : String) (body : Block) : Function where
  doc := some doc
  name := ident endpoint.handlerName
  params :=
    [("params", .reference (.path ["runtime", "QueryParams"])),
     ("conn", .reference (.implements ["runtime", "Connection"]))]
  result := .apply "Result"
    [.path ["pb", typeIdent endpoint.responseMessage], .path ["runtime", "HandlerError"]]
  body

def requestStatement (endpoint : Endpoint) (fields : List FieldInit) : Statement :=
  .bind "request"
    (.record ["pb", typeIdent endpoint.requestMessage] fields (some .defaults))

/-- The statement that builds the query from the request. -/
def queryStatement (endpoint : Endpoint) : Statement :=
  .bind "query" (.attempt (.call
    (.path ["queries",
      ident ("build_" ++ endpoint.kind.queryWord ++ "_" ++ endpoint.resource ++ "_query")])
    [.reference (.var "request")]))

/-- A response with its rows. -/
def responseRecord (endpoint : Endpoint) (fields : List FieldInit) : Expr :=
  .success (.record ["pb", typeIdent endpoint.responseMessage] fields (some .defaults))

def groupCheck (group : RequiredGroup) : Statement :=
  .run (.attempt (.method (.var "params") "require_any" []
    [.text group.name, .reference (.array (group.members.map .text))]))

/-- The statements of a List that run the query and translate its rows. -/
def rowStatements (endpoint : Endpoint) : List Statement :=
  [.bind "rows" (.attempt (.method (.var "conn") "query_rows" [] [.reference (.var "query")])),
   .bind "items" (.attempt
    (.method
      (.method (.method (.var "rows") "iter" [] []) "map" []
        [.var (ident (translatorName endpoint.rowMessage))])
      "collect" [.apply "Result" [.apply "Vec" [.inferred], .inferred]] []))]

/-- The statement that computes the next page's token. -/
def nextPageStatement (endpoint : Endpoint) (token : String) : Statement :=
  .bind "next_page_token" (.call (.path ["runtime", "next_page_token"])
    [.reference (.field (.var "request") (fieldIdent token)),
     .field (.var "request") (fieldIdent (endpoint.pageSizeField.getD "")),
     .method (.var "items") "len" [] []])

/-- The response of a List: its rows, and the token of the next page if there is one. -/
def pageResponse (endpoint : Endpoint) : Expr :=
  responseRecord endpoint
    (.assign (fieldIdent endpoint.rowsField) (.var "items") ::
      endpoint.pageTokenField.toList.map fun _ => .same "next_page_token")

/-- The body of a List handler with the given request fields. -/
def listBody (endpoint : Endpoint) (fields : List FieldInit) : Block :=
  .mk
    (endpoint.requiredGroups.map groupCheck ++
      [requestStatement endpoint fields, queryStatement endpoint] ++ rowStatements endpoint ++
      endpoint.pageTokenField.toList.map (nextPageStatement endpoint))
    (some (pageResponse endpoint))

/-- The handler of a List endpoint. -/
def listHandler (schema : Schema) (registry : Registry) (around : Surroundings)
    (endpoint : Endpoint) : Except GenerateFault Function :=
  match schema.message? endpoint.requestMessage with
  | none => .error (.noRequest endpoint.requestMessage)
  | some request => do
    return handlerFunction endpoint
      (" `" ++ endpoint.location ++ "` lists `" ++ endpoint.resource ++ "` rows.")
      (listBody endpoint (← listInits registry around endpoint request))

/-- The filter family that holds a key. -/
def KeyValue.filterType? : KeyValue → Option String
  | .scalar _ => none
  | .filter filterType => some filterType

/-- The path parameter of a key. -/
def KeyBinding.read (key : KeyBinding) : Expr :=
  .attempt (.method (.var "params") "path" [] [.text key.param.rawName])

/-- What a handler passes for an operator of a filter that holds a key: the key for `eq`. -/
def KeyBinding.argument? (key : KeyBinding) (op : Operator) : Option Expr :=
  if op = .eq then some (.present key.read) else none

/-- The value of a key in its request. -/
def keyExpr (registry : Registry) (key : KeyBinding) : Except GenerateFault Expr :=
  match key.value with
  | .scalar _ => .ok key.read
  | .filter filterType => constructorCall registry filterType key.argument?

/-- The response of a Get: the row of the key translated, or that there is none. -/
def rowCases (endpoint : Endpoint) (key : KeyBinding) : Expr :=
  let row := Expr.attempt (.call (.var (ident (translatorName endpoint.rowMessage)))
    [.reference (.var "row")])
  .cases (.attempt (.method (.var "conn") "query_row" [] [.reference (.var "query")]))
    [.mk (.variant "Some" [.path ["row"]])
      (responseRecord endpoint [.assign (fieldIdent endpoint.rowsField) (.present row)]),
     .mk (.path ["None"])
      (.call (.var "Err") [.call (.path ["runtime", "HandlerError", "not_found"])
        [.text endpoint.resource, .text key.param.rawName]])]

def getBody (endpoint : Endpoint) (key : KeyBinding) (value : Expr) : Block :=
  .mk
    [requestStatement endpoint [.assign (fieldIdent key.field) value], queryStatement endpoint]
    (some (rowCases endpoint key))

/-- The handler of a Get endpoint. -/
def getHandler (registry : Registry) (endpoint : Endpoint) : Except GenerateFault Function :=
  match endpoint.key with
  | none => .error (.noKey endpoint.location)
  | some key => do
    return handlerFunction endpoint
      (" `" ++ endpoint.location ++ "` fetches one `" ++ endpoint.resource ++ "` row.")
      (getBody endpoint key (← keyExpr registry key))

/-- The handler of an endpoint. -/
def handler (schema : Schema) (registry : Registry) (around : Surroundings)
    (endpoint : Endpoint) : Except GenerateFault Function :=
  match endpoint.kind with
  | .list => listHandler schema registry around endpoint
  | .get => getHandler registry endpoint

/-- Whether a field of a row is read from a column; nested messages and maps are not. -/
def Field.isColumn (field : Field) : Bool :=
  match field.type with
  | .scalar _ => true
  | .other name => name != "map"
  | .message _ => field.wrapper.isSome

/-- The function that reads a row into a message. Fields that are no columns keep their
defaults. -/
def translator (message : Message) : Function where
  doc := none
  name := ident (translatorName message.name)
  params := [("row", .reference (.path ["runtime", "Row"]))]
  result := .apply "Result"
    [.path ["pb", typeIdent message.name], .path ["runtime", "HandlerError"]]
  body := .mk [] (some (.success (.record ["pb", typeIdent message.name]
    ((message.fields.filter (·.isColumn)).map fun field =>
      .assign (fieldIdent field.name)
        (.attempt (.method (.var "row") "get" [] [.text field.name])))
    (if message.fields.all (·.isColumn) then none else some .defaults))))

end QuerySynth
