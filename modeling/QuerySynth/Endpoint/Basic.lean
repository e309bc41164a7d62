import QuerySynth.Parameter.Basic
import QuerySynth.Schema.Basic

/-! # Endpoints

An endpoint is a GET operation with everything its handler needs: the messages it exchanges and
the bindings of request fields to parameters.
-/

namespace QuerySynth

/-- Parameters of which a request must have at least one. -/
structure RequiredGroup where
  name : String
  /-- The names of the parameters, in increasing order. -/
  members : List String
deriving DecidableEq, Repr

/-- An operator of a filter and the parameter that feeds it. -/
structure OperatorBinding where
  operator : Operator
  param : String
deriving DecidableEq, Repr

/-- A request field built by a filter constructor. -/
structure FilterBinding where
  field : String
  /-- The message name of the filter family. -/
  filterType : String
  /-- The bound operators, in the order of the family. -/
  operators : List OperatorBinding
deriving DecidableEq, Repr

/-- The parameter that feeds an operator. -/
def FilterBinding.param? (binding : FilterBinding) (op : Operator) : Option String :=
  (binding.operators.find? (·.operator == op)).map (·.param)

/-- How a plain value is held by the request. -/
inductive ValueKind where
  | scalar (kind : ScalarKind)
  | wrapper (kind : WrapperKind)
deriving DecidableEq, Repr

/-- A request field assigned from one query parameter. -/
structure ScalarBinding where
  field : String
  param : String
  value : ValueKind
  repeated : Bool
deriving DecidableEq, Repr

/-- How a key is held by the request. -/
inductive KeyValue where
  | scalar (kind : ScalarKind)
  /-- A filter of which only `eq` is set. -/
  | filter (filterType : String)
deriving DecidableEq, Repr

/-- The path parameter of a Get endpoint and the request field it sets. -/
structure KeyBinding where
  param : Parameter
  field : String
  value : KeyValue
deriving DecidableEq, Repr

/-- A GET operation matched with a method of the schema. -/
structure Endpoint where
  path : String
  /-- The method in upper case. -/
  verb : String
  operationId : Option String
  resource : String
  kind : MethodKind
  handlerName : String
  requestMessage : String
  responseMessage : String
  /-- The message of one row. -/
  rowMessage : String
  /-- The response field that holds the rows or the row. -/
  rowsField : String
  pageSizeField : Option String
  pageTokenField : Option String
  /-- The resolved parameters in the order of the description. -/
  params : List Parameter
  key : Option KeyBinding
  filters : List FilterBinding
  scalars : List ScalarBinding
  requiredGroups : List RequiredGroup
deriving DecidableEq, Repr

/-- Where reports place an endpoint. -/
def Endpoint.location (endpoint : Endpoint) : String :=
  endpoint.verb ++ " " ++ endpoint.path

end QuerySynth
