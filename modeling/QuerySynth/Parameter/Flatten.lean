import QuerySynth.Parameter.ListElement
import QuerySynth.Parameter.Name
import QuerySynth.Schema.Wrapper

/-! # Flattening a parameter

A raw parameter becomes a field with an operator: its name is normalised, its schema corrected by
the wrapper of the field, and a list becomes a comma-separated text.
-/

namespace QuerySynth

def describeFilter (field : String) (op : Operator) (known : Option String) : String :=
  match known with
  | some description => description ++ " (filter: " ++ op.token ++ ")"
  | none => "Filter " ++ field ++ " using " ++ op.token

/-- What a list-shaped parameter has at the end of its description. -/
def listNote : String := " (comma-separated list)"

namespace Document

/-- Declare the boxed type in an object; other values are left alone. -/
def declareType (wrapper : WrapperKind) : Document → Document
  | .obj members =>
    let (type, format) := wrapper.declaredType
    let typed := Keyed.insert "type" (.str type) members
    .obj <|
      match format with
      | some format => Keyed.insert "format" (.str format) typed
      | none => Keyed.erase "format" typed
  | other => other

/-- Correct the declared type of a schema by the wrapper of its field: in an array the item
schema, otherwise the schema itself unless it has a pattern. -/
def applyWrapper (wrapper : WrapperKind) (schema : Document) : Document :=
  if schema.isArraySchema then schema.mapMember "items" (declareType wrapper)
  else if (schema.get? "pattern").isSome then schema
  else declareType wrapper schema

end Document

/-- What flattening looks up. -/
structure FlattenContext where
  registry : Registry
  /-- The documented descriptions of the request fields. -/
  descriptions : Keyed String
  /-- The wrappers of fields, by field name. -/
  wrappers : Keyed WrapperKind

/-- A flattened parameter and the schema that belongs back in the description. -/
structure Flattened where
  parameter : Parameter
  schema : Document
deriving Repr

namespace RawParameter

/-- The field and operator of a parameter; only query parameters carry an operator. -/
def target (registry : Registry) (raw : RawParameter) : String × Option Operator :=
  let name := Name.normalize raw.name
  match raw.location with
  | .query => Name.splitOperator registry name
  | _ => (name, none)

/-- The schema after the correction by the field's wrapper. Presence flags are not values of the
boxed type, so they keep theirs. -/
def correctedSchema (ctx : FlattenContext) (field : String) (op : Option Operator)
    (schema : Document) : Document :=
  if op.any (·.shape = .flag) then schema
  else
    match ctx.wrappers.get? field with
    | some wrapper => schema.applyWrapper wrapper
    | none => schema

/-- The schema of a list operator as a text, and the element type of the list. -/
def listShape (op : Option Operator) (schema : Document) : Document × Option ListElement :=
  if op.any Operator.isList then
    match schema.coerceList? with
    | some (coerced, element) => (coerced, some element)
    | none => (schema, (schema.textAt? "pattern").bind ListElement.ofPattern?)
  else (schema, none)

/-- The description of a flattened parameter. -/
def describe (ctx : FlattenContext) (field : String) (op : Option Operator) (isList : Bool)
    (written : Option String) : Option String :=
  let known := ctx.descriptions.get? field
  match op with
  | some op => some (describeFilter field op known ++ if isList then listNote else "")
  | none => written.or known

/-- Flatten a parameter. -/
def flatten (ctx : FlattenContext) (raw : RawParameter) : Flattened :=
  let (field, op) := raw.target ctx.registry
  let (schema, element) := listShape op (correctedSchema ctx field op raw.schema)
  { schema
    parameter :=
      { rawName := raw.name
        name := Name.normalize raw.name
        field
        operator := op
        location := raw.location
        required := raw.required
        valueType := { ValueType.ofSchema schema with listElement := element }
        description := describe ctx field op element.isSome raw.description
        requiredGroup := raw.requiredGroup } }

end RawParameter

end QuerySynth
