import QuerySynth.Document.Basic
import QuerySynth.Filter.Operator

/-! # Parameters

A parameter as a description writes it, and the same parameter after flattening.
-/

namespace QuerySynth

/-- Where a request carries a parameter. -/
inductive Location where
  | path | query | header | cookie
deriving DecidableEq, Repr

namespace Location

def all : List Location := [.path, .query, .header, .cookie]

/-- The word for a location in a description. -/
def word : Location → String
  | .path => "path"
  | .query => "query"
  | .header => "header"
  | .cookie => "cookie"

def ofWord? (text : String) : Option Location :=
  all.find? fun location => location.word == text

end Location

/-- A parameter object as a description holds it; `extra` keeps the members without a meaning
here. -/
structure RawParameter where
  name : String
  location : Location
  description : Option String := none
  required : Bool := false
  schema : Document := .null
  requiredGroup : Option String := none
  extra : Keyed Document := []
deriving Repr

/-- The element type of a list-shaped parameter. -/
inductive ListElement where
  | unsigned | signed | float | string
deriving DecidableEq, Repr

/-- The declared type of a parameter after flattening. -/
structure ValueType where
  type : String
  format : Option String
  pattern : Option String
  /-- The element type when the value is a comma-separated list. -/
  listElement : Option ListElement
deriving DecidableEq, Repr

/-- The type that a schema declares; text when it declares none. -/
def ValueType.ofSchema (schema : Document) : ValueType :=
  ⟨(schema.textAt? "type").getD "string", schema.textAt? "format", schema.textAt? "pattern", none⟩

/-- A parameter after flattening. -/
structure Parameter where
  /-- The name as the description writes it. -/
  rawName : String
  /-- The delimited name. -/
  name : String
  /-- The request field that the parameter is about. -/
  field : String
  operator : Option Operator
  location : Location
  required : Bool
  valueType : ValueType
  description : Option String
  requiredGroup : Option String
deriving DecidableEq, Repr

end QuerySynth
