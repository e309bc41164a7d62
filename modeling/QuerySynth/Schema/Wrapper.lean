import QuerySynth.Text.Pieces

/-! # Wrapper kinds

Messages that hold one scalar, so that an unset value can be told from a default one.
-/

namespace QuerySynth

/-- A message that boxes one scalar. -/
inductive WrapperKind where
  | int32 | uint32 | int64 | uint64 | double | float | bool | string | bytes
deriving DecidableEq, Repr

namespace WrapperKind

def all : List WrapperKind :=
  [.int32, .uint32, .int64, .uint64, .double, .float, .bool, .string, .bytes]

def name : WrapperKind → String
  | .int32 => "Int32"
  | .uint32 => "UInt32"
  | .int64 => "Int64"
  | .uint64 => "UInt64"
  | .double => "Double"
  | .float => "Float"
  | .bool => "Bool"
  | .string => "String"
  | .bytes => "Bytes"

def fullName (kind : WrapperKind) : String :=
  "google.protobuf." ++ kind.name ++ "Value"

/-- The kind of a fully qualified message name, with or without a leading dot. -/
def ofFullName? (name : String) : Option WrapperKind :=
  let plain := ((Text.dropStem? ['.'] name.toList).map String.ofList).getD name
  all.find? fun kind => kind.fullName == plain

/-- The type and format that a description declares for the boxed value. -/
def declaredType : WrapperKind → String × Option String
  | .int32 => ("integer", some "int32")
  | .uint32 => ("integer", some "uint32")
  | .int64 => ("integer", some "int64")
  | .uint64 => ("integer", some "uint64")
  | .double => ("number", some "double")
  | .float => ("number", some "float")
  | .bool => ("boolean", none)
  | .string => ("string", none)
  | .bytes => ("string", some "byte")

end WrapperKind

end QuerySynth
