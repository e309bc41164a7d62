import QuerySynth.Filter.Operator
import QuerySynth.Text.Words

/-! # Filter families

A family is a filter message for one scalar kind, plain or nullable, over single values or over
maps with text keys. The three traits alone decide its operators and every name around it.
-/

namespace QuerySynth

/-- The base scalar of a filter family. -/
inductive ScalarKind where
  | uint32 | uint64 | int32 | int64 | string | bool
deriving DecidableEq, Repr

namespace ScalarKind

def all : List ScalarKind := [.uint32, .uint64, .int32, .int64, .string, .bool]

/-- The part of a message name that stands for the kind. -/
def name : ScalarKind → String
  | .uint32 => "UInt32"
  | .uint64 => "UInt64"
  | .int32 => "Int32"
  | .int64 => "Int64"
  | .string => "String"
  | .bool => "Bool"

/-- The part of a function name that stands for the kind. -/
def slug : ScalarKind → String
  | .uint32 => "uint32"
  | .uint64 => "uint64"
  | .int32 => "int32"
  | .int64 => "int64"
  | .string => "string"
  | .bool => "bool"

/-- The type of one value of the kind in generated code. -/
def codeType : ScalarKind → String
  | .uint32 => "u32"
  | .uint64 => "u64"
  | .int32 => "i32"
  | .int64 => "i64"
  | .string => "String"
  | .bool => "bool"

/-- Whether values of the kind are whole numbers. -/
def isNumeric : ScalarKind → Bool
  | .uint32 | .uint64 | .int32 | .int64 => true
  | .string | .bool => false

end ScalarKind

/-- The traits of a filter family. -/
structure Family where
  kind : ScalarKind
  nullable : Bool
  map : Bool
deriving DecidableEq, Repr

namespace Family

/-- The operators of a family, in the order of its constructor's arguments. -/
def operators (family : Family) : List Operator :=
  (if family.map then [.hasKey, .notHasKey, .hasAnyKey, .hasAllKeys]
    else
      match family.kind with
      | .string =>
        [.eq, .ne, .contains, .startsWith, .endsWith, .like, .notLike, .in, .notIn]
      | .bool => [.eq, .ne]
      | _ => [.eq, .ne, .lt, .lte, .gt, .gte, .in, .notIn]) ++
    (if family.nullable then [.isNull, .isNotNull] else [])

def supports (family : Family) (op : Operator) : Bool :=
  family.operators.contains op

def name (family : Family) : String :=
  (if family.nullable then "Nullable" else "") ++ (if family.map then "MapString" else "") ++
    family.kind.name ++ "Filter"

def constructorName (family : Family) : String :=
  "build_" ++ (if family.nullable then "nullable_" else "") ++
    (if family.map then "map_string_" else "") ++ family.kind.slug ++ "_filter"

def choiceModule (family : Family) : String :=
  String.ofList (Text.snakeWords family.name.toList)

def rangeMessage (family : Family) : String :=
  family.kind.name ++ "Range"

def listMessage (family : Family) : String :=
  if family.map then "MapKeyList" else family.kind.name ++ "List"

/-- The repeated field of the list message. -/
def listField (family : Family) : String :=
  if family.map then "keys" else "values"

/-- Whether a lower and an upper bound together make a range. -/
def buildsRange (family : Family) : Bool :=
  !family.map && family.kind.isNumeric

end Family

end QuerySynth
