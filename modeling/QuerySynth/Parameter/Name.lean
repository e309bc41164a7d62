import QuerySynth.Filter.Registry

/-! # Parameter names

A query parameter is named after a request field, with an operator as its last words:
`slotStartDateTime.gte` is the field `slot_start_date_time` with the operator `gte`.
-/

namespace QuerySynth.Name

open Text

/-- The delimited form of a parameter name: every part between dots is converted on its own. -/
def normalized (raw : List Char) : List Char :=
  List.intercalate [delimiter] (((splitOn '.' raw).map snake).filter (!·.isEmpty))

/-- The delimited form of a parameter name. -/
def normalize (raw : String) : String :=
  String.ofList (normalized raw.toList)

/-- The greatest number of words in an operator. -/
def maxOperatorWords : Nat := 3

/-- Take the last `count` words of a name as an operator, when the vocabulary has it and a field
is left. -/
def takeOperator? (registry : Registry) (tokens : List (List Char)) (count : Nat) :
    Option (String × Operator) :=
  if tokens.length ≤ count then none
  else
    let cut := tokens.length - count
    let field := List.intercalate [delimiter] (tokens.take cut)
    let ending := List.intercalate [delimiter] (tokens.drop cut)
    if field.isEmpty then none
    else (registry.operator? (String.ofList ending)).map fun op => (String.ofList field, op)

/-- The field and the operator of a delimited name. Longer operators are tried first; without an
operator the whole name is the field. -/
def splitOperator (registry : Registry) (name : String) : String × Option Operator :=
  let tokens := splitOn delimiter name.toList
  match [3, 2, 1].findSome? (takeOperator? registry tokens) with
  | some (field, op) => (field, some op)
  | none => (name, none)

end QuerySynth.Name
