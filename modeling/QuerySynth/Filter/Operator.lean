import QuerySynth.Name

/-! # Filter operators

The suffixes that a query parameter may carry after a field name, and the shape of the value
each of them takes.
-/

namespace QuerySynth

/-- How the argument of an operator is supplied to a filter constructor. -/
inductive ValueShape where
  /-- One value of the scalar kind. -/
  | single
  /-- A comma-separated list of values. -/
  | list
  /-- A presence flag. -/
  | flag
  /-- One map key. -/
  | key
  /-- A comma-separated list of map keys. -/
  | keyList
deriving DecidableEq, Repr

/-- The operators, in their standard order. -/
inductive Operator where
  | eq | ne | lt | lte | gt | gte | in | notIn
  | contains | startsWith | endsWith | like | notLike
  | isNull | isNotNull
  | hasKey | notHasKey | hasAnyKey | hasAllKeys
deriving DecidableEq, Repr

namespace Operator

def all : List Operator :=
  [.eq, .ne, .lt, .lte, .gt, .gte, .in, .notIn, .contains, .startsWith, .endsWith, .like, .notLike,
   .isNull, .isNotNull, .hasKey, .notHasKey, .hasAnyKey, .hasAllKeys]

/-- The delimited suffix that names an operator. -/
def token : Operator → String
  | .eq => "eq"
  | .ne => "ne"
  | .lt => "lt"
  | .lte => "lte"
  | .gt => "gt"
  | .gte => "gte"
  | .in => "in"
  | .notIn => "not_in"
  | .contains => "contains"
  | .startsWith => "starts_with"
  | .endsWith => "ends_with"
  | .like => "like"
  | .notLike => "not_like"
  | .isNull => "is_null"
  | .isNotNull => "is_not_null"
  | .hasKey => "has_key"
  | .notHasKey => "not_has_key"
  | .hasAnyKey => "has_any_key"
  | .hasAllKeys => "has_all_keys"

/-- The operator that a suffix names. -/
def ofToken? (text : String) : Option Operator :=
  all.find? fun op => op.token == text

def variant (op : Operator) : String :=
  Name.toPascal op.token

def shape : Operator → ValueShape
  | .in | .notIn => .list
  | .isNull | .isNotNull => .flag
  | .hasKey | .notHasKey => .key
  | .hasAnyKey | .hasAllKeys => .keyList
  | _ => .single

/-- Whether a parameter with this operator carries a comma-separated list. -/
def isList (op : Operator) : Bool :=
  op.shape = .list || op.shape = .keyList

theorem mem_all (op : Operator) : op ∈ all := by
  cases op <;> decide

end Operator

end QuerySynth
