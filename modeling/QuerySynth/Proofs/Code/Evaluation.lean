import QuerySynth.Code.Basic

/-! # What generated code computes

An evaluator for the constructs that filter constructors are made of: variables, optional values,
messages and the variants of a choice, chains of conditions, and leaving the function early. A pattern
that matches binds its variables in the block of its condition only.

Handlers also call methods and functions of the modules around the generated code. These have no
meaning here, so an expression with one is stuck.
-/

namespace QuerySynth.Code

/-- A value of generated code. -/
inductive Value where
  | bool (truth : Bool)
  | number (value : Int)
  | text (value : String)
  | absent
  | present (value : Value)
  | list (items : List Value)
  | tuple (items : List Value)
  /-- A message with its fields. -/
  | record (path : Path) (fields : List (String × Value))
  /-- A variant of a choice with its content. -/
  | variant (path : Path) (content : Value)
deriving Repr, Inhabited

namespace Value

/-- A value that may be missing. -/
def ofOption : Option Value → Value
  | none => .absent
  | some value => .present value

/-- Whether two optional truth values are equal; other values are not compared. -/
def equal? : Value → Value → Option Bool
  | .absent, .absent => some true
  | .present (.bool left), .present (.bool right) => some (left == right)
  | .absent, .present (.bool _) | .present (.bool _), .absent => some false
  | _, _ => none

/-- The value of a name that stands for a constant. -/
def constant? : String → Option Value
  | "None" => some .absent
  | "true" => some (.bool true)
  | "false" => some (.bool false)
  | _ => none

/-- Whether a value is a constant. -/
def isConstant : Value → Value → Bool
  | .absent, .absent => true
  | .bool expected, .bool truth => truth == expected
  | _, _ => false

end Value

/-- How an evaluation ends. -/
inductive Evaluation (α : Type) where
  /-- With a result. -/
  | done (result : α)
  /-- The function is left with a value. -/
  | left (value : Value)
  /-- Without meaning. -/
  | stuck
deriving Repr

namespace Evaluation

variable {α β : Type}

/-- Go on with a result; the other endings are final. -/
def bind (first : Evaluation α) (next : α → Evaluation β) : Evaluation β :=
  match first with
  | .done result => next result
  | .left value => .left value
  | .stuck => .stuck

instance : Monad Evaluation where
  pure := .done
  bind := bind

/-- The result of a look-up that may find nothing. -/
def ofOption : Option α → Evaluation α
  | none => .stuck
  | some result => .done result

/-- The value that a function returns, by its last expression or early. -/
def returned? : Evaluation Value → Option Value
  | .done value => some value
  | .left value => some value
  | .stuck => none

@[simp] theorem pure_eq (result : α) : (pure result : Evaluation α) = .done result := rfl

@[simp] theorem done_bind (result : α) (next : α → Evaluation β) :
    (Evaluation.done result >>= next) = next result := rfl

@[simp] theorem left_bind (value : Value) (next : α → Evaluation β) :
    (Evaluation.left value >>= next) = .left value := rfl

@[simp] theorem stuck_bind (next : α → Evaluation β) :
    ((Evaluation.stuck : Evaluation α) >>= next) = .stuck := rfl

@[simp] theorem ofOption_some (result : α) : ofOption (some result) = .done result := rfl

end Evaluation

/-- The variables and the imported types at a place, the latest first. -/
structure Scope where
  values : List (String × Value)
  types : List (String × Path)

namespace Scope

/-- The variables of a pattern come into scope. -/
def bind (scope : Scope) (bound : List (String × Value)) : Scope :=
  { scope with values := bound ++ scope.values }

/-- A type comes into scope under the last name of its path. -/
def bring (scope : Scope) (path : Path) : Scope :=
  { scope with types := path.getLast?.toList.map (·, path) ++ scope.types }

/-- The variable of a name. -/
def value? (scope : Scope) (name : String) : Option Value :=
  scope.values.lookup name

/-- The full path of a type in scope. -/
def type? (scope : Scope) (name : String) : Option Path :=
  scope.types.lookup name

/-- What a name or path stands for by itself. -/
def read (scope : Scope) : Path → Evaluation Value
  | [name] => .ofOption ((Value.constant? name).or (scope.value? name))
  | _ => .stuck

/-- What the constructor at a path makes of its arguments: an optional value, or a variant of a type in
scope. -/
def construct (scope : Scope) : Path → List Value → Evaluation Value
  | ["Some"], [value] => .done (.present value)
  | [type, name], [value] =>
    .ofOption ((scope.type? type).map fun path => .variant (path ++ [name]) value)
  | _, _ => .stuck

end Scope

mutual

/-- The variables that a pattern binds to the parts of a value; nothing when it does not match. -/
def Pattern.match? : Pattern → Value → Option (List (String × Value))
  | .path [name], value =>
    match Value.constant? name with
    | none => some [(name, value)]
    | some constant => if constant.isConstant value then some [] else none
  | .variant "Some" [inner], .present value => inner.match? value
  | .tuple patterns, .tuple values => matchAll? patterns values
  | _, _ => none

/-- The variables that patterns bind to the parts of the values at their positions. -/
def matchAll? : List Pattern → List Value → Option (List (String × Value))
  | [], [] => some []
  | pattern :: patterns, value :: values => do
    return (← pattern.match? value) ++ (← matchAll? patterns values)
  | _, _ => none

end

mutual

/-- The value of an expression. -/
def Expr.eval (scope : Scope) : Expr → Evaluation Value
  | .path path => scope.read path
  | .text value => .done (.text value)
  | .number value => .done (.number value)
  | .call (.path path) args => do scope.construct path (← evalAll scope args)
  | .leave value => do .left (← value.eval scope)
  | .equal left right => do
    let first ← left.eval scope
    let second ← right.eval scope
    .ofOption ((first.equal? second).map .bool)
  | .tuple items => do return .tuple (← evalAll scope items)
  | .record path fields none => do return .record path (← evalFields scope fields)
  | .choice branches (some otherwise) => do
    match ← evalBranches scope branches with
    | some value => return value
    | none => otherwise.eval scope
  | _ => .stuck

/-- The values of expressions, from left to right. -/
def evalAll (scope : Scope) : List Expr → Evaluation (List Value)
  | [] => .done []
  | first :: rest => do
    let value ← first.eval scope
    let values ← evalAll scope rest
    return value :: values

def FieldInit.eval (scope : Scope) : FieldInit → Evaluation (String × Value)
  | .same name => do return (name, ← scope.read [name])
  | .assign name value => do return (name, ← value.eval scope)

/-- Fields with their values, in order. -/
def evalFields (scope : Scope) : List FieldInit → Evaluation (List (String × Value))
  | [] => .done []
  | first :: rest => do
    let field ← first.eval scope
    let fields ← evalFields scope rest
    return field :: fields

/-- The value of the guarded block, if the condition holds. -/
def Branch.eval (scope : Scope) : Branch → Evaluation (Option Value)
  | .holds condition body => do
    match ← condition.eval scope with
    | .bool true => return some (← body.eval scope)
    | .bool false => return none
    | _ => .stuck
  | .binds pattern value body => do
    match pattern.match? (← value.eval scope) with
    | some bound => return some (← body.eval (scope.bind bound))
    | none => return none

/-- The value of the block of the first condition that holds, if there is one. -/
def evalBranches (scope : Scope) : List Branch → Evaluation (Option Value)
  | [] => .done none
  | first :: rest => do
    match ← first.eval scope with
    | some value => return some value
    | none => evalBranches scope rest

/-- The value of a block: that of its last expression after its statements. -/
def Block.eval (scope : Scope) : Block → Evaluation Value
  | .mk statements none => do
    let _ ← execAll scope statements
    return .tuple []
  | .mk statements (some value) => do value.eval (← execAll scope statements)

/-- The scope after a statement. -/
def Statement.exec (scope : Scope) : Statement → Evaluation Scope
  | .bring path => .done (scope.bring path)
  | .bind name value => do return scope.bind [(name, ← value.eval scope)]
  | .run value => do
    let _ ← value.eval scope
    return scope
  | .guard branches => do
    let _ ← evalBranches scope branches
    return scope

/-- The scope after several statements. -/
def execAll (scope : Scope) : List Statement → Evaluation Scope
  | [] => .done scope
  | first :: rest => do execAll (← first.exec scope) rest

end

attribute [simp] Pattern.match? matchAll? Expr.eval evalAll FieldInit.eval evalFields Branch.eval
  evalBranches Block.eval Statement.exec execAll

/-- What a function returns for its arguments, one for each parameter. -/
def Function.run? (function : Function) (args : List Value) : Option Value :=
  if args.length = function.params.length then
    (function.body.eval ⟨(function.params.map (·.1)).zip args, []⟩).returned?
  else none

end QuerySynth.Code
