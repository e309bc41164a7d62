import Mathlib.Data.List.Forall2
import QuerySynth.Code.Basic

/-! # The parts of generated code

What a function refers to is read off the expressions that its body evaluates, however deep they
stand. Patterns and types are not among them: they refer to no value.
-/

namespace QuerySynth.Code

mutual

/-- An expression and the expressions inside it. -/
def Expr.parts : Expr → List Expr
  | .path path => [.path path]
  | .text value => [.text value]
  | .number value => [.number value]
  | .call function args => .call function args :: (function.parts ++ exprParts args)
  | .method receiver name types args =>
    .method receiver name types args :: (receiver.parts ++ exprParts args)
  | .field base name => .field base name :: base.parts
  | .attempt value => .attempt value :: value.parts
  | .reference value => .reference value :: value.parts
  | .leave value => .leave value :: value.parts
  | .equal left right => .equal left right :: (left.parts ++ right.parts)
  | .array items => .array items :: exprParts items
  | .tuple items => .tuple items :: exprParts items
  | .record path fields rest => .record path fields rest :: (fieldParts fields ++ valueParts rest)
  | .choice branches otherwise =>
    .choice branches otherwise :: (branchParts branches ++ otherwiseParts otherwise)
  | .cases subject arms => .cases subject arms :: (subject.parts ++ armParts arms)

def exprParts : List Expr → List Expr
  | [] => []
  | first :: rest => first.parts ++ exprParts rest

def valueParts : Option Expr → List Expr
  | none => []
  | some value => value.parts

/-- The parts of a field. The variable of a field of the same name is one. -/
def FieldInit.parts : FieldInit → List Expr
  | .same name => [.path [name]]
  | .assign _ value => value.parts

def fieldParts : List FieldInit → List Expr
  | [] => []
  | first :: rest => first.parts ++ fieldParts rest

def Branch.parts : Branch → List Expr
  | .holds condition body => condition.parts ++ body.parts
  | .binds _ value body => value.parts ++ body.parts

def branchParts : List Branch → List Expr
  | [] => []
  | first :: rest => first.parts ++ branchParts rest

def otherwiseParts : Option Block → List Expr
  | none => []
  | some body => body.parts

def Arm.parts : Arm → List Expr
  | .mk _ value => value.parts

def armParts : List Arm → List Expr
  | [] => []
  | first :: rest => first.parts ++ armParts rest

def Block.parts : Block → List Expr
  | .mk statements value => statementParts statements ++ valueParts value

/-- The parts of a statement. -/
def Statement.parts : Statement → List Expr
  | .bring _ => []
  | .bind _ value => value.parts
  | .run value => value.parts
  | .guard branches => branchParts branches

def statementParts : List Statement → List Expr
  | [] => []
  | first :: rest => first.parts ++ statementParts rest

end

attribute [simp] Expr.parts FieldInit.parts Branch.parts Arm.parts Block.parts Statement.parts
  exprParts fieldParts valueParts branchParts otherwiseParts armParts statementParts

theorem exprParts_eq (exprs : List Expr) : exprParts exprs = exprs.flatMap (·.parts) := by
  induction exprs with
  | nil => rfl
  | cons first rest ih => rw [exprParts, ih, List.flatMap_cons]

theorem fieldParts_eq (fields : List FieldInit) : fieldParts fields = fields.flatMap (·.parts) := by
  induction fields with
  | nil => rfl
  | cons first rest ih => rw [fieldParts, ih, List.flatMap_cons]

theorem statementParts_eq (statements : List Statement) :
    statementParts statements = statements.flatMap (·.parts) := by
  induction statements with
  | nil => rfl
  | cons first rest ih => rw [statementParts, ih, List.flatMap_cons]

/-- A call of a function in the module of the filter constructors. -/
structure FilterCall where
  /-- The name of the function. -/
  name : String
  args : List Expr

/-- The call that an expression is. -/
@[simp] def Expr.filterCall? : Expr → Option FilterCall
  | .call (.path ["filters", name]) args => some ⟨name, args⟩
  | _ => none

/-- The plain name that an expression is. -/
@[simp] def Expr.name? : Expr → Option String
  | .path [name] => some name
  | _ => none

namespace Function

/-- All calls of filter constructors in a function. -/
def filterCalls (function : Function) : List FilterCall :=
  function.body.parts.filterMap (·.filterCall?)

/-- All plain names in a function, those of variables and those of functions of its module. -/
def names (function : Function) : List String :=
  function.body.parts.filterMap (·.name?)

end Function

/-- The function that an item is. -/
def Item.function? : Item → Option Function
  | .function found => some found
  | _ => none

def Module.functions (module : Module) : List Function :=
  module.items.filterMap (·.function?)

def TypeExpr.isOptionalList : TypeExpr → Bool
  | .apply "Option" [.apply "Vec" _] => true
  | _ => false

theorem filterMap_function_map (functions : List Function) :
    (functions.map Item.function).filterMap (·.function?) = functions := by
  rw [List.filterMap_map]
  exact List.filterMap_some

/-- Parts with exactly the given calls, in order, whose plain names are all in scope. -/
structure Calls (scope : List String) (parts : List Expr) (calls : List FilterCall) : Prop where
  calls : parts.filterMap (·.filterCall?) = calls
  names : ∀ name ∈ parts.filterMap (·.name?), name ∈ scope

namespace Calls

variable {scope : List String} {parts others : List Expr} {calls more : List FilterCall}

theorem nil : Calls scope [] [] :=
  ⟨rfl, by simp⟩

theorem append (first : Calls scope parts calls) (second : Calls scope others more) :
    Calls scope (parts ++ others) (calls ++ more) := by
  constructor
  · rw [List.filterMap_append, first.calls, second.calls]
  · rw [List.filterMap_append]
    intro name member
    rcases List.mem_append.mp member with left | right
    · exact first.names name left
    · exact second.names name right

/-- An expression in front that neither is a call of a constructor nor a name. -/
theorem cons {part : Expr} (noCall : part.filterCall? = none) (noName : part.name? = none)
    (rest : Calls scope parts calls) : Calls scope (part :: parts) calls := by
  constructor
  · rw [List.filterMap_cons_none noCall, rest.calls]
  · rw [List.filterMap_cons_none noName]
    exact rest.names

theorem name {name : String} (known : name ∈ scope) : Calls scope [.path [name]] [] := by
  constructor
  · rfl
  · intro other member
    obtain rfl := List.mem_singleton.mp member
    exact known

/-- A call of a constructor whose arguments call no other one. -/
theorem call {call : FilterCall} (inner : Calls scope (exprParts call.args) []) :
    Calls scope (Expr.call (.path ["filters", call.name]) call.args).parts [call] := by
  constructor
  · change call :: (exprParts call.args).filterMap (·.filterCall?) = _
    rw [inner.calls]
  · exact inner.names

theorem flatMap_nil {α : Type} {items : List α} {f : α → List Expr}
    (each : ∀ item ∈ items, Calls scope (f item) []) : Calls scope (items.flatMap f) [] := by
  induction items with
  | nil => exact nil
  | cons item rest ih =>
    rw [List.flatMap_cons]
    refine (each item List.mem_cons_self).append (ih ?_)
    intro other member
    exact each other (List.mem_cons_of_mem _ member)

/-- Pieces with one call each have these calls together, in the order of the pieces. -/
theorem exists_flatMap {α β : Type} {R : α → FilterCall → Prop} {f : β → List Expr} {items : List α}
    {pieces : List β}
    (each : List.Forall₂ (fun item piece => ∃ call, R item call ∧ Calls scope (f piece) [call]) items
      pieces) :
    ∃ calls, List.Forall₂ R items calls ∧ Calls scope (pieces.flatMap f) calls := by
  induction each with
  | nil => exact ⟨[], .nil, nil⟩
  | cons first _ ih =>
    obtain ⟨call, fits, own⟩ := first
    obtain ⟨calls, others, rest⟩ := ih
    rw [List.flatMap_cons]
    exact ⟨call :: calls, .cons fits others, own.append rest⟩

end Calls

end QuerySynth.Code
