import QuerySynth.Proofs.Code.Evaluation
import QuerySynth.Proofs.Endpoint.Binding
import QuerySynth.Proofs.Generate.Constructor

/-! # What filter constructors compute

A filter is a range of its two bounds or the choice of one operator. The definition here speaks of
operators and what they are given only: it says of each operator itself whether that is a value, a list or
a flag, and knows nothing of how a constructor is written. The main statement says that evaluating a
constructor makes the message of exactly that filter, whatever arguments it is given, and that different
filters make different messages.
-/

namespace QuerySynth

open Code

/-- What an operator is given: one value, a list of values, or a flag. -/
inductive Operand where
  | value
  | list
  | flag
deriving DecidableEq, Repr

def Operator.operand : Operator → Operand
  | .eq | .ne | .lt | .lte | .gt | .gte => .value
  | .contains | .startsWith | .endsWith | .like | .notLike => .value
  | .hasKey | .notHasKey => .value
  | .in | .notIn | .hasAnyKey | .hasAllKeys => .list
  | .isNull | .isNotNull => .flag

/-- The arguments of a constructor, each of which may be missing. -/
structure Arguments where
  value : Operator → Option Value := fun _ => none
  list : Operator → Option (List Value) := fun _ => none
  flag : Operator → Option Bool := fun _ => none

/-- What a filter asks for. -/
inductive Selection where
  /-- Values from a lower to an upper bound. -/
  | between (lower upper : Value)
  /-- What an operator says of a value. -/
  | value (op : Operator) (value : Value)
  /-- What an operator says of a list. -/
  | list (op : Operator) (items : List Value)
  /-- What an operator says by itself. -/
  | flag (op : Operator)

def Selection.variantName : Selection → String
  | .between _ _ => "Between"
  | .value op _ | .list op _ | .flag op => ident op.variant

namespace Arguments

variable (arguments : Arguments)

def given (op : Operator) : Option Value :=
  match op.operand with
  | .value => arguments.value op
  | .list => (arguments.list op).map .list
  | .flag => (arguments.flag op).map .bool

/-- What a set operator asks for. A flag sets its operator only when it is raised. -/
def selection? (op : Operator) : Option Selection :=
  match op.operand with
  | .value => (arguments.value op).map (.value op)
  | .list => (arguments.list op).map (.list op)
  | .flag => if arguments.flag op = some true then some (.flag op) else none

def values (family : Family) : List Value :=
  family.operators.map fun op => .ofOption (arguments.given op)

end Arguments

namespace Family

variable (family : Family) (arguments : Arguments)

/-- The filter that arguments ask for: a range if the family has ranges and both bounds are given, else
the first operator that is set, in the order of the family. -/
def select : Option Selection :=
  match arguments.value .gte, arguments.value .lte with
  | some lower, some upper =>
    if family.kind.isNumeric ∧ family.map = false then some (.between lower upper) else first
  | _, _ => first
where
  first := family.operators.findSome? arguments.selection?

/-- What a variant carries. Lists are wrapped in a message, and a flag leaves nothing to carry. -/
def content : Selection → Value
  | .between lower upper =>
    .record ["pb", typeIdent family.rangeMessage] [("min", lower), ("max", upper)]
  | .value _ value => value
  | .list _ items => .record ["pb", typeIdent family.listMessage] [(ident family.listField, .list items)]
  | .flag _ => .tuple []

/-- The variant of the choice for a filter. -/
def variantOf (selection : Selection) : Value :=
  .variant ["pb", ident family.choiceModule, "Filter", selection.variantName] (family.content selection)

def messageOf (variant : Value) : Value :=
  .record ["pb", typeIdent family.name] [("filter", .present variant)]

/-- The optional message for an optional filter. -/
def meaning (selection : Option Selection) : Value :=
  .ofOption (selection.map fun selection => family.messageOf (family.variantOf selection))

end Family

/-- The constants and the parameters of the operators have names of their own. -/
theorem nodup_arguments :
    (["None", "true", "false"] ++ Operator.all.map Family.argument).Nodup := by
  decide +kernel

theorem argument_injective {first second : Operator} (same : Family.argument first = Family.argument second) :
    first = second :=
  List.inj_on_of_nodup_map (List.nodup_append.mp nodup_arguments).2.1 (Operator.mem_all first)
    (Operator.mem_all second) same

theorem constant?_argument (op : Operator) : Value.constant? (Family.argument op) = none := by
  have apart := (List.nodup_append.mp nodup_arguments).2.2
  have argument : Family.argument op ∈ Operator.all.map Family.argument :=
    List.mem_map_of_mem (Operator.mem_all op)
  rw [Value.constant?]
  · exact (apart "None" (by decide) _ argument).symm
  · exact (apart "true" (by decide) _ argument).symm
  · exact (apart "false" (by decide) _ argument).symm

theorem read_of_value? {scope : Scope} {name : String} {value : Value}
    (own : Value.constant? name = none) (found : scope.value? name = some value) :
    scope.read [name] = .done value := by
  rw [Scope.read, own, found]
  rfl

namespace Family

variable {family : Family} {arguments : Arguments} {scope : Scope} {op : Operator}

/-- A scope of the body of a constructor. -/
structure Body (family : Family) (arguments : Arguments) (scope : Scope) : Prop where
  /-- The arguments are in scope. -/
  argument : ∀ op ∈ family.operators,
    scope.value? (argument op) = some (.ofOption (arguments.given op))
  /-- So is the choice type of the family. -/
  choice : scope.type? "Filter" = some ["pb", ident family.choiceModule, "Filter"]

theorem Body.read (body : family.Body arguments scope) (member : op ∈ family.operators) :
    scope.read [Family.argument op] = .done (.ofOption (arguments.given op)) :=
  read_of_value? (constant?_argument op) (body.argument op member)

theorem lookup_argument {ops : List Operator} {value : Operator → Value} (member : op ∈ ops) :
    ((ops.map argument).zip (ops.map value)).lookup (argument op) = some (value op) := by
  induction ops with
  | nil => simp at member
  | cons first rest ih =>
    simp only [List.map_cons, List.zip_cons_cons, List.lookup_cons]
    by_cases same : argument op = argument first
    · obtain rfl := argument_injective same
      simp
    · have other : op ∈ rest := by
        rcases List.mem_cons.mp member with rfl | later
        · exact absurd rfl same
        · exact later
      rw [beq_eq_false_iff_ne.mpr same]
      exact ih other

/-- What the first statement of a constructor leaves in scope. -/
theorem body_bring :
    family.Body arguments
      (Scope.bring ⟨(family.constructor.params.map (·.1)).zip (arguments.values family), []⟩
        ["pb", ident family.choiceModule, "Filter"]) where
  argument op member := by
    have names : family.constructor.params.map (·.1) = family.operators.map argument := by
      simp only [params_constructor, List.map_map, Function.comp_def]
    rw [Scope.value?, Scope.bring, names, Arguments.values]
    exact lookup_argument member
  choice := rfl

theorem eval_choice {name : String} {expr : Expr} {value : Value}
    (choice : scope.type? "Filter" = some ["pb", ident family.choiceModule, "Filter"])
    (content : expr.eval scope = .done value) :
    (Family.choice name expr).eval scope =
      .done (.variant ["pb", ident family.choiceModule, "Filter", name] value) := by
  simp only [Family.choice, Expr.eval, evalAll, content, Evaluation.done_bind, Evaluation.pure_eq,
    Scope.construct, choice, Option.map_some, List.cons_append, List.nil_append,
    Evaluation.ofOption_some]

theorem match?_some {name : String} (own : Value.constant? name = none) (value : Option Value) :
    (Pattern.variant "Some" [.path [name]]).match? (.ofOption value) =
      value.map fun value => [(name, value)] := by
  cases value with
  | none => rfl
  | some value => simp only [Value.ofOption, Pattern.match?, own, Option.map_some]

/-- A branch for a given argument makes the variant of its operator. -/
theorem eval_binds (body : family.Body arguments scope) (member : op ∈ family.operators) {name : String}
    {expr : Expr} {content : Value → Value} (own : Value.constant? name = none)
    (made : ∀ value, expr.eval (scope.bind [(name, value)]) = .done (content value)) :
    (Branch.binds (.variant "Some" [.path [name]]) (.var (argument op))
        (.mk [] (some (Family.choice (ident op.variant) expr)))).eval scope =
      .done ((arguments.given op).map fun value =>
        .variant ["pb", ident family.choiceModule, "Filter", ident op.variant] (content value)) := by
  rw [Branch.eval, Expr.eval, body.read member, Evaluation.done_bind, match?_some own]
  cases arguments.given op with
  | none => rfl
  | some value =>
    have choice : (scope.bind [(name, value)]).type? "Filter" =
        some ["pb", ident family.choiceModule, "Filter"] := body.choice
    simp only [Option.map_some, Block.eval, execAll, Evaluation.done_bind, eval_choice choice (made value),
      Evaluation.pure_eq]

theorem read_bound {name : String} (own : Value.constant? name = none) (value : Value) :
    (scope.bind [(name, value)]).read [name] = .done value :=
  read_of_value? own (by simp [Scope.bind, Scope.value?])

/-- A list is wrapped in the message of lists. -/
theorem eval_listMessage {name : String} (own : Value.constant? name = none) (message : String)
    (value : Value) :
    (Expr.record ["pb", message] [.same name] none).eval (scope.bind [(name, value)]) =
      .done (.record ["pb", message] [(name, value)]) := by
  simp only [Expr.eval, evalFields, FieldInit.eval, read_bound own, Evaluation.done_bind,
    Evaluation.pure_eq]

theorem constant?_listField (family : Family) : Value.constant? (ident family.listField) = none := by
  cases map : family.map <;> rw [listField, map] <;> decide

/-- The shapes of a value and of a key are those of operators with one value, and those of lists of either
belong to operators with a list. -/
theorem operand_eq (op : Operator) : op.operand =
    match op.shape with
    | .single | .key => .value
    | .list | .keyList => .list
    | .flag => .flag := by
  cases op <;> rfl

/-- A branch for a flag makes the variant of its operator when the flag is raised. -/
theorem eval_holds (body : family.Body arguments scope) (member : op ∈ family.operators)
    (operand : op.operand = .flag) :
    (Branch.holds (.equal (.var (argument op)) (.present (.var "true")))
        (.mk [] (some (Family.choice (ident op.variant) (.tuple []))))).eval scope =
      .done ((arguments.selection? op).map family.variantOf) := by
  have given : arguments.given op = (arguments.flag op).map .bool := by rw [Arguments.given, operand]
  have raised : (Expr.present (.var "true")).eval scope = .done (.present (.bool true)) := by
    simp [Scope.construct, Scope.read, Value.constant?]
  have unit : (Expr.tuple []).eval scope = .done (.tuple []) := by simp
  have made : (Block.mk [] (some (Family.choice (ident op.variant) (.tuple [])))).eval scope =
      .done (family.variantOf (.flag op)) := by
    rw [Block.eval, execAll, Evaluation.done_bind]
    exact eval_choice body.choice unit
  rw [Branch.eval, Expr.eval, Expr.eval, body.read member, raised, given, Arguments.selection?, operand]
  simp only [Evaluation.done_bind, made]
  rcases arguments.flag op with _ | _ | _ <;> rfl

/-- The branch of an operator makes its variant when it is set, and is passed over otherwise. -/
theorem eval_operatorBranch (body : family.Body arguments scope) (member : op ∈ family.operators) :
    (family.operatorBranch op).eval scope = .done ((arguments.selection? op).map family.variantOf) := by
  have value : Value.constant? "value" = none := rfl
  have operand := operand_eq op
  -- The shapes of a value and of a key make the same branch, and so do those of lists of either.
  cases shape : op.shape with
  | single | key =>
    rw [shape] at operand
    rw [operatorBranch, shape, Arguments.selection?, operand]
    dsimp only
    rw [eval_binds body member value fun given => by rw [Expr.eval, read_bound value], Arguments.given, operand,
      Option.map_map]
    rfl
  | list | keyList =>
    rw [shape] at operand
    rw [operatorBranch, shape, Arguments.selection?, operand]
    dsimp only
    rw [eval_binds body member family.constant?_listField
      (eval_listMessage family.constant?_listField (typeIdent family.listMessage)), Arguments.given, operand]
    simp only [Option.map_map]
    rfl
  | flag =>
    rw [shape] at operand
    rw [operatorBranch, shape]
    exact eval_holds body member operand

/-- A chain of branches makes the variant of the first operator that is set. -/
theorem evalBranches_operators (body : family.Body arguments scope) {ops : List Operator}
    (members : ops ⊆ family.operators) :
    evalBranches scope (ops.map family.operatorBranch) =
      .done ((ops.findSome? arguments.selection?).map family.variantOf) := by
  induction ops with
  | nil => rfl
  | cons op rest ih =>
    obtain ⟨member, later⟩ := List.cons_subset.mp members
    rw [List.map_cons, evalBranches, eval_operatorBranch body member, List.findSome?_cons]
    cases arguments.selection? op with
    | none => simpa only [Option.map_none, Evaluation.done_bind] using ih later
    | some selection => rfl

/-- A family of numbers, and no other one, has both bounds among its operators. -/
theorem bounds_iff : (family.buildsRange && family.supports .gte && family.supports .lte) = true ↔
    family.kind.isNumeric = true ∧ family.map = false := by
  obtain ⟨kind, nullable, map⟩ := family
  cases kind <;> cases nullable <;> cases map <;> decide

theorem mem_bounds (numeric : family.kind.isNumeric = true ∧ family.map = false) :
    .gte ∈ family.operators ∧ .lte ∈ family.operators := by
  have bounds := bounds_iff.mpr numeric
  simp only [Bool.and_eq_true] at bounds
  exact ⟨mem_operators bounds.1.2, mem_operators bounds.2⟩

theorem eval_filterRecord {expr : Expr} {value : Value} (content : expr.eval scope = .done value) :
    (family.filterRecord expr).eval scope = .done (.present (family.messageOf value)) := by
  simp only [filterRecord, Expr.eval, evalAll, evalFields, FieldInit.eval, content, Scope.construct,
    Evaluation.done_bind, Evaluation.pure_eq, messageOf]

/-- The message of a range of two bounds in scope. -/
theorem eval_range (body : family.Body arguments scope) (lower upper : Value) :
    (family.filterRecord (Family.choice "Between" (.record ["pb", typeIdent family.rangeMessage]
        [.same "min", .same "max"] none))).eval (scope.bind [("min", lower), ("max", upper)]) =
      .done (.present (family.messageOf (family.variantOf (.between lower upper)))) := by
  have range : (Expr.record ["pb", typeIdent family.rangeMessage] [.same "min", .same "max"] none).eval
      (scope.bind [("min", lower), ("max", upper)]) =
      .done (.record ["pb", typeIdent family.rangeMessage] [("min", lower), ("max", upper)]) := by
    simp [Scope.read, Value.constant?, Scope.value?, Scope.bind, List.lookup_cons]
  have choice : (scope.bind [("min", lower), ("max", upper)]).type? "Filter" =
      some ["pb", ident family.choiceModule, "Filter"] := body.choice
  exact eval_filterRecord (eval_choice choice range)

/-- The range of two bounds is made when both are given, and then nothing else is looked at. -/
theorem exec_rangeGuard (body : family.Body arguments scope)
    (members : .gte ∈ family.operators ∧ .lte ∈ family.operators) :
    family.rangeGuard.exec scope =
      match arguments.value .gte, arguments.value .lte with
      | some lower, some upper =>
        .left (.present (family.messageOf (family.variantOf (.between lower upper))))
      | _, _ => .done scope := by
  have names : argument .gte = "gte" ∧ argument .lte = "lte" := by decide
  have lowerRead : scope.read ["gte"] = .done (.ofOption (arguments.value .gte)) :=
    names.1 ▸ body.read members.1
  have upperRead : scope.read ["lte"] = .done (.ofOption (arguments.value .lte)) :=
    names.2 ▸ body.read members.2
  have bounds : (Expr.tuple [.var "gte", .var "lte"]).eval scope =
      .done (.tuple [.ofOption (arguments.value .gte), .ofOption (arguments.value .lte)]) := by
    simp only [Expr.eval, evalAll, lowerRead, upperRead, Evaluation.done_bind, Evaluation.pure_eq]
  have low : Value.constant? "min" = none := rfl
  have high : Value.constant? "max" = none := rfl
  simp only [rangeGuard, Statement.exec, evalBranches, Branch.eval, bounds, Evaluation.done_bind,
    Pattern.match?, matchAll?, match?_some low, match?_some high]
  cases arguments.value .gte with
  | none => rfl
  | some lower =>
    cases arguments.value .lte with
    | none => rfl
    | some upper =>
      -- The pattern has bound the lower bound to `min` and the upper one to `max`.
      simp only [Option.map_some, Option.bind_eq_bind, Option.bind_some, Option.pure_def, List.append_nil,
        List.singleton_append, Block.eval, execAll, Statement.exec, Expr.eval, eval_range body,
        Evaluation.done_bind, Evaluation.left_bind]

/-- The statement of a constructor that chooses an operator. -/
def operatorStatement (family : Family) : Statement :=
  .bind "filter" (.choice (family.operators.map family.operatorBranch)
    (some (.mk [.run (.leave .absent)] none)))

theorem body_constructor (family : Family) :
    family.constructor.body = .mk
      (.bring ["pb", ident family.choiceModule, "Filter"] ::
        ((if family.buildsRange && family.supports .gte && family.supports .lte then
          [family.rangeGuard] else []) ++ [family.operatorStatement]))
      (some (family.filterRecord (.var "filter"))) :=
  rfl

/-- The chain of operators leaves the function when none is set. -/
theorem exec_operatorStatement (body : family.Body arguments scope) :
    family.operatorStatement.exec scope =
      match select.first family arguments with
      | some selection => .done (scope.bind [("filter", family.variantOf selection)])
      | none => .left .absent := by
  rw [operatorStatement, Statement.exec, Expr.eval, evalBranches_operators body (List.Subset.refl _),
    select.first]
  cases family.operators.findSome? arguments.selection? with
  | none => rfl
  | some selection => rfl

/-- What is left of a constructor after its range. -/
theorem returned?_operatorStatement (body : family.Body arguments scope) :
    (execAll scope [family.operatorStatement] >>= fun scope =>
      (family.filterRecord (.var "filter")).eval scope).returned? =
      some (family.meaning (select.first family arguments)) := by
  rw [execAll, exec_operatorStatement body]
  cases select.first family arguments with
  | none => rfl
  | some selection =>
    have filter : (Expr.var "filter").eval (scope.bind [("filter", family.variantOf selection)]) =
        .done (family.variantOf selection) := by
      rw [Expr.eval]
      exact read_bound rfl _
    simp only [Evaluation.done_bind, execAll, eval_filterRecord filter]
    rfl

theorem select_of_bounds (numeric : family.kind.isNumeric = true ∧ family.map = false) :
    family.select arguments =
      match arguments.value .gte, arguments.value .lte with
      | some lower, some upper => some (.between lower upper)
      | _, _ => select.first family arguments := by
  rw [select]
  split
  · rw [if_pos numeric]
  · rfl

theorem select_of_no_bounds (other : ¬(family.kind.isNumeric = true ∧ family.map = false)) :
    family.select arguments = select.first family arguments := by
  rw [select]
  split
  · rw [if_neg other]
  · rfl

/-- What a constructor returns once its choice type is in scope. -/
theorem returned?_statements (body : family.Body arguments scope) :
    (execAll scope ((if family.buildsRange && family.supports .gte && family.supports .lte then
          [family.rangeGuard] else []) ++ [family.operatorStatement]) >>= fun scope =>
      (family.filterRecord (.var "filter")).eval scope).returned? =
      some (family.meaning (family.select arguments)) := by
  by_cases numeric : family.kind.isNumeric = true ∧ family.map = false
  · rw [if_pos (bounds_iff.mpr numeric), List.singleton_append, execAll,
      exec_rangeGuard body (mem_bounds numeric), select_of_bounds numeric]
    split
    -- With both bounds the function is left, so the operators are not looked at.
    · rfl
    · exact returned?_operatorStatement body
  · rw [if_neg (mt bounds_iff.mp numeric), List.nil_append, returned?_operatorStatement body,
      select_of_no_bounds numeric]

/-- Nothing is asked for exactly when no operator is set. -/
theorem select_eq_none_iff :
    family.select arguments = none ↔ ∀ op ∈ family.operators, arguments.selection? op = none := by
  have first : select.first family arguments = none ↔
      ∀ op ∈ family.operators, arguments.selection? op = none := by
    rw [select.first, List.findSome?_eq_none_iff]
  by_cases numeric : family.kind.isNumeric = true ∧ family.map = false
  · rw [select_of_bounds numeric]
    split
    · rename_i lower upper given _
      simp only [reduceCtorEq, false_iff]
      intro unset
      have absent : (arguments.value .gte).map (Selection.value .gte) = none :=
        unset .gte (mem_bounds numeric).1
      rw [given] at absent
      cases absent
    · exact first
  · rw [select_of_no_bounds numeric]
    exact first

/-- The variants of the operators and that of ranges are different from each other. -/
theorem nodup_variants : ("Between" :: Operator.all.map fun op => ident op.variant).Nodup := by
  decide +kernel

end Family

/-- Operators stand with what they are given. -/
def Selection.Proper : Selection → Prop
  | .between _ _ => True
  | .value op _ => op.operand = .value
  | .list op _ => op.operand = .list
  | .flag op => op.operand = .flag

def Selection.operator? : Selection → Option Operator
  | .between _ _ => none
  | .value op _ | .list op _ | .flag op => some op

theorem Arguments.proper_of_selection? {arguments : Arguments} {op : Operator} {selection : Selection}
    (set : arguments.selection? op = some selection) : selection.Proper := by
  rw [Arguments.selection?] at set
  split at set
  · obtain ⟨value, -, rfl⟩ := Option.map_eq_some_iff.mp set
    assumption
  · obtain ⟨items, -, rfl⟩ := Option.map_eq_some_iff.mp set
    assumption
  · split at set
    · obtain rfl := Option.some.inj set
      assumption
    · cases set

namespace Family

variable {family : Family} {arguments : Arguments}

theorem proper_of_select {selection : Selection} (selected : family.select arguments = some selection) :
    selection.Proper := by
  have first (found : select.first family arguments = some selection) : selection.Proper := by
    obtain ⟨op, -, set⟩ := List.exists_of_findSome?_eq_some found
    exact Arguments.proper_of_selection? set
  by_cases numeric : family.kind.isNumeric = true ∧ family.map = false
  · rw [select_of_bounds numeric] at selected
    split at selected
    · obtain rfl := Option.some.inj selected
      exact trivial
    · exact first selected
  · rw [select_of_no_bounds numeric] at selected
    exact first selected

/-- The name of a variant tells its operator. -/
theorem operator?_of_variantName {first second : Selection}
    (same : first.variantName = second.variantName) : first.operator? = second.operator? := by
  obtain ⟨apart, distinct⟩ := List.nodup_cons.mp nodup_variants
  have between (op : Operator) : "Between" ≠ ident op.variant := fun same =>
    apart (List.mem_map.mpr ⟨op, Operator.mem_all op, same.symm⟩)
  have equal {op other : Operator} (same : ident op.variant = ident other.variant) : op = other :=
    List.inj_on_of_nodup_map distinct (Operator.mem_all op) (Operator.mem_all other) same
  have named (selection : Selection) : selection.variantName =
      match selection.operator? with
      | none => "Between"
      | some op => ident op.variant := by
    cases selection <;> rfl
  rw [named, named] at same
  cases left : first.operator? with
  | none =>
    cases right : second.operator? with
    | none => rfl
    | some other =>
      rw [left, right] at same
      exact absurd same (between other)
  | some op =>
    cases right : second.operator? with
    | none =>
      rw [left, right] at same
      exact absurd same.symm (between op)
    | some other =>
      rw [left, right] at same
      exact congrArg some (equal same)

/-- Different filters make different variants. -/
theorem eq_of_variantOf {first second : Selection} (proper : first.Proper) (proper' : second.Proper)
    (same : family.variantOf first = family.variantOf second) : first = second := by
  obtain ⟨path, contents⟩ := Value.variant.inj same
  have operators : first.operator? = second.operator? := by
    simp only [List.cons.injEq, true_and, and_true] at path
    exact operator?_of_variantName path
  -- What an operator is given leaves one form of filter for it.
  cases first with
  | between lower upper =>
    cases second with
    | between lower' upper' => simpa [content] using contents
    | value | list | flag => cases operators
  | value op value =>
    cases second with
    | between => cases operators
    | value other value' =>
      obtain rfl := Option.some.inj operators
      exact congrArg _ contents
    | list other | flag other =>
      obtain rfl := Option.some.inj operators
      cases proper.symm.trans proper'
  | list op items =>
    cases second with
    | between => cases operators
    | list other items' =>
      obtain rfl := Option.some.inj operators
      simpa [content] using contents
    | value other | flag other =>
      obtain rfl := Option.some.inj operators
      cases proper.symm.trans proper'
  | flag op =>
    cases second with
    | between => cases operators
    | flag other => rw [Option.some.inj operators]
    | value other | list other =>
      obtain rfl := Option.some.inj operators
      cases proper.symm.trans proper'

/-- The message of an optional filter tells the filter. -/
theorem meaning_inj {other : Arguments} :
    family.meaning (family.select arguments) = family.meaning (family.select other) ↔
      family.select arguments = family.select other := by
  refine ⟨fun same => ?_, fun same => by rw [same]⟩
  cases first : family.select arguments with
  | none =>
    cases second : family.select other with
    | none => rfl
    | some selection => simp [first, second, meaning, Value.ofOption] at same
  | some selection =>
    cases second : family.select other with
    | none => simp [first, second, meaning, Value.ofOption] at same
    | some selection' =>
      have variants : family.variantOf selection = family.variantOf selection' := by
        simpa [first, second, meaning, messageOf, Value.ofOption] using same
      rw [eq_of_variantOf (proper_of_select first) (proper_of_select second) variants]

private theorem run_eq (family : Family) (arguments : Arguments) :
    family.constructor.run? (arguments.values family) = some (family.meaning (family.select arguments)) := by
  have given : (arguments.values family).length = family.constructor.params.length := by
    rw [params_constructor, Arguments.values, List.length_map, List.length_map]
  rw [Function.run?, if_pos given, body_constructor, Block.eval, execAll, Statement.exec,
    Evaluation.done_bind]
  exact returned?_statements body_bring

/-- A constructor returns the message of exactly the filter that its arguments ask for, nothing exactly
when no operator of its family is set, and the same for two lists of arguments exactly when they ask for the
same filter. -/
theorem run_constructor (family : Family) (arguments : Arguments) :
    family.constructor.run? (arguments.values family) =
        some (family.meaning (family.select arguments)) ∧
      (family.constructor.run? (arguments.values family) = some .absent ↔
        ∀ op ∈ family.operators, arguments.selection? op = none) ∧
      ∀ other : Arguments,
        family.constructor.run? (arguments.values family) = family.constructor.run? (other.values family) ↔
          family.select arguments = family.select other := by
  refine ⟨run_eq family arguments, ?_, fun other => ?_⟩
  · rw [run_eq, ← select_eq_none_iff, meaning]
    cases family.select arguments with
    | none => simp [Value.ofOption]
    | some selection => simp [Value.ofOption]
  · rw [run_eq, run_eq, Option.some.injEq]
    exact meaning_inj

/-- Both bounds of a nullable number make a range, next to a value and a flag that is not raised; the flag
alone asks for nothing. -/
theorem run_constructor_nullable :
    let family : Family := ⟨.int64, true, false⟩
    let lowered : Arguments := { flag := fun op => if op = .isNull then some false else none }
    let bounded : Arguments := { lowered with
      value := fun op => if op = .eq then some (.number 5) else if op = .gte then some (.number 1)
        else if op = .lte then some (.number 9) else none }
    family.constructor.run? (bounded.values family) =
        some (family.meaning (some (.between (.number 1) (.number 9)))) ∧
      family.constructor.run? (lowered.values family) = some .absent ∧
      family.constructor.run? (bounded.values family) ≠ family.constructor.run? (lowered.values family) := by
  intro family lowered bounded
  obtain ⟨range, -, apart⟩ := run_constructor family bounded
  have nothing := (run_constructor family lowered).2.1.mpr (by decide)
  refine ⟨range, nothing, fun same => ?_⟩
  cases (apart lowered).mp same

end Family

end QuerySynth
