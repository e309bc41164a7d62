import QuerySynth.Filter.Registry
import QuerySynth.Generate.Surroundings

/-! # Filter constructors

For every filter family a function that takes one optional argument per operator and builds the
filter message. Two bounds make a range before any single comparison counts; otherwise the first
operator with an argument wins, in the order of the family.
-/

namespace QuerySynth.Family

open Code

/-- The type of the argument that feeds an operator. -/
def argumentType (family : Family) (op : Operator) : TypeExpr :=
  let value :=
    match op.shape with
    | .single => .path [ident family.kind.codeType]
    | .list => .apply "Vec" [.path [ident family.kind.codeType]]
    | .flag => .path ["bool"]
    | .key => .path ["String"]
    | .keyList => .apply "Vec" [.path ["String"]]
  .apply "Option" [value]

def argument (op : Operator) : String :=
  ident op.token

def choice (name : String) (value : Expr) : Expr :=
  .call (.path ["Filter", name]) [value]

/-- The choice of an operator when its argument is given. -/
def operatorBranch (family : Family) (op : Operator) : Branch :=
  let given := Expr.var (argument op)
  let variant := ident op.variant
  match op.shape with
  | .single | .key =>
    .binds (.variant "Some" [.path ["value"]]) given
      (.mk [] (some (choice variant (.var "value"))))
  | .list | .keyList =>
    let field := ident family.listField
    .binds (.variant "Some" [.path [field]]) given
      (.mk [] (some (choice variant
        (.record ["pb", typeIdent family.listMessage] [.same field] none))))
  | .flag =>
    .holds (.equal given (.present (.var "true"))) (.mk [] (some (choice variant (.tuple []))))

/-- The message of a family around a choice. -/
def filterRecord (family : Family) (value : Expr) : Expr :=
  .present (.record ["pb", typeIdent family.name] [.assign "filter" (.present value)] none)

/-- The statement that makes a range of two bounds. -/
def rangeGuard (family : Family) : Statement :=
  let bound (name : String) : Pattern := .variant "Some" [.path [name]]
  .guard [.binds (.tuple [bound "min", bound "max"]) (.tuple [.var "gte", .var "lte"])
    (.mk [.run (.leave (family.filterRecord (choice "Between"
      (.record ["pb", typeIdent family.rangeMessage] [.same "min", .same "max"] none))))] none)]

def constructor (family : Family) : Function where
  doc := none
  name := ident family.constructorName
  params := family.operators.map fun op => (argument op, family.argumentType op)
  result := .apply "Option" [.path ["pb", typeIdent family.name]]
  body := .mk
    ([.bring ["pb", ident family.choiceModule, "Filter"]] ++
      (if family.buildsRange && family.supports .gte && family.supports .lte then
        [family.rangeGuard] else []) ++
      [.bind "filter" (.choice (family.operators.map family.operatorBranch)
        (some (.mk [.run (.leave .absent)] none)))])
    (some (family.filterRecord (.var "filter")))

end QuerySynth.Family

namespace QuerySynth

open Code

/-- The module of the constructors of the given families. -/
def constructorModule (around : Surroundings) (families : List Family) : Module where
  allowed := ["clippy::too_many_arguments"]
  items := around.messageImport ::
    (Keyed.ofList (families.map fun family => (family.name, family))).values.map
      fun family => .function family.constructor

/-- The text of the constructors of the given families, each once, in the order of their
names. -/
def renderConstructors (around : Surroundings) (families : List Family) :
    Except GenerateFault String :=
  finish [around.messages] (constructorModule around families)

end QuerySynth
