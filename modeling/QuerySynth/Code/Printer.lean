import QuerySynth.Code.Basic
import QuerySynth.Code.Layout
import QuerySynth.Text.Escape
import QuerySynth.Text.Pieces

/-! # The layout of generated code

How every construct is laid out. Chains of calls and fields may break before each dot, unless
the chain opens its line with a short name.
-/

namespace QuerySynth.Code

open Layout

def pathText (path : Path) : String :=
  "::".intercalate path

/-- Items between brackets, each on a line of its own when they do not fit. -/
def bracketed (items : List (List Layout)) : List Layout :=
  let count := items.length
  block step (shiftLast (-step) (zero ++
    (items.zipIdx.flatMap fun (item, i) => item ++ comma (i + 1 == count))))

mutual

def TypeExpr.layout : TypeExpr → List Layout
  | .path path => word (pathText path)
  | .apply head args => word (head ++ "<") ++ bracketed (typeLayouts args) ++ word ">"
  | .reference target => word "&" ++ target.layout
  | .implements path => word ("impl " ++ pathText path)
  | .inferred => word "_"

def typeLayouts : List TypeExpr → List (List Layout)
  | [] => []
  | first :: rest => first.layout :: typeLayouts rest

end

mutual

def Pattern.layout : Pattern → List Layout
  | .path path => word (pathText path)
  | .variant head args => word (head ++ "(") ++ bracketed (patternLayouts args) ++ word ")"
  | .tuple items => word "(" ++ bracketed (patternLayouts items) ++ word ")"

def patternLayouts : List Pattern → List (List Layout)
  | [] => []
  | first :: rest => first.layout :: patternLayouts rest

end

namespace Expr

/-- Whether an expression is a name that is no longer than one step of indentation. -/
def isShortName : Expr → Bool
  | .path [name] => name.utf8ByteSize ≤ 4
  | _ => false

/-- Whether an expression as only argument needs no group of its own. -/
def isBlockLike : Expr → Bool
  | .record .. | .array _ | .tuple _ => true
  | _ => false

/-- Whether a condition may put its brace on a line of its own. -/
def wrapsBrace : Expr → Bool
  | .method .. | .field .. | .equal .. => true
  | .call function _ => function.wrapsBrace
  | .attempt value | .reference value => value.wrapsBrace
  | _ => false

/-- The break before a dot. -/
def dotBreak (opensLine : Bool) (receiver : Expr) : List Layout :=
  if opensLine && receiver.isShortName then [] else zero

end Expr

/-- Arguments between parentheses, given with their layouts. -/
def argsLayout (args : List Expr) (layouts : List (List Layout)) : List Layout :=
  match args with
  | [only] => if only.isBlockLike then layouts.flatten else bracketed layouts
  | _ => bracketed layouts

def typeArguments (types : List TypeExpr) : List Layout :=
  if types.isEmpty then [] else word "::<" ++ bracketed (typeLayouts types) ++ word ">"

mutual

/-- The layout of an expression; `opensLine` when nothing stands before it on its line. -/
def Expr.layout (opensLine : Bool) : Expr → List Layout
  | .path path => word (pathText path)
  | .text value => word (Text.literal value)
  | .number value => word (toString value)
  | .call function args =>
    function.layout opensLine ++ word "(" ++ argsLayout args (exprLayouts args) ++ word ")"
  | .method receiver name types args =>
    let unindent := opensLine && receiver.isShortName
    block step (receiver.chain opensLine ++ receiver.dotBreak opensLine ++ word ("." ++ name) ++
      typeArguments types ++
      block (if unindent then -step else 0)
        (word "(" ++ argsLayout args (exprLayouts args) ++ word ")"))
  | .field base name =>
    block step (base.chain opensLine ++ base.dotBreak opensLine ++ word ("." ++ name))
  | .attempt value => value.layout opensLine ++ word "?"
  | .reference value => word "&" ++ value.layout false
  | .leave value => word "return " ++ value.layout false
  | .equal left right =>
    fill step (fill (-step) (left.layout false) ++ space ++ word "== " ++ right.layout false)
  | .array items => word "[" ++ bracketed (exprLayouts items) ++ word "]"
  | .tuple items => word "(" ++ bracketed (exprLayouts items) ++ word ")"
  | .record path fields rest =>
    let inner := fieldLayouts rest.isNone fields
    recordGroup (shiftLast (-step) (fill (-step) (word (pathText path)) ++ word " \x7b" ++
      [.brk { blank := 1, ifNonempty := true }] ++ inner ++ restLayout rest)) ++ word "\x7d"
  | .choice branches otherwise =>
    block step (branchLayouts false (otherwise.isNone) branches ++ otherwiseLayout otherwise)
  | .cases subject arms =>
    fill 0 (word "match " ++
      block 0 (subject.layout false ++ if subject.wrapsBrace then space else word " ") ++
      word "\x7b" ++ never ++
      block step (shiftLast (-step)
        ([.brk { blank := infinite, ifNonempty := true }] ++ armLayouts arms)) ++
      word "\x7d")

/-- The layout of an expression inside a chain of calls and fields. -/
def Expr.chain (opensLine : Bool) : Expr → List Layout
  | .method receiver name types args =>
    receiver.chain opensLine ++ receiver.dotBreak opensLine ++ word ("." ++ name) ++
      typeArguments types ++
      block 0 (word "(" ++ argsLayout args (exprLayouts args) ++ word ")")
  | .field base name => base.chain opensLine ++ base.dotBreak opensLine ++ word ("." ++ name)
  | .attempt value => value.chain opensLine ++ word "?"
  | .call function args =>
    function.chain false ++ word "(" ++ argsLayout args (exprLayouts args) ++ word ")"
  | .path path => block (-step) (word (pathText path))
  | .text value => block (-step) (word (Text.literal value))
  | .number value => block (-step) (word (toString value))
  | .reference value => block (-step) (word "&" ++ value.layout false)
  | .leave value => block (-step) (word "return " ++ value.layout false)
  | .equal left right =>
    block (-step)
      (fill step (fill (-step) (left.layout false) ++ space ++ word "== " ++ right.layout false))
  | .array items => block (-step) (word "[" ++ bracketed (exprLayouts items) ++ word "]")
  | .tuple items => block (-step) (word "(" ++ bracketed (exprLayouts items) ++ word ")")
  | .record path fields rest =>
    block (-step)
      (recordGroup (shiftLast (-step) (fill (-step) (word (pathText path)) ++ word " \x7b" ++
        [.brk { blank := 1, ifNonempty := true }] ++ fieldLayouts rest.isNone fields ++
        restLayout rest)) ++ word "\x7d")
  | .choice branches otherwise =>
    block (-step)
      (block step (branchLayouts false (otherwise.isNone) branches ++ otherwiseLayout otherwise))
  | .cases _ _ => []

def exprLayouts : List Expr → List (List Layout)
  | [] => []
  | first :: rest => first.layout false :: exprLayouts rest

/-- The fields of a literal; `ends` when nothing follows them. -/
def fieldLayouts (ends : Bool) : List FieldInit → List Layout
  | [] => []
  | first :: rest =>
    first.layout ++ commaOrSpace (ends && rest.isEmpty) ++ fieldLayouts ends rest

def FieldInit.layout : FieldInit → List Layout
  | .same name => word name
  | .assign name value => word (name ++ ": ") ++ fill 0 (value.layout false)

/-- What fills the fields that a literal does not name. -/
def restLayout : Option Expr → List Layout
  | none => []
  | some rest => word ".." ++ rest.layout false ++ space

/-- A chain of conditions; `lone` when no final block follows it. -/
def branchLayouts (continued lone : Bool) : List Branch → List Layout
  | [] => []
  | first :: rest =>
    word (if continued then " else if " else "if ") ++
      first.layout (lone && !continued && rest.isEmpty) ++ branchLayouts true lone rest

def Branch.layout (lone : Bool) : Branch → List Layout
  | .holds condition body =>
    block (-step)
      (block 0 (condition.layout false ++ if condition.wrapsBrace then space else word " ")) ++
      body.layout lone
  | .binds pattern value body =>
    block (-step)
      (block 0 (fill 0 (word "let " ++ fill 0 pattern.layout ++ word " = " ++ never ++
          fill 0 (value.layout false)) ++
        if value.wrapsBrace then space else word " ")) ++
      body.layout lone

def otherwiseLayout : Option Block → List Layout
  | none => []
  | some body => word " else " ++ body.layout false

/-- A block in a chain of conditions. The block of a lone condition has lines of its own. -/
def Block.layout (lone : Bool) : Block → List Layout
  | .mk [] (some value) =>
    if lone then
      word "\x7b" ++ shiftLast (-step) (hard ++ fill 0 (value.layout true) ++ hard) ++ word "\x7d"
    else
      word "\x7b" ++ shiftLast (-step) (space ++ fill 0 (value.layout true) ++ space) ++
        word "\x7d"
  | .mk statements value =>
    word "\x7b" ++ shiftLast (-step) ((if lone then hard else space) ++
      statementLayouts statements ++ valueLayout value) ++ word "\x7d"

/-- The final value of a block. -/
def valueLayout : Option Expr → List Layout
  | none => []
  | some value => fill 0 (value.layout true) ++ hard

def statementLayouts : List Statement → List Layout
  | [] => []
  | first :: rest => first.layout ++ statementLayouts rest

def Statement.layout : Statement → List Layout
  | .bring path => word ("use " ++ pathText path ++ ";") ++ hard
  | .bind name value =>
    fill 0 (word ("let " ++ name ++ " = ") ++ never ++ value.layout false) ++ word ";" ++ hard
  | .run value => fill 0 (value.layout true ++ word ";") ++ hard
  | .guard branches => fill 0 (block step (branchLayouts false true branches)) ++ hard

def armLayouts : List Arm → List Layout
  | [] => []
  | first :: rest => first.layout ++ hard ++ armLayouts rest

/-- An arm; a value that does not fit gets braces and lines of its own. -/
def Arm.layout : Arm → List Layout
  | .mk pattern value =>
    fill 0 (pattern.layout ++ word " => " ++ never ++
      block step ([.brk { before := some '\x7b' }] ++ value.layout true ++
        [.brk { offset := -step, after := some '\x7d', instead := some ',' }]))

end

/-- Whether comment marks are nested properly in a text; `depth` counts the open ones. -/
def commentsNest (depth : Nat) : List Char → Bool
  | '/' :: '*' :: rest => commentsNest (depth + 1) rest
  | '*' :: '/' :: rest =>
    match depth with
    | 0 => false
    | depth + 1 => commentsNest depth rest
  | _ :: rest => commentsNest depth rest
  | [] => depth == 0

/-- The lines of a text without blanks at their ends, the last line excepted. -/
def trimLines : List (List Char) → List Char
  | [] => []
  | [last] => last
  | line :: rest => Text.trimRight (· == ' ') line ++ '\n' :: trimLines rest

/-- The documentation of a function: a line comment, else a block comment, else an attribute. -/
def docLayout (doc : String) : List Layout :=
  let text := doc.toList
  let opening := text.head?
  if !text.contains '\n' && opening != some '/' then
    word ("///" ++ String.ofList (Text.trimRight (· == ' ') text)) ++ hard
  else if commentsNest 0 text && text.getLast? != some '/' && opening != some '*' &&
      opening != some '/' then
    word ("/**" ++ String.ofList (trimLines (Text.splitOn '\n' text)) ++ "*/") ++ hard
  else word ("#[doc = " ++ Text.literal doc ++ "]") ++ space

/-- The statements and the value of a function body. -/
def bodyLayout : Block → List Layout
  | .mk statements value => statementLayouts statements ++ valueLayout value

def Function.layout (function : Function) : List Layout :=
  let count := function.params.length
  let params := function.params.zipIdx.flatMap fun ((name, type), i) =>
    word (name ++ ": ") ++ type.layout ++ comma (i + 1 == count)
  ((function.doc.map docLayout).getD []) ++
    block step (shiftLast (-step) (word ("pub fn " ++ function.name ++ "(") ++ never ++
      block 0 (shiftLast (-step) (zero ++ params)) ++ word ")" ++
      block (-step) (word " -> " ++ function.result.layout) ++ word " \x7b" ++
      [.brk { blank := infinite, ifNonempty := true }] ++ bodyLayout function.body)) ++
    word "\x7d" ++ hard

def Item.layout : Item → List Layout
  | .bring rooted path name =>
    word ("use " ++ (if rooted then "::" else "") ++ pathText path ++
      ((name.map (" as " ++ ·)).getD "") ++ ";") ++ hard
  | .function body => body.layout
  | .module name => block step (word ("pub mod " ++ name ++ ";")) ++ hard

/-- The attribute that switches checks off. -/
def allowLayout (allowed : List String) : List Layout :=
  if allowed.isEmpty then []
  else
    word "#![allow(" ++
      block step (shiftLast (-step) (zero ++
        List.intercalate [.text ",", .brk { blank := 1 }] (allowed.map word) ++ zero)) ++
      word ")]" ++ space

/-- The first line of every generated file. -/
def banner : String := "// @generated by querygen. DO NOT EDIT."

def Module.render (module : Module) : String :=
  banner ++ "\n\n" ++
    Layout.render
      (block 0 (allowLayout module.allowed ++ module.items.flatMap Item.layout))

end QuerySynth.Code
