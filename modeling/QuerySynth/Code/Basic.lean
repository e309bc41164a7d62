/-! # Generated code

The constructs that generated modules are made of: items, statements, expressions, patterns and
types. Code stays a tree until it is laid out, so that what a module defines and calls can be
read off.
-/

namespace QuerySynth.Code

/-- A name with the modules before it, from the outermost on. -/
abbrev Path := List String

/-- A type. -/
inductive TypeExpr where
  | path (path : Path)
  /-- A type applied to arguments. -/
  | apply (head : String) (args : List TypeExpr)
  | reference (target : TypeExpr)
  /-- Any type with a trait. -/
  | implements (path : Path)
  /-- A type left to inference. -/
  | inferred
deriving Repr, Inhabited

/-- A pattern. -/
inductive Pattern where
  /-- A variable, or a variant without content. -/
  | path (path : Path)
  | variant (head : String) (args : List Pattern)
  | tuple (items : List Pattern)
deriving Repr, Inhabited

mutual

/-- An expression. -/
inductive Expr where
  | path (path : Path)
  | text (value : String)
  | number (value : Nat)
  | call (function : Expr) (args : List Expr)
  | method (receiver : Expr) (name : String) (types : List TypeExpr) (args : List Expr)
  | field (base : Expr) (name : String)
  /-- Leave the function with the error of a failed value. -/
  | attempt (value : Expr)
  | reference (value : Expr)
  | leave (value : Expr)
  | equal (left right : Expr)
  | array (items : List Expr)
  | tuple (items : List Expr)
  /-- A message literal; `rest` fills the fields that are not named. -/
  | record (path : Path) (fields : List FieldInit) (rest : Option Expr)
  /-- A chain of conditions; `otherwise` is its final block. -/
  | choice (branches : List Branch) (otherwise : Option Block)
  | cases (subject : Expr) (arms : List Arm)

/-- A field of a message literal. -/
inductive FieldInit where
  /-- The field takes the variable of its own name. -/
  | same (name : String)
  | assign (name : String) (value : Expr)

/-- A condition and the block it guards. -/
inductive Branch where
  | holds (condition : Expr) (body : Block)
  | binds (pattern : Pattern) (value : Expr) (body : Block)

/-- A pattern and the value for it. -/
inductive Arm where
  | mk (pattern : Pattern) (value : Expr)

/-- Statements and a final value. -/
inductive Block where
  | mk (statements : List Statement) (value : Option Expr)

/-- A statement. -/
inductive Statement where
  | bring (path : Path)
  | bind (name : String) (value : Expr)
  | run (value : Expr)
  /-- A chain of conditions without a value. -/
  | guard (branches : List Branch)

end

instance : Inhabited Expr := ⟨.path []⟩

/-- A public function. -/
structure Function where
  doc : Option String
  name : String
  params : List (String × TypeExpr)
  result : TypeExpr
  body : Block

/-- An item of a module. -/
inductive Item where
  /-- An import, under a name of its own if one is given. -/
  | bring (rooted : Bool) (path : Path) (name : Option String)
  | function (function : Function)
  | module (name : String)

/-- A module: the checks it switches off, and its items. -/
structure Module where
  allowed : List String
  items : List Item

namespace Expr

abbrev var (name : String) : Expr := .path [name]

abbrev present (value : Expr) : Expr := .call (.var "Some") [value]

abbrev absent : Expr := .var "None"

abbrev success (value : Expr) : Expr := .call (.var "Ok") [value]

/-- The default of every field that a literal does not name. -/
abbrev defaults : Expr := .call (.path ["Default", "default"]) []

end Expr

end QuerySynth.Code
