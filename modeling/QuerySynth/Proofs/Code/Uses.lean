import QuerySynth.Endpoint.Basic
import QuerySynth.Proofs.Code.Parts

/-! # The parameters that code uses

Generated functions take all parameters in one argument. What they read of it and which required groups
they check is seen from the method calls on that argument, however deep these stand.
-/

namespace QuerySynth.Code

/-- The methods that read one parameter. -/
def readers : List String := ["parse", "parse_list", "path"]

/-- The text that an expression is. -/
@[simp] def Expr.text? : Expr → Option String
  | .text value => some value
  | _ => none

/-- The raw name of the parameter that an expression reads. -/
@[simp] def Expr.read? : Expr → Option String
  | .method (.path ["params"]) reader [] [.text param] => if reader ∈ readers then some param else none
  | _ => none

/-- The group that an expression checks. -/
@[simp] def Expr.check? : Expr → Option RequiredGroup
  | .method (.path ["params"]) "require_any" [] [.text name, .reference (.array members)] =>
    (members.mapM Expr.text?).map (RequiredGroup.mk name)
  | _ => none

namespace Function

def reads (function : Function) : List String :=
  function.body.parts.filterMap (·.read?)

def checks (function : Function) : List RequiredGroup :=
  function.body.parts.filterMap (·.check?)

end Function

/-- A list of texts is read back as it is. -/
theorem mapM_text? (texts : List String) : (texts.map Expr.text).mapM Expr.text? = some texts := by
  induction texts with
  | nil => rfl
  | cons text rest ih =>
    rw [List.map_cons, List.mapM_cons, ih]
    rfl

/-- Parts that read exactly the given parameters and check exactly the given groups, in order. -/
structure Uses (parts : List Expr) (reads : List String) (checks : List RequiredGroup) : Prop where
  reads : parts.filterMap (·.read?) = reads
  checks : parts.filterMap (·.check?) = checks

namespace Uses

variable {parts others : List Expr} {reads moreReads : List String} {checks moreChecks : List RequiredGroup}

theorem nil : Uses [] [] [] :=
  ⟨rfl, rfl⟩

theorem append (first : Uses parts reads checks) (second : Uses others moreReads moreChecks) :
    Uses (parts ++ others) (reads ++ moreReads) (checks ++ moreChecks) := by
  constructor
  · rw [List.filterMap_append, first.reads, second.reads]
  · rw [List.filterMap_append, first.checks, second.checks]

/-- An expression in front that neither reads a parameter nor checks a group. -/
theorem cons {part : Expr} (noRead : part.read? = none) (noCheck : part.check? = none)
    (rest : Uses parts reads checks) : Uses (part :: parts) reads checks := by
  constructor
  · rw [List.filterMap_cons_none noRead, rest.reads]
  · rw [List.filterMap_cons_none noCheck, rest.checks]

/-- An expression in front that checks a group. -/
theorem cons_check {part : Expr} {group : RequiredGroup} (noRead : part.read? = none)
    (checked : part.check? = some group) (rest : Uses parts reads checks) :
    Uses (part :: parts) reads (group :: checks) := by
  constructor
  · rw [List.filterMap_cons_none noRead, rest.reads]
  · rw [List.filterMap_cons_some checked, rest.checks]

/-- Pieces read together what they read one by one, in the order of the pieces. -/
theorem flatMap_reads {α β : Type} {f : β → List Expr} {read : α → List String} {items : List α}
    {pieces : List β} (each : List.Forall₂ (fun item piece => Uses (f piece) (read item) []) items pieces) :
    Uses (pieces.flatMap f) (items.flatMap read) [] := by
  induction each with
  | nil => exact nil
  | cons first _ ih =>
    rw [List.flatMap_cons, List.flatMap_cons]
    exact first.append ih

/-- Pieces check together the groups that they check one by one. -/
theorem flatMap_checks {f : RequiredGroup → List Expr} (each : ∀ group, Uses (f group) [] [group])
    (groups : List RequiredGroup) : Uses (groups.flatMap f) [] groups := by
  induction groups with
  | nil => exact nil
  | cons group rest ih =>
    rw [List.flatMap_cons]
    exact (each group).append ih

end Uses

end QuerySynth.Code
