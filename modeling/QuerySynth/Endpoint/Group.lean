import QuerySynth.Diagnostic
import QuerySynth.Endpoint.Basic

/-! # Required groups

A group is named by parameters and by request fields. It is dropped when one of its parameters
was left out, or when no resolved parameter belongs to it.
-/

namespace QuerySynth

def Message.groups (request : Message) : List String :=
  request.fields.filterMap (·.requiredGroup)

/-- Whether a parameter belongs to a group, by itself or through its request field. -/
def inGroup (request : Message) (group : String) (param : Parameter) : Bool :=
  param.requiredGroup == some group ||
    request.fields.any fun field =>
      field.requiredGroup == some group && field.name == param.field

def groupMembers (request : Message) (params : List Parameter) (group : String) : List String :=
  sortedNames ((params.filter (inGroup request group)).map (·.rawName))

/-- All groups that a request or its parameters name. -/
def groupNames (request : Message) (params : List Parameter)
    (unresolved : Keyed (List String)) : List String :=
  sortedNames (params.filterMap (·.requiredGroup) ++ request.groups ++ unresolved.keys)

/-- A group of an endpoint, or why it is dropped. -/
def checkGroup (request : Message) (params : List Parameter) (unresolved : Keyed (List String))
    (name : String) : Except Finding RequiredGroup :=
  match unresolved.get? name with
  | some foreign => .error (.foreignMembers name foreign request.name)
  | none =>
    match groupMembers request params name with
    | [] => .error (.emptyGroup name)
    | members => .ok ⟨name, members⟩

/-- The required groups of an endpoint, in the order of their names, and what was dropped. -/
def requiredGroups (request : Message) (params : List Parameter)
    (unresolved : Keyed (List String)) : List RequiredGroup × List Finding :=
  let checked := (groupNames request params unresolved).map (checkGroup request params unresolved)
  (checked.filterMap fun | .ok group => some group | .error _ => none,
   checked.filterMap fun | .ok _ => none | .error finding => some finding)

end QuerySynth
