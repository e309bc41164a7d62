import QuerySynth.Diagnostic
import QuerySynth.Endpoint.Basic
import QuerySynth.Parameter.Flatten

/-! # Binding parameters to request fields

Parameters are taken one after the other into a draft of the bindings. A query parameter that
fits no field is reported and left out; a path parameter that fits none ends the operation.
-/

namespace QuerySynth

/-- The bindings of an operation so far. -/
structure Draft where
  params : List Parameter := []
  filters : Keyed FilterBinding := []
  scalars : List ScalarBinding := []
  key : Option KeyBinding := none
  /-- The groups of parameters that were left out, with the names of those parameters. -/
  unresolvedGroups : Keyed (List String) := []
  findings : List Finding := []
deriving Inhabited

/-- The binding of a path parameter. -/
def resolveKey (registry : Registry) (request : Message) (param : Parameter) :
    Except Finding KeyBinding :=
  match request.field? param.field with
  | none => .error (.keyWithoutField param.name request.name)
  | some field =>
    match field.filterType, field.scalar? with
    | some filterType, _ =>
      if (registry.get? filterType).any (·.supports .eq) then
        .ok ⟨param, field.name, .filter filterType⟩
      else .error (.keyWithoutEq field.name filterType)
    | none, some kind =>
      if field.repeated then .error (.keyNotPlain field.name)
      else .ok ⟨param, field.name, .scalar kind⟩
    | none, none => .error (.keyNotPlain field.name)

/-- Add an operator to a filter binding, keeping the order of the family. -/
def FilterBinding.bind (binding : FilterBinding) (family : Family) (op : Operator)
    (param : String) : FilterBinding :=
  { binding with
    operators := (binding.operators ++ [OperatorBinding.mk op param]).mergeSort fun a b =>
      family.operators.idxOf a.operator ≤ family.operators.idxOf b.operator }

/-- The filter field of a parameter with its family. -/
def filterTarget (registry : Registry) (request : Message) (param : Parameter) (op : Operator) :
    Except Finding (Field × String × Family) :=
  match request.field? param.field with
  | none => .error (.filterWithoutField param.name param.field request.name)
  | some field =>
    match field.filterType with
    | none =>
      match field.type with
      | .message name =>
        if Text.endsWith "Filter".toList name.toList then .error (.unknownFilter field.name name)
        else .error (.operatorOnPlainField param.name op field.name)
      | _ => .error (.operatorOnPlainField param.name op field.name)
    | some filterType =>
      match registry.get? filterType with
      | none => .error (.unknownFilter field.name filterType)
      | some family =>
        if family.supports op then .ok (field, filterType, family)
        else .error (.operatorNotSupported filterType op param.name)

/-- The filter bindings with one more operator. -/
def resolveFilter (registry : Registry) (request : Message) (param : Parameter) (op : Operator)
    (filters : Keyed FilterBinding) : Except Finding (Keyed FilterBinding) :=
  match filterTarget registry request param op with
  | .error finding => .error finding
  | .ok (field, filterType, family) =>
    let binding := (filters.get? field.name).getD ⟨field.name, filterType, []⟩
    if (binding.param? op).isSome then .error (.boundTwice op field.name)
    else .ok (filters.insert field.name (binding.bind family op param.rawName))

def resolveScalar (request : Message) (param : Parameter) : Except Finding ScalarBinding :=
  match request.field? param.field with
  | none => .error (.scalarWithoutField param.name request.name)
  | some field =>
    match field.wrapper, field.scalar? with
    | some wrapper, _ => .ok ⟨field.name, param.rawName, .wrapper wrapper, field.repeated⟩
    | none, some kind => .ok ⟨field.name, param.rawName, .scalar kind, field.repeated⟩
    | none, none => .error (.notPlain param.name field.name)

namespace Draft

/-- Take a parameter as resolved. -/
def keep (draft : Draft) (param : Parameter) : Draft :=
  { draft with params := draft.params ++ [param] }

/-- Leave a parameter out; its group remembers it. -/
def drop (draft : Draft) (param : Parameter) : Draft :=
  match param.requiredGroup with
  | none => draft
  | some group =>
    let names := (draft.unresolvedGroups.get? group).getD []
    { draft with
      unresolvedGroups := draft.unresolvedGroups.insert group (names ++ [param.name]) }

/-- Leave a parameter out with a report. -/
def reject (draft : Draft) (param : Parameter) (finding : Finding) : Draft :=
  ({ draft with findings := draft.findings ++ [finding] }).drop param

/-- Take one flattened parameter; an error ends the operation with all findings so far. -/
def add (registry : Registry) (request : Message) (draft : Draft) (param : Parameter) :
    Except (List Finding) Draft :=
  match param.location with
  | .path =>
    match resolveKey registry request param with
    | .ok key => .ok ({ draft with key := some key }.keep param)
    | .error finding => .error (draft.findings ++ [finding])
  | .query =>
    match param.operator with
    | some op =>
      match resolveFilter registry request param op draft.filters with
      | .ok filters => .ok ({ draft with filters }.keep param)
      | .error finding => .ok (draft.reject param finding)
    | none =>
      match resolveScalar request param with
      | .ok scalar => .ok ({ draft with scalars := draft.scalars ++ [scalar] }.keep param)
      | .error finding => .ok (draft.reject param finding)
  | .header | .cookie => .ok (draft.drop param)

def addAll (registry : Registry) (request : Message) (params : List Parameter) :
    Except (List Finding) Draft :=
  params.foldlM (add registry request) {}

end Draft

end QuerySynth
