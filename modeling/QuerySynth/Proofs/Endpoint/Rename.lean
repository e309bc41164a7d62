import QuerySynth.Endpoint.Build
import QuerySynth.Proofs.Except
import QuerySynth.Proofs.Keyed

/-! # Raw names of parameters

The raw name of a parameter only names where a value comes from: every step of building endpoints
commutes with a renaming of raw names, and no finding speaks of them. Names that become equal in a
group are one member of it.
-/

namespace QuerySynth

variable (f : String → String)

def Parameter.rename (param : Parameter) : Parameter :=
  { param with rawName := f param.rawName }

def OperatorBinding.rename (binding : OperatorBinding) : OperatorBinding :=
  { binding with param := f binding.param }

def FilterBinding.rename (binding : FilterBinding) : FilterBinding :=
  { binding with operators := binding.operators.map (·.rename f) }

def ScalarBinding.rename (binding : ScalarBinding) : ScalarBinding :=
  { binding with param := f binding.param }

def KeyBinding.rename (key : KeyBinding) : KeyBinding :=
  { key with param := key.param.rename f }

/-- A group of renamed parameters, without repetitions. -/
def RequiredGroup.rename (group : RequiredGroup) : RequiredGroup :=
  { group with members := sortedNames (group.members.map f) }

/-- An endpoint whose parameters are renamed wherever they are named. -/
def Endpoint.rename (endpoint : Endpoint) : Endpoint :=
  { endpoint with
    params := endpoint.params.map (·.rename f)
    key := endpoint.key.map (·.rename f)
    filters := endpoint.filters.map (·.rename f)
    scalars := endpoint.scalars.map (·.rename f)
    requiredGroups := endpoint.requiredGroups.map (·.rename f) }

def Draft.rename (draft : Draft) : Draft :=
  { draft with
    params := draft.params.map (·.rename f)
    filters := draft.filters.map fun (field, binding) => (field, binding.rename f)
    scalars := draft.scalars.map (·.rename f)
    key := draft.key.map (·.rename f) }

theorem resolveKey_rename (registry : Registry) (request : Message) (param : Parameter) :
    resolveKey registry request (param.rename f) =
      (resolveKey registry request param).map (·.rename f) := by
  unfold resolveKey
  simp only [Parameter.rename]
  split
  · rfl
  · split
    · split <;> rfl
    · split <;> rfl
    · rfl

theorem filterTarget_rename (registry : Registry) (request : Message) (param : Parameter)
    (op : Operator) :
    filterTarget registry request (param.rename f) op = filterTarget registry request param op := rfl

theorem param?_rename (binding : FilterBinding) (op : Operator) :
    (binding.rename f).param? op = (binding.param? op).map f := by
  simp only [FilterBinding.param?, FilterBinding.rename, List.find?_map, Option.map_map]
  rfl

theorem bind_rename (binding : FilterBinding) (family : Family) (op : Operator) (param : String) :
    (binding.rename f).bind family op (f param) = (binding.bind family op param).rename f := by
  simp only [FilterBinding.bind, FilterBinding.rename]
  congr 1
  rw [List.map_mergeSort (s := fun a b =>
    decide (family.operators.idxOf a.operator ≤ family.operators.idxOf b.operator))]
  · rw [List.map_append, List.map_singleton]
    rfl
  · intro a _ b _
    rfl

theorem resolveFilter_rename (registry : Registry) (request : Message) (param : Parameter)
    (op : Operator) (filters : Keyed FilterBinding) :
    resolveFilter registry request (param.rename f) op
        (filters.map fun (field, binding) => (field, binding.rename f)) =
      (resolveFilter registry request param op filters).map
        fun filters => filters.map fun (field, binding) => (field, binding.rename f) := by
  simp only [resolveFilter, filterTarget_rename]
  split
  · rfl
  · rename_i field filterType family _
    have binding : (Keyed.get? (filters.map fun (field, binding) => (field, binding.rename f))
        field.name).getD ⟨field.name, filterType, []⟩ =
          ((filters.get? field.name).getD ⟨field.name, filterType, []⟩).rename f := by
      rw [Keyed.get?_map fun _ => FilterBinding.rename f]
      cases filters.get? field.name <;> rfl
    rw [binding, param?_rename, Option.isSome_map]
    split
    · rfl
    · have stored := Keyed.map_insert (fun _ => FilterBinding.rename f) field.name
        (((filters.get? field.name).getD ⟨field.name, filterType, []⟩).bind family op param.rawName) filters
      simp only [Except.map, stored]
      congr 2
      exact bind_rename f _ family op param.rawName

theorem resolveScalar_rename (request : Message) (param : Parameter) :
    resolveScalar request (param.rename f) = (resolveScalar request param).map (·.rename f) := by
  unfold resolveScalar
  simp only [Parameter.rename]
  split
  · rfl
  · split <;> rfl

namespace Draft

theorem keep_rename (draft : Draft) (param : Parameter) :
    (draft.rename f).keep (param.rename f) = (draft.keep param).rename f := by
  simp [keep, rename]

theorem drop_rename (draft : Draft) (param : Parameter) :
    (draft.rename f).drop (param.rename f) = (draft.drop param).rename f := by
  simp only [drop, Parameter.rename]
  split <;> rfl

theorem reject_rename (draft : Draft) (param : Parameter) (finding : Finding) :
    (draft.rename f).reject (param.rename f) finding = (draft.reject param finding).rename f :=
  drop_rename f { draft with findings := draft.findings ++ [finding] } param

/-- One step: taking a renamed parameter into a renamed draft. -/
theorem add_rename (registry : Registry) (request : Message) (draft : Draft) (param : Parameter) :
    add registry request (draft.rename f) (param.rename f) =
      (add registry request draft param).map (·.rename f) := by
  have location : (param.rename f).location = param.location := rfl
  have operator : (param.rename f).operator = param.operator := rfl
  have filters : (draft.rename f).filters =
    draft.filters.map fun (field, binding) => (field, binding.rename f) := rfl
  simp only [add, location, operator, filters, resolveKey_rename, resolveFilter_rename,
    resolveScalar_rename]
  split
  · cases resolveKey registry request param with
    | error finding => rfl
    | ok key => exact congrArg Except.ok (keep_rename f { draft with key := some key } param)
  · split
    · rename_i op _
      cases resolveFilter registry request param op draft.filters with
      | error finding => exact congrArg Except.ok (reject_rename f draft param finding)
      | ok filters => exact congrArg Except.ok (keep_rename f { draft with filters } param)
    · cases resolveScalar request param with
      | error finding => exact congrArg Except.ok (reject_rename f draft param finding)
      | ok scalar =>
        have stored : (draft.rename f).scalars ++ [scalar.rename f] =
            (draft.scalars ++ [scalar]).map (·.rename f) := by simp [rename]
        simp only [Except.map, stored]
        exact congrArg Except.ok
          (keep_rename f { draft with scalars := draft.scalars ++ [scalar] } param)
  · exact congrArg Except.ok (drop_rename f draft param)
  · exact congrArg Except.ok (drop_rename f draft param)

private theorem foldlM_rename (registry : Registry) (request : Message) (params : List Parameter)
    (draft : Draft) :
    (params.map (·.rename f)).foldlM (add registry request) (draft.rename f) =
      (params.foldlM (add registry request) draft).map (·.rename f) := by
  induction params generalizing draft with
  | nil => rfl
  | cons param rest ih =>
    rw [List.map_cons, List.foldlM_cons, List.foldlM_cons, add_rename]
    cases add registry request draft param with
    | error findings => rfl
    | ok next => exact ih next

/-- The whole run: renamed parameters give the renamed bindings and the same findings. -/
theorem addAll_rename (registry : Registry) (request : Message) (params : List Parameter) :
    addAll registry request (params.map (·.rename f)) =
      (addAll registry request params).map (·.rename f) :=
  foldlM_rename f registry request params {}

end Draft

theorem groupMembers_rename (request : Message) (params : List Parameter) (group : String) :
    groupMembers request (params.map (·.rename f)) group =
      sortedNames ((groupMembers request params group).map f) := by
  have chosen : (params.map (·.rename f)).filter (inGroup request group) =
      (params.filter (inGroup request group)).map (·.rename f) := by
    rw [List.filter_map]
    rfl
  have renamed : ((params.map (·.rename f)).filter (inGroup request group)).map (·.rawName) =
      ((params.filter (inGroup request group)).map (·.rawName)).map f := by
    rw [chosen, List.map_map, List.map_map]
    rfl
  apply sortedNames_congr
  intro name
  rw [renamed]
  simp only [groupMembers, List.mem_map, mem_sortedNames]

theorem groupNames_rename (request : Message) (params : List Parameter)
    (unresolved : Keyed (List String)) :
    groupNames request (params.map (·.rename f)) unresolved = groupNames request params unresolved := by
  rw [groupNames, List.filterMap_map]
  rfl

theorem checkGroup_rename (request : Message) (params : List Parameter)
    (unresolved : Keyed (List String)) (name : String) :
    checkGroup request (params.map (·.rename f)) unresolved name =
      (checkGroup request params unresolved name).map (·.rename f) := by
  rw [checkGroup, checkGroup, groupMembers_rename]
  cases unresolved.get? name with
  | some foreign => rfl
  | none =>
    cases members : groupMembers request params name with
    | nil => rfl
    | cons first rest =>
      have nonempty : sortedNames ((first :: rest).map f) ≠ [] := by simp
      rcases renamed : sortedNames ((first :: rest).map f) with _ | ⟨other, others⟩
      · contradiction
      · simp only [Except.map, RequiredGroup.rename, renamed]

theorem requiredGroups_rename (request : Message) (params : List Parameter)
    (unresolved : Keyed (List String)) :
    requiredGroups request (params.map (·.rename f)) unresolved =
      ((requiredGroups request params unresolved).1.map (·.rename f),
        (requiredGroups request params unresolved).2) := by
  have checked : checkGroup request (params.map (·.rename f)) unresolved =
      fun name => (checkGroup request params unresolved name).map (·.rename f) :=
    funext (checkGroup_rename f request params unresolved)
  simp only [requiredGroups, groupNames_rename, checked, List.filterMap_map, List.map_filterMap,
    Prod.mk.injEq]
  constructor
  · congr 1
    funext name
    simp only [Function.comp_apply]
    cases checkGroup request params unresolved name <;> rfl
  · congr 1
    funext name
    simp only [Function.comp_apply]
    cases checkGroup request params unresolved name <;> rfl

def Outcome.rename (outcome : Outcome) : Outcome :=
  { outcome with endpoint := outcome.endpoint.map (·.rename f) }

def EndpointModel.rename (model : EndpointModel) : EndpointModel :=
  { model with endpoints := model.endpoints.map (·.rename f) }

theorem assemble_rename (options : BuildOptions) (operation : Rest.Operation) (resource : String)
    (exchange : Exchange) (draft : Draft) :
    assemble options operation resource exchange (draft.rename f) =
      ((assemble options operation resource exchange draft).1.rename f,
        (assemble options operation resource exchange draft).2) := by
  have values : (draft.rename f).filters.values = draft.filters.values.map (·.rename f) := by
    simp [Draft.rename, Keyed.values]
  simp only [assemble, values]
  simp only [Draft.rename, requiredGroups_rename]
  rfl

/-- Parameters whose flattened forms differ by their raw names only give the same endpoint. -/
theorem buildEndpoint_rename (schema : Schema) (options : BuildOptions)
    (operation : Rest.Operation) (resource : String) {raws renamed : List RawParameter}
    (keys : keyCount renamed = keyCount raws)
    (flattened : ∀ exchange, findExchange schema resource (kindOf raws) = .ok exchange →
      flattenAll schema options.registry exchange.request renamed =
        (flattenAll schema options.registry exchange.request raws).map (·.rename f)) :
    buildEndpoint schema options operation resource renamed =
      (buildEndpoint schema options operation resource raws).map
        fun (endpoint, findings) => (endpoint.rename f, findings) := by
  have kind : kindOf renamed = kindOf raws := by rw [kindOf, keys, kindOf]
  rw [buildEndpoint, buildEndpoint, kind, keys]
  cases found : findExchange schema resource (kindOf raws) with
  | error finding => rfl
  | ok exchange =>
    simp only [flattened exchange found, Draft.addAll_rename]
    split
    · rfl
    · cases Draft.addAll options.registry exchange.request
          (flattenAll schema options.registry exchange.request raws) with
      | error findings => rfl
      | ok draft => exact congrArg Except.ok (assemble_rename f options operation resource exchange draft)

private theorem dropDuplicates_rename (endpoints : List Endpoint) (seen : Keyed String) :
    dropDuplicates seen (endpoints.map (·.rename f)) =
      ((dropDuplicates seen endpoints).1.map (·.rename f), (dropDuplicates seen endpoints).2) := by
  induction endpoints generalizing seen with
  | nil => rfl
  | cons endpoint rest ih =>
    have handler : (endpoint.rename f).handlerName = endpoint.handlerName := rfl
    have location : (endpoint.rename f).location = endpoint.location := rfl
    simp only [List.map_cons, dropDuplicates, handler, location]
    cases seen.get? endpoint.handlerName <;> simp only [ih, List.map_cons]

/-- The outcomes of all operations determine a model; renaming them renames it. -/
theorem buildEndpoints_rename {before after : Rest.Description} {schema : Schema}
    {options : BuildOptions}
    (outcomes : after.operations.map (buildOperation after schema options) =
      (before.operations.map (buildOperation before schema options)).map (·.rename f)) :
    buildEndpoints after schema options = (buildEndpoints before schema options).rename f := by
  have ordered (endpoints : List Endpoint) :
      (endpoints.map (·.rename f)).mergeSort Endpoint.precedes =
        (endpoints.mergeSort Endpoint.precedes).map (·.rename f) :=
    (List.map_mergeSort (by intros; rfl)).symm
  have endpoints (outcomes : List Outcome) :
      (outcomes.map (·.rename f)).filterMap (·.endpoint) =
        (outcomes.filterMap (·.endpoint)).map (·.rename f) := by
    rw [List.filterMap_map, List.map_filterMap]
    rfl
  have diagnostics (outcomes : List Outcome) :
      (outcomes.map (·.rename f)).flatMap (·.diagnostics) = outcomes.flatMap (·.diagnostics) := by
    rw [List.flatMap_map]
    rfl
  simp only [buildEndpoints, outcomes, endpoints, diagnostics, ordered, dropDuplicates_rename]
  rfl

end QuerySynth
