import QuerySynth.Proofs.Endpoint.Finding
import QuerySynth.Proofs.Rest.Operations

/-! # Every operation is accounted for

A GET operation has exactly one endpoint, or none and a warning at its place; any other operation has
a note at its place, and two under `trace`, which is iterated twice. An endpoint keeps the parameters
that their fates keep, and its place has one warning for every other query parameter.
-/

namespace QuerySynth

open Rest

section Lists

variable {α β : Type} {l : List α} {p : β → Bool} {q : α → Bool}

theorem filter_flatMap_eq {f : α → List β} (same : ∀ a ∈ l, ∀ b ∈ f a, p b = q a) :
    (l.flatMap f).filter p = (l.filter q).flatMap f := by
  induction l with
  | nil => rfl
  | cons a rest ih =>
    have later := ih fun a member => same a (List.mem_cons_of_mem _ member)
    have here := same a List.mem_cons_self
    rw [List.flatMap_cons, List.filter_append, later, List.filter_cons]
    split
    · rename_i chosen
      have all : (f a).filter p = f a :=
        List.filter_eq_self.mpr fun b member => by rw [here b member, chosen]
      rw [all, List.flatMap_cons]
    · rename_i refused
      have none : (f a).filter p = [] :=
        List.filter_eq_nil_iff.mpr fun b member => by rw [here b member]; exact refused
      rw [none, List.nil_append]

theorem filter_filterMap_eq {f : α → Option β} (same : ∀ a ∈ l, ∀ b ∈ f a, p b = q a) :
    (l.filterMap f).filter p = (l.filter q).filterMap f := by
  have lists (l : List α) : l.filterMap f = l.flatMap fun a => (f a).toList := by
    rw [List.filterMap_eq_flatMap_toList]
  rw [lists, lists]
  apply filter_flatMap_eq
  intro a member b present
  exact same a member b (Option.mem_toList.mp present)

end Lists

section Operation

variable {description : Description} {schema : Schema} {options : BuildOptions} {operation : Operation}
  {endpoint : Endpoint}

theorem buildOperation_of_not_get (other : operation.method ≠ "get") :
    buildOperation description schema options operation =
      ⟨none, [Finding.notGet.report operation.location]⟩ := by
  rw [buildOperation, if_pos other]
  rfl

/-- All reports of an operation are at its place. -/
theorem location_of_mem_diagnostics {d : Diagnostic}
    (member : d ∈ (buildOperation description schema options operation).diagnostics) :
    d.location = operation.location := by
  have placed {findings : List Finding} (member : d ∈ findings.map (·.report operation.location)) :
      d.location = operation.location := by
    obtain ⟨finding, -, rfl⟩ := List.mem_map.mp member
    rfl
  rw [buildOperation] at member
  dsimp only at member
  split at member
  · exact placed member
  · split at member
    · exact placed member
    · split at member <;> exact placed member

/-- An endpoint is placed like its operation. -/
theorem location_of_endpoint
    (present : (buildOperation description schema options operation).endpoint = some endpoint) :
    operation.method = "get" ∧ endpoint.path = operation.path ∧
      endpoint.location = operation.location := by
  obtain ⟨isGet, resource, findings, -, built⟩ := endpoint_buildOperation_eq_some_iff.mp present
  obtain ⟨exchange, draft, -, -, -, assembled⟩ := buildEndpoint_eq_ok_iff.mp built
  obtain rfl : (assemble options operation resource exchange draft).1 = endpoint := by rw [assembled]
  exact ⟨isGet, rfl, rfl⟩

/-- A GET operation without endpoint has a warning. -/
theorem exists_warning_of_no_endpoint (isGet : operation.method = "get")
    (absent : (buildOperation description schema options operation).endpoint = none) :
    ∃ d ∈ (buildOperation description schema options operation).diagnostics, d.severity = .warning := by
  rw [buildOperation] at absent ⊢
  simp only [isGet, ne_eq, not_true_eq_false, if_false] at absent ⊢
  cases serves : resource? operation.path (options.basePath.getD description.basePath) with
  | none => exact ⟨_, List.mem_cons_self, rfl⟩
  | some resource =>
    simp only [serves] at absent ⊢
    cases built : buildEndpoint schema options operation resource
        (collect description.document operation.path "get").1 with
    | ok result => simp [built] at absent
    | error findings =>
      obtain ⟨finding, member, warns⟩ := exists_warning_of_buildEndpoint built
      refine ⟨finding.report operation.location, ?_, warns⟩
      exact List.mem_map_of_mem (List.mem_append_right _ member)

def operationFates (description : Description) (schema : Schema) (options : BuildOptions)
    (operation : Operation) (request : Message) : List (Parameter × Fate) :=
  fates options.registry request []
    (flattenAll schema options.registry request
      (collect description.document operation.path operation.method).1)

/-- Findings about single parameters are warnings that are told apart by their kinds. -/
private theorem filter_report_of_mem (findings : List Finding) (place : String)
    (kinds : ∀ finding ∈ findings, finding.kind ∈ parameterKinds) :
    (findings.map (·.report place)).filter (fun d => d.severity = .warning ∧ d.kind ∈ parameterKinds) =
      findings.map (·.report place) := by
  rw [List.filter_eq_self]
  intro d member
  obtain ⟨finding, inside, rfl⟩ := List.mem_map.mp member
  have known := kinds finding inside
  have warns : finding.severity = .warning := by
    apply Finding.severity_eq_warning
    intro other
    rw [other] at known
    revert known
    decide
  exact decide_eq_true ⟨warns, known⟩

private theorem filter_report_of_notMem (findings : List Finding) (place : String)
    (kinds : ∀ finding ∈ findings, finding.kind ∉ parameterKinds) :
    (findings.map (·.report place)).filter (fun d => d.severity = .warning ∧ d.kind ∈ parameterKinds) =
      [] := by
  rw [List.filter_eq_nil_iff]
  intro d member chosen
  obtain ⟨finding, inside, rfl⟩ := List.mem_map.mp member
  exact kinds finding inside (of_decide_eq_true chosen).2

/-- An operation with an endpoint reports what was found in its entries, in its parameters and in its
required groups. -/
theorem diagnostics_of_buildEndpoint {resource : String} {findings : List Finding}
    (isGet : operation.method = "get")
    (serves : Rest.resource? operation.path (options.basePath.getD description.basePath) = some resource)
    (built : buildEndpoint schema options operation resource
      (collect description.document operation.path operation.method).1 = .ok (endpoint, findings)) :
    (buildOperation description schema options operation).diagnostics =
      ((collect description.document operation.path operation.method).2 ++ findings).map
        (·.report operation.location) := by
  rw [isGet] at built
  simp only [buildOperation, isGet, ne_eq, not_true_eq_false, if_false, serves, built]

/-- An endpoint keeps the parameters that their fates keep, and the others are reported. -/
theorem fates_of_endpoint
    (present : (buildOperation description schema options operation).endpoint = some endpoint) :
    ∃ request, schema.request? endpoint.resource endpoint.kind = some request ∧
      endpoint.params = keptParams (operationFates description schema options operation request) ∧
      (buildOperation description schema options operation).diagnostics.filter
          (fun d => d.severity = .warning ∧ d.kind ∈ parameterKinds) =
        (paramFindings (operationFates description schema options operation request)).map
          (·.report operation.location) := by
  obtain ⟨isGet, resource, findings, serves, built⟩ := endpoint_buildOperation_eq_some_iff.mp present
  have reports := diagnostics_of_buildEndpoint isGet serves built
  obtain ⟨exchange, draft, found, -, complete, assembled⟩ := buildEndpoint_eq_ok_iff.mp built
  obtain ⟨kind, request⟩ := request?_of_findExchange found
  have follows := Draft.follows_addAll complete
  obtain rfl : (assemble options operation resource exchange draft).1 = endpoint := by rw [assembled]
  obtain rfl : draft.findings ++
      (requiredGroups exchange.request draft.params draft.unresolvedGroups).2 = findings :=
    congrArg Prod.snd assembled
  rw [← kind] at request
  refine ⟨exchange.request, request, follows.params, ?_⟩
  have entries := filter_report_of_notMem
    (collect description.document operation.path operation.method).2 operation.location (by
      intro finding member
      rw [kind_of_collect member]
      decide)
  have params := filter_report_of_mem draft.findings operation.location (by
    intro finding member
    rw [follows.findings] at member
    exact kind_of_mem_paramFindings member)
  have groups := filter_report_of_notMem
    (requiredGroups exchange.request draft.params draft.unresolvedGroups).2 operation.location (by
      intro finding member
      rw [kind_of_requiredGroups member]
      decide)
  rw [reports, List.map_append, List.map_append, List.filter_append, List.filter_append, entries, params,
    groups, List.nil_append, List.append_nil, follows.findings]
  rfl

end Operation

theorem dropDuplicates_of_taken {seen : Keyed String} {endpoint : Endpoint} {first : String}
    (taken : seen.get? endpoint.handlerName = some first) (rest : List Endpoint) :
    dropDuplicates seen (endpoint :: rest) = ((dropDuplicates seen rest).1,
      (Finding.handlerTaken endpoint.handlerName first).report endpoint.location ::
        (dropDuplicates seen rest).2) := by
  rw [dropDuplicates, taken]

theorem dropDuplicates_of_free {seen : Keyed String} {endpoint : Endpoint}
    (free : seen.get? endpoint.handlerName = none) (rest : List Endpoint) :
    dropDuplicates seen (endpoint :: rest) =
      (endpoint :: (dropDuplicates (seen.insert endpoint.handlerName endpoint.location) rest).1,
        (dropDuplicates (seen.insert endpoint.handlerName endpoint.location) rest).2) := by
  rw [dropDuplicates, free]

/-- At a place without endpoints nothing is kept and nothing reported. -/
theorem dropDuplicates_of_none {place : String} (seen : Keyed String) {endpoints : List Endpoint}
    (absent : endpoints.filter (·.location = place) = []) :
    (dropDuplicates seen endpoints).1.filter (·.location = place) = [] ∧
      (dropDuplicates seen endpoints).2.filter (·.location = place) = [] := by
  induction endpoints generalizing seen with
  | nil => exact ⟨rfl, rfl⟩
  | cons endpoint rest ih =>
    by_cases here : endpoint.location = place
    · simp [here] at absent
    · rw [List.filter_cons_of_neg (by simp [here])] at absent
      cases known : seen.get? endpoint.handlerName with
      | some first =>
        obtain ⟨kept, reported⟩ := ih seen absent
        rw [dropDuplicates_of_taken known]
        refine ⟨kept, ?_⟩
        rw [List.filter_cons_of_neg (by simp [Finding.report, here])]
        exact reported
      | none =>
        obtain ⟨kept, reported⟩ := ih (seen.insert endpoint.handlerName endpoint.location) absent
        rw [dropDuplicates_of_free known]
        refine ⟨?_, reported⟩
        rw [List.filter_cons_of_neg (by simp [here])]
        exact kept

/-- The only endpoint of a place is kept, or dropped with a warning. -/
theorem dropDuplicates_of_single {place : String} (seen : Keyed String) {endpoints : List Endpoint}
    {endpoint : Endpoint} (single : endpoints.filter (·.location = place) = [endpoint]) :
    ((dropDuplicates seen endpoints).1.filter (·.location = place) = [endpoint] ∧
        (dropDuplicates seen endpoints).2.filter (·.location = place) = []) ∨
      ((dropDuplicates seen endpoints).1.filter (·.location = place) = [] ∧
        ∃ d ∈ (dropDuplicates seen endpoints).2, d.location = place ∧ d.severity = .warning) := by
  induction endpoints generalizing seen with
  | nil => simp at single
  | cons first rest ih =>
    by_cases here : first.location = place
    · rw [List.filter_cons_of_pos (by simp [here])] at single
      obtain ⟨rfl, absent⟩ := List.cons.inj single
      cases known : seen.get? first.handlerName with
      | some earlier =>
        rw [dropDuplicates_of_taken known]
        exact .inr ⟨(dropDuplicates_of_none seen absent).1, _, List.mem_cons_self, here, rfl⟩
      | none =>
        obtain ⟨kept, reported⟩ := dropDuplicates_of_none
          (seen.insert first.handlerName first.location) absent
        rw [dropDuplicates_of_free known]
        refine .inl ⟨?_, reported⟩
        rw [List.filter_cons_of_pos (by simp [here]), kept]
    · rw [List.filter_cons_of_neg (by simp [here])] at single
      cases known : seen.get? first.handlerName with
      | some earlier =>
        rw [dropDuplicates_of_taken known]
        rcases ih seen single with ⟨kept, reported⟩ | ⟨kept, d, member, placed, warns⟩
        · refine .inl ⟨kept, ?_⟩
          rw [List.filter_cons_of_neg (by simp [Finding.report, here])]
          exact reported
        · exact .inr ⟨kept, d, List.mem_cons_of_mem _ member, placed, warns⟩
      | none =>
        rw [dropDuplicates_of_free known]
        dsimp only
        rw [List.filter_cons_of_neg (by simp [here])]
        exact ih (seen.insert first.handlerName first.location) single

/-- What a model says about a GET operation that has an endpoint: the endpoint is the only one of its
path, it keeps the parameters whose fate is to be kept, and at its place every other path or query
parameter has one warning. -/
structure EndpointModel.Serves (model : EndpointModel) (description : Description) (schema : Schema)
    (options : BuildOptions) (operation : Operation) (endpoint : Endpoint) (request : Message) : Prop where
  single : model.endpoints.filter (·.path = operation.path) = [endpoint]
  served : schema.request? endpoint.resource endpoint.kind = some request
  kept : endpoint.params = keptParams (operationFates description schema options operation request)
  ignored : ∀ decided ∈ operationFates description schema options operation request,
    decided.2 = .ignored ↔ decided.1.location = .header ∨ decided.1.location = .cookie
  reported : model.diagnostics.filter (fun d => d.location = operation.location ∧ d.severity = .warning ∧
      d.kind ∈ parameterKinds) =
    (paramFindings (operationFates description schema options operation request)).map
      (·.report operation.location)

section Model

variable {description : Description} (schema : Schema) (options : BuildOptions) {operation : Operation}

/-- The reports of all operations that are placed at one are its own, once for each iteration. -/
theorem filter_outcome_diagnostics (member : operation ∈ description.operations) :
    ((description.operations.map (buildOperation description schema options)).flatMap
        (·.diagnostics)).filter (·.location = operation.location) =
      (List.replicate (iterations operation.method) operation).flatMap fun operation =>
        (buildOperation description schema options operation).diagnostics := by
  rw [List.flatMap_map, ← filter_location_operations member]
  apply filter_flatMap_eq
  intro other _ d present
  rw [location_of_mem_diagnostics present]

/-- The endpoints of all operations that are placed at one are its own. -/
theorem filter_outcome_endpoints (member : operation ∈ description.operations) :
    ((description.operations.map (buildOperation description schema options)).filterMap
        (·.endpoint)).filter (·.location = operation.location) =
      (buildOperation description schema options operation).endpoint.toList := by
  have chosen : ((description.operations.map (buildOperation description schema options)).filterMap
        (·.endpoint)).filter (·.location = operation.location) =
      (List.replicate (iterations operation.method) operation).filterMap fun operation =>
        (buildOperation description schema options operation).endpoint := by
    rw [List.filterMap_map, ← filter_location_operations member]
    apply filter_filterMap_eq
    intro other _ endpoint present
    rw [(location_of_endpoint present).2.2]
  rw [chosen]
  cases present : (buildOperation description schema options operation).endpoint with
  | none => exact List.filterMap_replicate_of_none present
  | some endpoint =>
    have once : iterations operation.method = 1 := by
      rw [(location_of_endpoint present).1]
      rfl
    rw [once]
    exact List.filterMap_replicate_of_some present

/-- The same endpoints in the order of the model. -/
theorem filter_sorted_endpoints (member : operation ∈ description.operations) :
    (((description.operations.map (buildOperation description schema options)).filterMap
        (·.endpoint)).mergeSort Endpoint.precedes).filter (·.location = operation.location) =
      (buildOperation description schema options operation).endpoint.toList := by
  have perm := (List.mergeSort_perm ((description.operations.map
    (buildOperation description schema options)).filterMap (·.endpoint)) Endpoint.precedes).filter
      (·.location = operation.location)
  rw [filter_outcome_endpoints schema options member] at perm
  cases present : (buildOperation description schema options operation).endpoint with
  | none =>
    rw [present] at perm
    exact perm.eq_nil
  | some endpoint =>
    rw [present] at perm
    exact List.perm_singleton.mp perm

/-- Among the endpoints of a model the path names the place. -/
theorem filter_path_endpoints (isGet : operation.method = "get")
    (member : operation ∈ description.operations) :
    (buildEndpoints description schema options).endpoints.filter (·.path = operation.path) =
      (buildEndpoints description schema options).endpoints.filter (·.location = operation.location) := by
  apply List.filter_congr
  intro endpoint present
  obtain ⟨other, inside, made⟩ := exists_operation_of_mem_endpoints present
  obtain ⟨otherGet, path, location⟩ := location_of_endpoint made
  rw [path, location, decide_eq_decide]
  constructor
  · intro same
    rw [Operation.location, Operation.location, Operation.verb, Operation.verb, otherGet, isGet, same]
  · intro same
    exact (eq_of_location_eq (mem_iteratedMethods inside) (mem_iteratedMethods member) same).2

/-- An operation that is no GET is noted once for each iteration. -/
theorem notes_of_not_get (member : operation ∈ description.operations)
    (other : operation.method ≠ "get") :
    (∀ endpoint ∈ (buildEndpoints description schema options).endpoints,
        endpoint.location ≠ operation.location) ∧
      (buildEndpoints description schema options).diagnostics.filter
          (·.location = operation.location) =
        List.replicate (iterations operation.method) (Finding.notGet.report operation.location) := by
  have absent := filter_sorted_endpoints schema options member
  rw [buildOperation_of_not_get other] at absent
  obtain ⟨kept, reported⟩ := dropDuplicates_of_none [] absent
  constructor
  · intro endpoint present placed
    have chosen : endpoint ∈ (buildEndpoints description schema options).endpoints.filter
        (·.location = operation.location) := List.mem_filter.mpr ⟨present, decide_eq_true placed⟩
    rw [buildEndpoints, kept] at chosen
    simp at chosen
  · rw [buildEndpoints, List.filter_append, filter_outcome_diagnostics schema options member, reported,
      List.append_nil]
    simp only [List.flatMap_replicate, buildOperation_of_not_get other, List.flatten_replicate_singleton]

/-- The reports at the place of a GET operation are its own and those of its endpoints. -/
theorem filter_diagnostics_of_get (member : operation ∈ description.operations)
    (isGet : operation.method = "get") :
    (buildEndpoints description schema options).diagnostics.filter (·.location = operation.location) =
      (buildOperation description schema options operation).diagnostics ++
        (dropDuplicates [] (((description.operations.map (buildOperation description schema
          options)).filterMap (·.endpoint)).mergeSort Endpoint.precedes)).2.filter
            (·.location = operation.location) := by
  have outcome := filter_outcome_diagnostics schema options member
  have once : iterations operation.method = 1 := by rw [isGet]; rfl
  rw [once, List.replicate_one, List.flatMap_singleton] at outcome
  rw [buildEndpoints, List.filter_append, outcome]

/-- An endpoint that is alone at its place serves its operation. -/
private theorem serves_of_single {endpoint : Endpoint} (member : operation ∈ description.operations)
    (isGet : operation.method = "get")
    (present : (buildOperation description schema options operation).endpoint = some endpoint)
    (kept : (buildEndpoints description schema options).endpoints.filter
      (·.location = operation.location) = [endpoint])
    (here : (buildEndpoints description schema options).diagnostics.filter
      (·.location = operation.location) =
        (buildOperation description schema options operation).diagnostics) :
    ∃ request, (buildEndpoints description schema options).Serves description schema options operation
      endpoint request := by
  obtain ⟨request, served, params, findings⟩ := fates_of_endpoint present
  refine ⟨request, ?_, served, params, ?_, ?_⟩
  · rw [filter_path_endpoints schema options isGet member]
    exact kept
  · intro decided inside
    obtain ⟨before, same⟩ := exists_fate_of_mem inside
    rw [same]
    exact fate_eq_ignored_iff
  · rw [← findings, ← here, List.filter_filter]
    apply List.filter_congr
    intro d _
    rw [Bool.eq_iff_iff]
    simp only [decide_eq_true_eq, Bool.and_eq_true]
    exact and_comm

/-- A GET operation has exactly one endpoint, or none and a warning. -/
theorem serves_or_warns_of_get (member : operation ∈ description.operations)
    (isGet : operation.method = "get") :
    (∃ endpoint request,
        (buildEndpoints description schema options).Serves description schema options operation endpoint
          request) ∨
      ((∀ endpoint ∈ (buildEndpoints description schema options).endpoints,
          endpoint.path ≠ operation.path) ∧
        ∃ d ∈ (buildEndpoints description schema options).diagnostics,
          d.location = operation.location ∧ d.severity = .warning) := by
  have sorted := filter_sorted_endpoints schema options member
  have here := filter_diagnostics_of_get schema options member isGet
  have noEndpoint (none : (buildEndpoints description schema options).endpoints.filter
      (·.location = operation.location) = []) :
      ∀ endpoint ∈ (buildEndpoints description schema options).endpoints, endpoint.path ≠ operation.path := by
    intro endpoint present same
    have chosen : endpoint ∈ (buildEndpoints description schema options).endpoints.filter
        (·.path = operation.path) := List.mem_filter.mpr ⟨present, decide_eq_true same⟩
    rw [filter_path_endpoints schema options isGet member, none] at chosen
    simp at chosen
  cases present : (buildOperation description schema options operation).endpoint with
  | none =>
    rw [present] at sorted
    obtain ⟨kept, reported⟩ := dropDuplicates_of_none [] sorted
    obtain ⟨d, inside, warns⟩ := exists_warning_of_no_endpoint isGet present
    refine .inr ⟨noEndpoint kept, d, ?_, location_of_mem_diagnostics inside, warns⟩
    rw [reported, List.append_nil] at here
    rw [← here] at inside
    exact (List.mem_filter.mp inside).1
  | some endpoint =>
    rw [present] at sorted
    rcases dropDuplicates_of_single [] sorted with ⟨kept, reported⟩ | ⟨kept, d, inside, placed, warns⟩
    · rw [reported, List.append_nil] at here
      exact .inl ⟨endpoint, serves_of_single schema options member isGet present kept here⟩
    · exact .inr ⟨noEndpoint kept, d, List.mem_append_right _ inside, placed, warns⟩

end Model

/-- No operation is lost: each has an endpoint, or a warning, or as many notes as its method is
iterated. -/
theorem buildEndpoints_accounts (description : Description) (schema : Schema) (options : BuildOptions)
    (operation : Operation) (member : operation ∈ description.operations) :
    (operation.method ≠ "get" →
      (∀ endpoint ∈ (buildEndpoints description schema options).endpoints,
          endpoint.location ≠ operation.location) ∧
        (buildEndpoints description schema options).diagnostics.filter
            (·.location = operation.location) =
          List.replicate (if operation.method = "trace" then 2 else 1)
            ⟨operation.location, .info, .unsupportedMethod, "only GET operations are generated"⟩) ∧
      (operation.method = "get" →
        (∃ endpoint request,
            (buildEndpoints description schema options).Serves description schema options operation endpoint
              request) ∨
          ((∀ endpoint ∈ (buildEndpoints description schema options).endpoints,
              endpoint.path ≠ operation.path) ∧
            ∃ d ∈ (buildEndpoints description schema options).diagnostics,
              d.location = operation.location ∧ d.severity = .warning)) :=
  ⟨notes_of_not_get schema options member, serves_or_warns_of_get schema options member⟩

/-- The owner's List has an endpoint, which keeps its parameter. -/
theorem serves_owner :
    ∃ endpoint request, (buildEndpoints ownerDescription ownerSchema ownerOptions).Serves ownerDescription
      ownerSchema ownerOptions ⟨"/items", "get", none⟩ endpoint request := by
  have member : (⟨"/items", "get", none⟩ : Operation) ∈ ownerDescription.operations := List.mem_cons_self
  have present : (buildEndpoints ownerDescription ownerSchema ownerOptions).endpoints.any
      (·.path = "/items") = true := by decide +kernel
  obtain ⟨endpoint, inside, path⟩ := List.any_eq_true.mp present
  rcases (buildEndpoints_accounts ownerDescription ownerSchema ownerOptions _ member).2 rfl with
    serves | ⟨absent, -⟩
  · exact serves
  · exact absurd (of_decide_eq_true path) (absent endpoint inside)

/-- A description of one operation under `trace`. -/
def traceDescription : Description :=
  ⟨strip (.obj [("info", .obj [("title", .str "Items"), ("version", .str "1")]), ("openapi", .str "3.0.0"),
    ("paths", .obj [("/items", .obj [("trace", .obj [])])])]), isOpenApi_strip rfl (by cbv), by decide⟩

/-- An operation that is no GET is not always noted once. -/
theorem two_notes_of_trace :
    ∃ operation ∈ traceDescription.operations, operation.method ≠ "get" ∧
      ((buildEndpoints traceDescription {} ownerOptions).diagnostics.filter fun d =>
        d.location = operation.location ∧ d.severity = .info ∧ d.kind = .unsupportedMethod).length = 2 :=
  ⟨⟨"/items", "trace", none⟩, List.mem_cons_self, by decide, by decide +kernel⟩

end QuerySynth
