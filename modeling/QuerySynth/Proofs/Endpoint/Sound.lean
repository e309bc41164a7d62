import QuerySynth.Proofs.Endpoint.Build
import QuerySynth.Proofs.Endpoint.Draft

/-! # Sound endpoints

Whatever the description, the schema and the registry, an endpoint fits its request message: a key
exactly for a Get, filters that their families support, and bindings that account for every parameter
of the endpoint. Required groups and the fields of the response are not spoken of here.
-/

namespace QuerySynth

/-- An endpoint whose bindings fit its request and account for its parameters. -/
structure Endpoint.Sound (registry : Registry) (request : Message) (endpoint : Endpoint) : Prop where
  /-- Exactly a Get has a key. -/
  get_iff : endpoint.kind = .get ↔ endpoint.key.isSome
  /-- The parameter of the key is the only one in the path. -/
  paths : endpoint.params.filter (·.location = .path) = endpoint.key.toList.map (·.param)
  /-- There are no headers and cookies. -/
  carried : ∀ param ∈ endpoint.params, param.location = .path ∨ param.location = .query
  /-- The fields of the filters increase. -/
  increasing : (endpoint.filters.map (·.field)).Pairwise (· < ·)
  filters : ∀ binding ∈ endpoint.filters, binding.Sound registry request
  /-- The filters hold the query parameters with an operator, each once. -/
  operators : (endpoint.filters.flatMap (·.uses)).Perm (endpoint.params.filterMap (·.filterUse?))
  /-- The plain bindings hold the query parameters without operator, in order. -/
  scalars : endpoint.scalars.map (fun scalar => (scalar.field, scalar.param)) =
    endpoint.params.filterMap (·.plainUse?)
  plain : ∀ scalar ∈ endpoint.scalars, (request.field? scalar.field).isSome

namespace Endpoint.Sound

variable {registry : Registry} {request : Message} {endpoint : Endpoint} {param : Parameter}

/-- A field has at most one filter. -/
theorem nodup_fields (sound : endpoint.Sound registry request) :
    (endpoint.filters.map (·.field)).Nodup := by
  refine sound.increasing.imp ?_
  intro a b below same
  exact String.lt_irrefl _ (same ▸ below)

/-- A List takes nothing from the path. -/
theorem location_eq_query (sound : endpoint.Sound registry request) (kind : endpoint.kind = .list)
    (member : param ∈ endpoint.params) : param.location = .query := by
  rcases sound.carried param member with path | query
  · have keyed : param ∈ endpoint.key.toList.map (·.param) := by
      rw [← sound.paths]
      exact List.mem_filter.mpr ⟨member, decide_eq_true path⟩
    cases present : endpoint.key with
    | none => simp [present] at keyed
    | some key =>
      have get := sound.get_iff.mpr (by rw [present]; rfl)
      rw [kind] at get
      exact absurd get (by decide)
  · exact query

/-- The key of a Get is its only path parameter. -/
theorem exists_key (sound : endpoint.Sound registry request) (kind : endpoint.kind = .get) :
    ∃ key, endpoint.key = some key ∧ endpoint.params.filter (·.location = .path) = [key.param] := by
  obtain ⟨key, present⟩ := Option.isSome_iff_exists.mp (sound.get_iff.mp kind)
  refine ⟨key, present, ?_⟩
  rw [sound.paths, present]
  rfl

/-- The first plain binding of a field is that of the first plain parameter. -/
theorem find?_scalars (sound : endpoint.Sound registry request) {field : String}
    (first : endpoint.params.find? (fun other =>
      other.location = .query ∧ other.operator = none ∧ other.field = field) = some param) :
    ∃ scalar, endpoint.scalars.find? (·.field == field) = some scalar ∧ scalar.field = field ∧
      scalar.param = param.rawName := by
  have decided : (fun other : Parameter =>
        decide (other.location = .query ∧ other.operator = none ∧ other.field = field)) =
      fun other => other.plainUse?.any (·.1 == field) := by
    funext other
    rw [Parameter.plainUse?]
    cases other.location <;> cases other.operator <;> simp [Bool.beq_eq_decide_eq]
  have pairs := congrArg (List.find? (·.1 == field)) sound.scalars
  rw [List.find?_map, List.find?_filterMap, ← decided, first, Option.bind_some] at pairs
  obtain ⟨query, plain, rfl⟩ : param.location = .query ∧ param.operator = none ∧ param.field = field := by
    simpa using List.find?_some first
  rw [Parameter.plainUse?, query, plain] at pairs
  obtain ⟨scalar, found, same⟩ := Option.map_eq_some_iff.mp pairs
  obtain ⟨field, raw⟩ := Prod.mk.inj same
  exact ⟨scalar, found, field, raw⟩

end Endpoint.Sound

namespace Draft

variable {registry : Registry} {request : Message} {params : List Parameter} {draft : Draft}

theorem sound_empty : Sound registry request {} where
  sorted := Keyed.sorted_nil
  named := by simp
  filters := by simp
  operators := by simp
  scalars := rfl
  plain := by simp
  carried := by simp
  key := rfl

/-- A complete draft is sound. -/
theorem sound_addAll (complete : addAll registry request params = .ok draft) :
    draft.Sound registry request := by
  refine invariant_addAll (P := fun _ draft => draft.Sound registry request) sound_empty ?_ complete
  intro _ draft param next sound step
  exact sound_step sound step

/-- A complete draft has kept all path parameters. -/
theorem paths_addAll (complete : addAll registry request params = .ok draft) :
    draft.params.filter (·.location = .path) = params.filter (·.location = .path) := by
  refine invariant_addAll (P := fun taken draft =>
    draft.params.filter (·.location = .path) = taken.filter (·.location = .path)) rfl ?_ complete
  intro taken draft param next same step
  cases step with
  | key key location resolved => simp [same]
  | filter op filters location operator resolved => simp [same]
  | scalar scalar location operator resolved => simp [same]
  | reject finding location failed => simp [same, location]
  | ignore location => rcases location with header | cookie <;> simp [*]

/-- With at most one path parameter, the key is its binding. -/
theorem key_addAll (complete : addAll registry request params = .ok draft)
    (single : (params.filter (·.location = .path)).length ≤ 1) :
    draft.params.filter (·.location = .path) = draft.key.toList.map (·.param) := by
  have last := (sound_addAll complete).key
  rw [← paths_addAll complete] at single
  cases paths : draft.params.filter (·.location = .path) with
  | nil =>
    rw [paths, List.getLast?_nil] at last
    have absent := Option.map_eq_none_iff.mp last.symm
    rw [absent]
    rfl
  | cons first rest =>
    rw [paths, List.length_cons] at single
    obtain rfl : rest = [] := List.length_eq_zero_iff.mp (by omega)
    rw [paths, List.getLast?_singleton] at last
    obtain ⟨key, present, rfl⟩ := Option.map_eq_some_iff.mp last.symm
    rw [present]
    rfl

/-- The key of a complete draft fits the request. -/
theorem resolveKey_addAll (complete : addAll registry request params = .ok draft) :
    ∀ key, draft.key = some key → resolveKey registry request key.param = .ok key := by
  refine invariant_addAll (P := fun _ draft =>
    ∀ key, draft.key = some key → resolveKey registry request key.param = .ok key) (by simp) ?_ complete
  intro _ draft param next fits step
  cases step with
  | key key location resolved =>
    intro other present
    obtain rfl := Option.some.inj present
    rwa [param_of_resolveKey resolved]
  | filter op filters location operator resolved => exact fits
  | scalar scalar location operator resolved => exact fits
  | reject finding location failed => simpa using fits
  | ignore location => simpa using fits

end Draft

/-- The family of a key that is a filter can be asked for equality. -/
theorem exists_family_of_buildEndpoint {schema : Schema} {options : BuildOptions}
    {operation : Rest.Operation} {resource : String} {raws : List RawParameter} {endpoint : Endpoint}
    {findings : List Finding}
    (built : buildEndpoint schema options operation resource raws = .ok (endpoint, findings))
    {key : KeyBinding} (present : endpoint.key = some key) {filterType : String}
    (held : key.value = .filter filterType) :
    ∃ family, options.registry.get? filterType = some family ∧ family.supports .eq = true := by
  obtain ⟨exchange, draft, -, -, complete, assembled⟩ := buildEndpoint_eq_ok_iff.mp built
  obtain rfl : (assemble options operation resource exchange draft).1 = endpoint := by rw [assembled]
  exact exists_family_of_resolveKey (Draft.resolveKey_addAll complete key present) held

/-- An endpoint that was built is sound for the request that serves it. -/
theorem sound_of_buildEndpoint {schema : Schema} {options : BuildOptions} {operation : Rest.Operation}
    {resource : String} {raws : List RawParameter} {endpoint : Endpoint} {findings : List Finding}
    (built : buildEndpoint schema options operation resource raws = .ok (endpoint, findings)) :
    ∃ request, schema.request? endpoint.resource endpoint.kind = some request ∧
      endpoint.requestMessage = request.name ∧ endpoint.Sound options.registry request := by
  obtain ⟨exchange, draft, found, few, complete, assembled⟩ := buildEndpoint_eq_ok_iff.mp built
  obtain ⟨kind, serves⟩ := request?_of_findExchange found
  have sound := Draft.sound_addAll complete
  have keys := length_filter_flattenAll schema options.registry exchange.request raws
  have paths := Draft.key_addAll complete (by omega)
  obtain rfl : (assemble options operation resource exchange draft).1 = endpoint := by rw [assembled]
  refine ⟨exchange.request, ?_, rfl, ?_⟩
  · rw [← serves, ← kind]
    rfl
  · exact {
      get_iff := by
        have count : keyCount raws = draft.key.toList.length := by
          rw [← keys, ← Draft.paths_addAll complete, paths, List.length_map]
        change exchange.kind = .get ↔ draft.key.isSome
        rw [kind, kindOf, count]
        cases draft.key <;> simp
      paths := paths
      carried := sound.carried
      increasing := by
        have names : draft.filters.values.map (·.field) = draft.filters.keys := by
          rw [Keyed.values, Keyed.keys, List.map_map]
          exact List.map_congr_left sound.named
        change (draft.filters.values.map (·.field)).Pairwise (· < ·)
        rw [names]
        exact Keyed.pairwise_keys sound.sorted
      filters := by
        intro binding member
        obtain ⟨entry, present, rfl⟩ := List.mem_map.mp member
        exact sound.filters entry present
      operators := by
        have uses : draft.filters.values.flatMap (·.uses) = draft.filters.flatMap (·.2.uses) := by
          rw [Keyed.values, List.flatMap_map]
        change (draft.filters.values.flatMap (·.uses)).Perm _
        rw [uses]
        exact sound.operators
      scalars := sound.scalars
      plain := sound.plain }

/-- Every endpoint of a model is sound for the request message that serves its resource. -/
theorem sound_of_mem_endpoints {description : Rest.Description} {schema : Schema}
    {options : BuildOptions} {endpoint : Endpoint}
    (member : endpoint ∈ (buildEndpoints description schema options).endpoints) :
    ∃ request, schema.request? endpoint.resource endpoint.kind = some request ∧
      endpoint.requestMessage = request.name ∧ endpoint.Sound options.registry request := by
  obtain ⟨operation, -, present⟩ := exists_operation_of_mem_endpoints member
  obtain ⟨-, resource, findings, -, built⟩ := endpoint_buildOperation_eq_some_iff.mp present
  exact sound_of_buildEndpoint built

/-- The owner's List has a sound endpoint. -/
theorem sound_ownerEndpoint :
    ∃ endpoint ∈ (buildEndpoints ownerDescription ownerSchema ownerOptions).endpoints,
      ∃ request, ownerSchema.request? endpoint.resource endpoint.kind = some request ∧
        endpoint.requestMessage = request.name ∧ endpoint.Sound ownerOptions.registry request := by
  obtain ⟨endpoint, member⟩ := List.exists_mem_of_ne_nil _ endpoints_owner_ne_nil
  exact ⟨endpoint, member, sound_of_mem_endpoints member⟩

end QuerySynth
