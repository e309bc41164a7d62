import Mathlib.Data.Prod.Lex
import Mathlib.Data.String.Basic
import QuerySynth.Proofs.Endpoint.Account

/-! # The order of endpoints and their handlers

The endpoints that operations build differ in their paths, so the order of a model is strict. Of the
endpoints that share a handler name the first one in that order is kept, and each of the others has one
warning at its own place, which names the place of the first.
-/

namespace QuerySynth

open Rest

/-- What endpoints are ordered by. -/
def Endpoint.sortKey (endpoint : Endpoint) : String ×ₗ ℕ ×ₗ String :=
  toLex (endpoint.resource, toLex (endpoint.kind.rank, endpoint.path))

section Sorting

variable {a b : Endpoint}

theorem MethodKind.rank_injective {first second : MethodKind} (same : first.rank = second.rank) :
    first = second := by
  cases first <;> cases second <;> simp_all [MethodKind.rank]

theorem Endpoint.precedes_iff : a.precedes b = true ↔ a.sortKey ≤ b.sortKey := by
  rw [precedes, sortKey, sortKey, Prod.Lex.toLex_le_toLex, Prod.Lex.toLex_le_toLex]
  by_cases resource : a.resource = b.resource
  · by_cases kind : a.kind = b.kind
    · simp [resource, kind]
    · have rank : a.kind.rank ≠ b.kind.rank := fun same => kind (MethodKind.rank_injective same)
      simp [resource, kind, rank]
  · simp [resource]

theorem pairwise_mergeSort_precedes (endpoints : List Endpoint) :
    (endpoints.mergeSort Endpoint.precedes).Pairwise fun a b => a.sortKey ≤ b.sortKey := by
  refine (List.pairwise_mergeSort ?_ ?_ endpoints).imp Endpoint.precedes_iff.mp
  · intro a b c first second
    exact Endpoint.precedes_iff.mpr ((Endpoint.precedes_iff.mp first).trans (Endpoint.precedes_iff.mp second))
  · intro a b
    rw [Bool.or_eq_true, Endpoint.precedes_iff, Endpoint.precedes_iff]
    exact le_total _ _

end Sorting

/-- The endpoints that the operations of a description build, in the order of the operations. -/
def operationEndpoints (description : Description) (schema : Schema) (options : BuildOptions) :
    List Endpoint :=
  description.operations.filterMap fun operation =>
    (buildOperation description schema options operation).endpoint

/-- The same endpoints in the order of the model. -/
def sortedEndpoints (description : Description) (schema : Schema) (options : BuildOptions) :
    List Endpoint :=
  (operationEndpoints description schema options).mergeSort Endpoint.precedes

section Built

variable (description : Description) (schema : Schema) (options : BuildOptions)

/-- A model comes from the sorted endpoints and the reports of the operations. -/
theorem buildEndpoints_eq :
    buildEndpoints description schema options =
      ⟨(dropDuplicates [] (sortedEndpoints description schema options)).1,
        (description.operations.flatMap fun operation =>
          (buildOperation description schema options operation).diagnostics) ++
            (dropDuplicates [] (sortedEndpoints description schema options)).2⟩ := by
  rw [buildEndpoints, sortedEndpoints, operationEndpoints, List.filterMap_map, List.flatMap_map]
  rfl

theorem perm_sortedEndpoints :
    (sortedEndpoints description schema options).Perm (operationEndpoints description schema options) :=
  List.mergeSort_perm _ _

theorem filter_location_operationEndpoints {endpoint : Endpoint}
    (member : endpoint ∈ operationEndpoints description schema options) :
    (operationEndpoints description schema options).filter (·.location = endpoint.location) =
      [endpoint] := by
  obtain ⟨operation, inside, present⟩ := List.mem_filterMap.mp member
  have own := filter_outcome_endpoints schema options inside
  rw [List.filterMap_map] at own
  rw [(location_of_endpoint present).2.2]
  exact own.trans (by rw [present]; rfl)

/-- Items are apart when each is alone with its key. -/
private theorem nodup_map_of_filter {α κ : Type} [DecidableEq κ] {key : α → κ} {items : List α}
    (alone : ∀ item ∈ items, items.filter (fun other => key other = key item) = [item]) :
    (items.map key).Nodup := by
  induction items with
  | nil => exact List.nodup_nil
  | cons first rest ih =>
    have fresh : ∀ other ∈ rest, key other ≠ key first := by
      have here := alone first List.mem_cons_self
      rw [List.filter_cons_of_pos (by simp)] at here
      simpa using List.filter_eq_nil_iff.mp (List.cons.inj here).2
    refine List.nodup_cons.mpr ⟨?_, ih fun item member => ?_⟩
    · intro repeated
      obtain ⟨other, member, same⟩ := List.mem_map.mp repeated
      exact fresh other member same
    · have later := alone item (List.mem_cons_of_mem _ member)
      rwa [List.filter_cons_of_neg (by simpa using (fresh item member).symm)] at later

theorem nodup_locations : ((operationEndpoints description schema options).map (·.location)).Nodup :=
  nodup_map_of_filter fun _ member => filter_location_operationEndpoints description schema options member

/-- Endpoints of operations are placed alike when their paths are. -/
theorem location_eq_of_path {a b : Endpoint} (member : a ∈ operationEndpoints description schema options)
    (member' : b ∈ operationEndpoints description schema options) (same : a.path = b.path) :
    a.location = b.location := by
  obtain ⟨first, -, present⟩ := List.mem_filterMap.mp member
  obtain ⟨second, -, present'⟩ := List.mem_filterMap.mp member'
  obtain ⟨isGet, path, location⟩ := location_of_endpoint present
  obtain ⟨isGet', path', location'⟩ := location_of_endpoint present'
  rw [location, location', Operation.location, Operation.location, Operation.verb, Operation.verb, isGet,
    isGet', ← path, ← path', same]

/-- The sorted endpoints increase strictly, since no two have one path. -/
theorem pairwise_sortedEndpoints :
    (sortedEndpoints description schema options).Pairwise fun a b => a.sortKey < b.sortKey := by
  have perm := perm_sortedEndpoints description schema options
  have apart : (sortedEndpoints description schema options).Pairwise fun a b => a.location ≠ b.location :=
    List.pairwise_map.mp ((perm.map Endpoint.location).nodup_iff.mpr
      (nodup_locations description schema options))
  refine ((pairwise_mergeSort_precedes _).and apart).imp_of_mem ?_
  rintro a b member member' ⟨below, different⟩
  refine lt_of_le_of_ne below fun same => different ?_
  refine location_eq_of_path description schema options (perm.subset member) (perm.subset member') ?_
  exact congrArg (fun key => (ofLex (ofLex key).2).2) same

theorem nodup_sortedEndpoints : (sortedEndpoints description schema options).Nodup :=
  (pairwise_sortedEndpoints description schema options).imp fun below =>
    ne_of_apply_ne Endpoint.sortKey below.ne

theorem filter_location_sortedEndpoints {endpoint : Endpoint}
    (member : endpoint ∈ sortedEndpoints description schema options) :
    (sortedEndpoints description schema options).filter (·.location = endpoint.location) = [endpoint] := by
  have perm := perm_sortedEndpoints description schema options
  have alone := filter_location_operationEndpoints description schema options (perm.subset member)
  exact List.perm_singleton.mp (alone ▸ perm.filter (·.location = endpoint.location))

end Built

section Handlers

variable {endpoints : List Endpoint} {endpoint : Endpoint}

/-- An endpoint is kept when its name was not seen before and it is the first of that name. -/
theorem mem_dropDuplicates_iff {seen : Keyed String} :
    endpoint ∈ (dropDuplicates seen endpoints).1 ↔ seen.get? endpoint.handlerName = none ∧
      endpoints.find? (·.handlerName = endpoint.handlerName) = some endpoint := by
  induction endpoints generalizing seen with
  | nil => simp [dropDuplicates]
  | cons first rest ih =>
    cases known : seen.get? first.handlerName with
    | some place =>
      rw [dropDuplicates_of_taken known, ih]
      by_cases same : first.handlerName = endpoint.handlerName
      · simp [← same, known]
      · simp [same]
    | none =>
      rw [dropDuplicates_of_free known, List.mem_cons, ih, Keyed.get?_insert]
      by_cases same : first.handlerName = endpoint.handlerName
      · simp [← same, known, eq_comm]
      · have other : endpoint ≠ first := fun equal => same (equal ▸ rfl)
        simp [same, Ne.symm same, other]

/-- The endpoints that are kept have different handler names. -/
theorem nodup_dropDuplicates (seen : Keyed String) (endpoints : List Endpoint) :
    ((dropDuplicates seen endpoints).1.map (·.handlerName)).Nodup := by
  induction endpoints generalizing seen with
  | nil => simp [dropDuplicates]
  | cons first rest ih =>
    cases known : seen.get? first.handlerName with
    | some place =>
      rw [dropDuplicates_of_taken known]
      exact ih seen
    | none =>
      rw [dropDuplicates_of_free known]
      refine List.nodup_cons.mpr ⟨?_, ih _⟩
      intro repeated
      obtain ⟨other, kept, same⟩ := List.mem_map.mp repeated
      have unseen := (mem_dropDuplicates_iff.mp kept).1
      rw [same, Keyed.get?_insert_self] at unseen
      exact absurd unseen (by simp)

theorem nodup_handlerNames (description : Description) (schema : Schema) (options : BuildOptions) :
    ((buildEndpoints description schema options).endpoints.map (·.handlerName)).Nodup :=
  nodup_dropDuplicates [] _

/-- Where the first endpoint of a handler name is placed. -/
def firstPlace? (seen : Keyed String) (endpoints : List Endpoint) (name : String) : Option String :=
  (seen.get? name).or ((endpoints.find? (·.handlerName = name)).map (·.location))

/-- Whether a report says that a handler name is taken by an endpoint at a place. -/
def ReportsTaken (endpoint : Endpoint) (place : String) (report : Diagnostic) : Prop :=
  report = ⟨endpoint.location, .warning, .duplicateHandler,
    "handler '" ++ endpoint.handlerName ++ "' is already generated for " ++ place⟩

/-- Every endpoint that is not kept is reported with the place of the first of its name. -/
theorem forall₂_dropDuplicates (seen : Keyed String) (distinct : endpoints.Nodup) :
    List.Forall₂ (fun endpoint report => ∃ place,
        firstPlace? seen endpoints endpoint.handlerName = some place ∧ ReportsTaken endpoint place report)
      (endpoints.filter (· ∉ (dropDuplicates seen endpoints).1)) (dropDuplicates seen endpoints).2 := by
  induction endpoints generalizing seen with
  | nil => exact .nil
  | cons first rest ih =>
    obtain ⟨fresh, distinct⟩ := List.nodup_cons.mp distinct
    cases known : seen.get? first.handlerName with
    | some place =>
      have dropped : first ∉ (dropDuplicates seen rest).1 := fun kept =>
        absurd ((mem_dropDuplicates_iff.mp kept).1) (by simp [known])
      rw [dropDuplicates_of_taken known, List.filter_cons_of_pos (by simpa using dropped)]
      refine .cons ⟨place, by simp [firstPlace?, known], rfl⟩ ((ih seen distinct).imp ?_)
      rintro other report ⟨place', found, taken⟩
      refine ⟨place', ?_, taken⟩
      by_cases same : first.handlerName = other.handlerName
      · rw [firstPlace?, ← same, known] at found ⊢
        exact found
      · simpa [firstPlace?, List.find?_cons, same] using found
    | none =>
      have others : rest.filter (· ∉ first ::
            (dropDuplicates (seen.insert first.handlerName first.location) rest).1) =
          rest.filter (· ∉ (dropDuplicates (seen.insert first.handlerName first.location) rest).1) := by
        apply List.filter_congr
        intro other member
        simp [ne_of_mem_of_not_mem member fresh]
      rw [dropDuplicates_of_free known, List.filter_cons_of_neg (by simp), others]
      refine (ih _ distinct).imp ?_
      rintro other report ⟨place', found, taken⟩
      refine ⟨place', ?_, taken⟩
      rw [firstPlace?, Keyed.get?_insert] at found
      by_cases same : first.handlerName = other.handlerName
      · simpa [firstPlace?, List.find?_cons, ← same, known] using found
      · simpa [firstPlace?, List.find?_cons, same, Ne.symm same] using found

end Handlers

section Findings

variable {description : Description} {schema : Schema} {options : BuildOptions} {operation : Operation}
  {resource : String} {raws : List RawParameter} {findings : List Finding}

theorem kind_of_buildEndpoint {endpoint : Endpoint}
    (built : buildEndpoint schema options operation resource raws = .ok (endpoint, findings)) :
    ∀ finding ∈ findings, finding.kind ≠ .duplicateHandler := by
  obtain ⟨exchange, draft, -, -, complete, assembled⟩ := buildEndpoint_eq_ok_iff.mp built
  obtain rfl : draft.findings ++
      (requiredGroups exchange.request draft.params draft.unresolvedGroups).2 = findings :=
    congrArg Prod.snd assembled
  intro finding member taken
  rcases List.mem_append.mp member with param | group
  · rw [(Draft.follows_addAll complete).findings] at param
    exact absurd (taken ▸ kind_of_mem_paramFindings param) (by decide)
  · exact absurd (taken ▸ kind_of_requiredGroups group) (by decide)

theorem kind_of_buildEndpoint_error
    (failed : buildEndpoint schema options operation resource raws = .error findings) :
    ∀ finding ∈ findings, finding.kind ≠ .duplicateHandler := by
  intro finding member taken
  rcases buildEndpoint_eq_error failed with ⟨cause, refused, rfl⟩ | rfl | ⟨exchange, -, stopped⟩
  · obtain rfl := List.mem_singleton.mp member
    rcases kind_of_findExchange refused with kind | kind <;> simp [kind] at taken
  · obtain rfl := List.mem_singleton.mp member
    exact absurd taken (by simp [Finding.kind])
  · obtain ⟨_, draft, _, cause, complete, refused, rfl⟩ := Draft.addAll_eq_error stopped
    rcases List.mem_append.mp member with param | key
    · rw [(Draft.follows_addAll complete).findings] at param
      exact absurd (taken ▸ kind_of_mem_paramFindings param) (by decide)
    · obtain rfl := List.mem_singleton.mp key
      exact absurd (taken ▸ kind_of_resolveKey refused) (by decide)

/-- No operation reports that a handler name is taken. -/
theorem kind_of_mem_diagnostics {d : Diagnostic}
    (member : d ∈ (buildOperation description schema options operation).diagnostics) :
    d.kind ≠ .duplicateHandler := by
  have reported {findings : List Finding}
      (kinds : ∀ finding ∈ findings, finding.kind ≠ .duplicateHandler)
      (member : d ∈ findings.map (·.report operation.location)) : d.kind ≠ .duplicateHandler := by
    obtain ⟨finding, inside, rfl⟩ := List.mem_map.mp member
    exact kinds finding inside
  have after {findings : List Finding} (kinds : ∀ finding ∈ findings, finding.kind ≠ .duplicateHandler) :
      ∀ finding ∈ (collect description.document operation.path operation.method).2 ++ findings,
        finding.kind ≠ .duplicateHandler := by
    intro finding member
    rcases List.mem_append.mp member with entry | later
    · rw [kind_of_collect entry]
      decide
    · exact kinds finding later
  rw [buildOperation] at member
  dsimp only at member
  split at member
  · exact reported (by simp [Finding.kind]) member
  · split at member
    · exact reported (by simp [Finding.kind]) member
    · split at member
      · rename_i built
        exact reported (after (kind_of_buildEndpoint built)) member
      · rename_i failed
        exact reported (after (kind_of_buildEndpoint_error failed)) member

end Findings

/-- A model keeps the first of its endpoints for each handler name and reports the others. -/
structure EndpointModel.KeepsFirst (model : EndpointModel) (built : List Endpoint) : Prop where
  increasing : model.endpoints.Pairwise fun a b => a.sortKey < b.sortKey
  distinct : (model.endpoints.map (·.handlerName)).Nodup
  kept : ∀ endpoint, endpoint ∈ model.endpoints ↔
    built.find? (·.handlerName = endpoint.handlerName) = some endpoint
  /-- Every other endpoint has one warning at its place, which names that of the endpoint that is kept. -/
  reported : ∀ endpoint ∈ built, endpoint ∉ model.endpoints →
    ∃ first ∈ model.endpoints, first.handlerName = endpoint.handlerName ∧
      first.sortKey < endpoint.sortKey ∧
      model.diagnostics.filter (fun d => d.kind = .duplicateHandler ∧ d.location = endpoint.location) =
        [⟨endpoint.location, .warning, .duplicateHandler,
          "handler '" ++ endpoint.handlerName ++ "' is already generated for " ++ first.location⟩]
  /-- There are no such warnings about endpoints that are kept. -/
  only : ∀ d ∈ model.diagnostics, d.kind = .duplicateHandler →
    ∃ endpoint ∈ built, endpoint ∉ model.endpoints ∧ d.location = endpoint.location

/-- The first of several endpoints of one name comes before each of the others. -/
theorem sortKey_lt_of_find? {built : List Endpoint} {first endpoint : Endpoint}
    (increasing : built.Pairwise fun a b => a.sortKey < b.sortKey) (member : endpoint ∈ built)
    (found : built.find? (·.handlerName = endpoint.handlerName) = some first)
    (other : endpoint ≠ first) : first.sortKey < endpoint.sortKey := by
  obtain ⟨-, before, after, rfl, earlier⟩ := List.find?_eq_some_iff_append.mp found
  rcases List.mem_append.mp member with front | back
  · exact absurd (earlier endpoint front) (by simp)
  · rcases List.mem_cons.mp back with same | later
    · exact absurd same other
    · exact (List.pairwise_cons.mp (List.pairwise_append.mp increasing).2.1).1 endpoint later

section Model

variable (description : Description) (schema : Schema) (options : BuildOptions)

/-- The warnings about taken handler names are those of the endpoints that are not kept. -/
theorem filter_kind_diagnostics :
    (buildEndpoints description schema options).diagnostics.filter (·.kind = .duplicateHandler) =
      (dropDuplicates [] (sortedEndpoints description schema options)).2 := by
  have own : (description.operations.flatMap fun operation =>
      (buildOperation description schema options operation).diagnostics).filter
        (·.kind = .duplicateHandler) = [] := by
    rw [List.filter_eq_nil_iff]
    intro d member taken
    obtain ⟨operation, -, inside⟩ := List.mem_flatMap.mp member
    exact kind_of_mem_diagnostics inside (of_decide_eq_true taken)
  have others : (dropDuplicates [] (sortedEndpoints description schema options)).2.filter
      (·.kind = .duplicateHandler) =
        (dropDuplicates [] (sortedEndpoints description schema options)).2 := by
    rw [List.filter_eq_self]
    intro d member
    obtain ⟨endpoint, -, place, -, rfl⟩ := exists_left_of_mem
      (forall₂_dropDuplicates [] (nodup_sortedEndpoints description schema options)) member
    rfl
  rw [buildEndpoints_eq, List.filter_append, own, List.nil_append, others]

/-- A warning for each endpoint that is not kept. -/
theorem forall₂_taken :
    List.Forall₂ (fun endpoint report => ∃ place,
        firstPlace? [] (sortedEndpoints description schema options) endpoint.handlerName = some place ∧
          ReportsTaken endpoint place report)
      ((sortedEndpoints description schema options).filter
        (· ∉ (buildEndpoints description schema options).endpoints))
      ((buildEndpoints description schema options).diagnostics.filter (·.kind = .duplicateHandler)) := by
  rw [filter_kind_diagnostics, buildEndpoints_eq]
  exact forall₂_dropDuplicates [] (nodup_sortedEndpoints description schema options)

theorem mem_endpoints_iff {endpoint : Endpoint} :
    endpoint ∈ (buildEndpoints description schema options).endpoints ↔
      (sortedEndpoints description schema options).find? (·.handlerName = endpoint.handlerName) =
        some endpoint := by
  rw [buildEndpoints_eq, mem_dropDuplicates_iff]
  simp

/-- At the place of an endpoint that is not kept stands the one warning about it. -/
theorem exists_taken_of_dropped {endpoint : Endpoint}
    (member : endpoint ∈ sortedEndpoints description schema options)
    (dropped : endpoint ∉ (buildEndpoints description schema options).endpoints) :
    ∃ place report,
      firstPlace? [] (sortedEndpoints description schema options) endpoint.handlerName = some place ∧
        ReportsTaken endpoint place report ∧
        (buildEndpoints description schema options).diagnostics.filter
          (fun d => d.kind = .duplicateHandler ∧ d.location = endpoint.location) = [report] := by
  have alone : ((sortedEndpoints description schema options).filter
      (· ∉ (buildEndpoints description schema options).endpoints)).filter
        (fun other => decide (other.location = endpoint.location)) = [endpoint] := by
    rw [List.filter_comm, filter_location_sortedEndpoints description schema options member,
      List.filter_singleton]
    simp [dropped]
  have here := List.rel_filter (p := fun other => decide (other.location = endpoint.location))
    (q := fun d => decide (d.location = endpoint.location))
    (by rintro other _ ⟨place, -, rfl⟩; rfl) (forall₂_taken description schema options)
  rw [alone] at here
  obtain ⟨report, _, ⟨place, found, taken⟩, rest, same⟩ := List.forall₂_cons_left_iff.mp here
  obtain rfl := List.forall₂_nil_left_iff.mp rest
  refine ⟨place, report, found, taken, ?_⟩
  rw [← same, List.filter_filter]
  simp only [Bool.decide_and, Bool.and_comm]

end Model

/-- The endpoints of a model are in strict order, and of the endpoints that its operations build it keeps
the first of each handler name. -/
theorem keepsFirst_buildEndpoints (description : Description) (schema : Schema) (options : BuildOptions) :
    ∃ built : List Endpoint, built.Perm (operationEndpoints description schema options) ∧
      (built.Pairwise fun a b => a.sortKey < b.sortKey) ∧
      (buildEndpoints description schema options).KeepsFirst built := by
  have increasing := pairwise_sortedEndpoints description schema options
  refine ⟨sortedEndpoints description schema options, perm_sortedEndpoints description schema options,
    increasing, ?_, nodup_handlerNames description schema options, ?_, ?_, ?_⟩
  · rw [buildEndpoints_eq]
    exact increasing.sublist (sublist_dropDuplicates [] _)
  · exact fun endpoint => mem_endpoints_iff description schema options
  · intro endpoint member dropped
    obtain ⟨place, report, found, rfl, only⟩ :=
      exists_taken_of_dropped description schema options member dropped
    obtain ⟨first, front, rfl⟩ := Option.map_eq_some_iff.mp found
    have same : first.handlerName = endpoint.handlerName := by simpa using List.find?_some front
    have kept : first ∈ (buildEndpoints description schema options).endpoints := by
      rw [mem_endpoints_iff, same]
      exact front
    have other : endpoint ≠ first := fun equal => dropped (equal ▸ kept)
    exact ⟨first, kept, same, sortKey_lt_of_find? increasing member front other, only⟩
  · intro d member taken
    obtain ⟨endpoint, inside, place, -, rfl⟩ := exists_left_of_mem
      (forall₂_taken description schema options) (List.mem_filter.mpr ⟨member, decide_eq_true taken⟩)
    obtain ⟨inside, dropped⟩ := List.mem_filter.mp inside
    exact ⟨endpoint, inside, of_decide_eq_true dropped, rfl⟩

/-- Two Lists of items that are both named after their resource. -/
def repeatedDescription : Description :=
  ⟨strip (.obj [("info", .obj [("title", .str "Items"), ("version", .str "1")]), ("openapi", .str "3.0.0"),
    ("paths", .obj [("/items", .obj [("get", .obj [])]), ("/items/recent", .obj [("get", .obj [])])])]),
    isOpenApi_strip rfl (by cbv), by decide⟩

/-- The second one is not kept, and its warning names the first. -/
theorem keepsFirst_repeated :
    ∃ built, (buildEndpoints repeatedDescription ownerSchema ownerOptions).KeepsFirst built ∧
      ∃ endpoint ∈ built,
        endpoint ∉ (buildEndpoints repeatedDescription ownerSchema ownerOptions).endpoints ∧
        (buildEndpoints repeatedDescription ownerSchema ownerOptions).diagnostics.filter
            (fun d => d.kind = .duplicateHandler ∧ d.location = endpoint.location) =
          [⟨"GET /items/recent", .warning, .duplicateHandler,
            "handler 'list_items' is already generated for GET /items"⟩] := by
  obtain ⟨built, perm, -, keeps⟩ := keepsFirst_buildEndpoints repeatedDescription ownerSchema ownerOptions
  -- Sorting does not evaluate, but the two endpoints are in order from the start.
  have sorted : sortedEndpoints repeatedDescription ownerSchema ownerOptions =
      operationEndpoints repeatedDescription ownerSchema ownerOptions := by
    apply List.mergeSort_of_pairwise
    decide +kernel
  have dropped : ∃ endpoint ∈ operationEndpoints repeatedDescription ownerSchema ownerOptions,
      endpoint ∉ (buildEndpoints repeatedDescription ownerSchema ownerOptions).endpoints ∧
        (buildEndpoints repeatedDescription ownerSchema ownerOptions).diagnostics.filter
            (fun d => d.kind = .duplicateHandler ∧ d.location = endpoint.location) =
          [⟨"GET /items/recent", .warning, .duplicateHandler,
            "handler 'list_items' is already generated for GET /items"⟩] := by
    rw [buildEndpoints_eq, sorted]
    decide +kernel
  obtain ⟨endpoint, member, absent, reported⟩ := dropped
  exact ⟨built, keeps, endpoint, perm.mem_iff.mpr member, absent, reported⟩

end QuerySynth
