import QuerySynth.Endpoint.Build
import QuerySynth.Proofs.Except

/-! # How an endpoint comes about

An endpoint is assembled from the messages that serve its operation and from the draft that takes all
of its parameters. These lemmas say everything that a successful build has gone through.
-/

namespace QuerySynth

/-- An operation is a Get exactly when one of its parameters is in the path. -/
theorem kindOf_eq_get_iff {raws : List RawParameter} :
    kindOf raws = .get ↔ ∃ raw ∈ raws, raw.location = .path := by
  have none : keyCount raws = 0 ↔ ¬∃ raw ∈ raws, raw.location = .path := by
    rw [keyCount, List.length_eq_zero_iff, List.filter_eq_nil_iff]
    simp
  rw [kindOf]
  simp only [ite_eq_right_iff, none, reduceCtorEq, imp_false, Decidable.not_not]

theorem MethodKind.eq_iff_eq_get_iff {first second : MethodKind} :
    first = second ↔ (first = .get ↔ second = .get) := by
  cases first <;> cases second <;> decide

/-- An exchange is found when a method serves the resource, its messages are there, and the response has rows of
a message. -/
theorem findExchange_eq_ok {schema : Schema} {resource : String} {kind : MethodKind} {exchange : Exchange}
    (found : findExchange schema resource kind = .ok exchange) :
    ∃ method rows, schema.method? resource kind = some method ∧
      schema.message? method.input = some exchange.request ∧
      schema.message? method.output = some exchange.response ∧
      rowField? exchange.response kind = some rows ∧
      exchange.kind = kind ∧ exchange.rowMessage = rows.message?.getD "" ∧ exchange.rowsField = rows.name ∧
      (schema.message? exchange.rowMessage).isSome := by
  rw [findExchange] at found
  split at found
  · simp at found
  · rename_i method serves
    split at found
    · rename_i request response hasRequest hasResponse
      split at found
      · simp at found
      · rename_i rows hasRows
        dsimp only at found
        split at found
        · rename_i present
          obtain rfl := Except.ok.inj found
          exact ⟨method, rows, serves, hasRequest, hasResponse, hasRows, rfl, rfl, rfl, present⟩
        · simp at found
    · simp at found

/-- The messages of an exchange are those of the method that serves the resource. -/
theorem request?_of_findExchange {schema : Schema} {resource : String} {kind : MethodKind}
    {exchange : Exchange} (found : findExchange schema resource kind = .ok exchange) :
    exchange.kind = kind ∧ schema.request? resource kind = some exchange.request := by
  obtain ⟨method, _, serves, request, -, -, same, -⟩ := findExchange_eq_ok found
  exact ⟨same, by rw [Schema.request?, serves, Option.bind_some, request]⟩

/-- The rows of an exchange have a message. -/
theorem isSome_row_of_findExchange {schema : Schema} {resource : String} {kind : MethodKind}
    {exchange : Exchange} (found : findExchange schema resource kind = .ok exchange) :
    (schema.message? exchange.rowMessage).isSome := by
  obtain ⟨_, _, -, -, -, -, -, -, -, present⟩ := findExchange_eq_ok found
  exact present

/-- Building succeeds when the messages are found, there is at most one key, and the draft is complete. -/
theorem buildEndpoint_eq_ok_iff {schema : Schema} {options : BuildOptions} {operation : Rest.Operation}
    {resource : String} {raws : List RawParameter} {result : Endpoint × List Finding} :
    buildEndpoint schema options operation resource raws = .ok result ↔
      ∃ exchange draft, findExchange schema resource (kindOf raws) = .ok exchange ∧
        keyCount raws ≤ 1 ∧
        Draft.addAll options.registry exchange.request
          (flattenAll schema options.registry exchange.request raws) = .ok draft ∧
        assemble options operation resource exchange draft = result := by
  rw [buildEndpoint]
  cases findExchange schema resource (kindOf raws) with
  | error finding => simp
  | ok exchange =>
    by_cases many : 1 < keyCount raws
    · simp only [many, if_true, reduceCtorEq, false_iff]
      rintro ⟨_, _, _, few, _⟩
      omega
    · cases complete : Draft.addAll options.registry exchange.request
        (flattenAll schema options.registry exchange.request raws) with
      | error findings => simp [many, complete, Except.map]
      | ok draft =>
        simp only [many, if_false, complete, Except.map, Except.ok.injEq]
        constructor
        · intro assembled
          exact ⟨exchange, draft, rfl, by omega, complete, assembled⟩
        · rintro ⟨_, _, rfl, _, complete', assembled⟩
          rw [complete] at complete'
          obtain rfl := Except.ok.inj complete'
          exact assembled

/-- Building ends early without the messages, on several keys, or with a draft that ended early. -/
theorem buildEndpoint_eq_error {schema : Schema} {options : BuildOptions} {operation : Rest.Operation}
    {resource : String} {raws : List RawParameter} {findings : List Finding}
    (failed : buildEndpoint schema options operation resource raws = .error findings) :
    (∃ finding, findExchange schema resource (kindOf raws) = .error finding ∧ findings = [finding]) ∨
      findings = [.keyCount (keyCount raws)] ∨
      ∃ exchange, findExchange schema resource (kindOf raws) = .ok exchange ∧
        Draft.addAll options.registry exchange.request
          (flattenAll schema options.registry exchange.request raws) = .error findings := by
  rw [buildEndpoint] at failed
  cases found : findExchange schema resource (kindOf raws) with
  | error finding =>
    rw [found] at failed
    exact .inl ⟨finding, rfl, (Except.error.inj failed).symm⟩
  | ok exchange =>
    rw [found] at failed
    dsimp only at failed
    split at failed
    · exact .inr (.inl (Except.error.inj failed).symm)
    · cases stopped : Draft.addAll options.registry exchange.request
          (flattenAll schema options.registry exchange.request raws) with
      | ok draft => simp [stopped, Except.map] at failed
      | error other =>
        obtain rfl : other = findings := by simpa [stopped, Except.map] using failed
        exact .inr (.inr ⟨exchange, rfl, stopped⟩)

theorem length_filter_flattenAll (schema : Schema) (registry : Registry) (request : Message)
    (raws : List RawParameter) :
    ((flattenAll schema registry request raws).filter (·.location = .path)).length = keyCount raws := by
  rw [flattenAll, List.filter_map, List.length_map, keyCount]
  rfl

/-- An operation has an endpoint when it is a GET of some resource and building succeeds. -/
theorem endpoint_buildOperation_eq_some_iff {description : Rest.Description} {schema : Schema}
    {options : BuildOptions} {operation : Rest.Operation} {endpoint : Endpoint} :
    (buildOperation description schema options operation).endpoint = some endpoint ↔
      operation.method = "get" ∧ ∃ resource findings,
        Rest.resource? operation.path (options.basePath.getD description.basePath) = some resource ∧
        buildEndpoint schema options operation resource
          (Rest.collect description.document operation.path operation.method).1 =
            .ok (endpoint, findings) := by
  rw [buildOperation]
  by_cases isGet : operation.method = "get"
  · simp only [isGet, ne_eq, not_true_eq_false, if_false, true_and]
    cases serves : Rest.resource? operation.path (options.basePath.getD description.basePath) with
    | none => simp
    | some resource =>
      cases built : buildEndpoint schema options operation resource
          (Rest.collect description.document operation.path "get").1 with
      | error findings => simp [built]
      | ok result =>
        obtain ⟨other, findings⟩ := result
        simp [built]
  · simp [isGet]

theorem sublist_dropDuplicates (seen : Keyed String) (endpoints : List Endpoint) :
    (dropDuplicates seen endpoints).1.Sublist endpoints := by
  induction endpoints generalizing seen with
  | nil => exact List.Sublist.slnil
  | cons endpoint rest ih =>
    rw [dropDuplicates]
    split
    · exact (ih seen).cons _
    · exact (ih _).cons_cons _

theorem sublist_endpoints (description : Rest.Description) (schema : Schema) (options : BuildOptions) :
    (buildEndpoints description schema options).endpoints.Sublist
      (((description.operations.map (buildOperation description schema options)).filterMap
        (·.endpoint)).mergeSort Endpoint.precedes) :=
  sublist_dropDuplicates [] _

/-- Every endpoint comes from an operation. -/
theorem exists_operation_of_mem_endpoints {description : Rest.Description} {schema : Schema}
    {options : BuildOptions} {endpoint : Endpoint}
    (member : endpoint ∈ (buildEndpoints description schema options).endpoints) :
    ∃ operation ∈ description.operations,
      (buildOperation description schema options operation).endpoint = some endpoint := by
  have sorted := (sublist_endpoints description schema options).subset member
  rw [List.mem_mergeSort, List.mem_filterMap] at sorted
  obtain ⟨outcome, made, present⟩ := sorted
  obtain ⟨operation, inside, rfl⟩ := List.mem_map.mp made
  exact ⟨operation, inside, present⟩

/-- Every endpoint has been built from the parameters of its operation. -/
theorem exists_buildEndpoint_of_mem_endpoints {description : Rest.Description} {schema : Schema}
    {options : BuildOptions} {endpoint : Endpoint}
    (member : endpoint ∈ (buildEndpoints description schema options).endpoints) :
    ∃ operation resource raws findings,
      buildEndpoint schema options operation resource raws = .ok (endpoint, findings) := by
  obtain ⟨operation, -, present⟩ := exists_operation_of_mem_endpoints member
  obtain ⟨-, resource, findings, -, built⟩ := endpoint_buildOperation_eq_some_iff.mp present
  exact ⟨operation, resource, _, findings, built⟩

/-- The row message of an endpoint is in the schema. -/
theorem isSome_row_of_mem_endpoints {description : Rest.Description} {schema : Schema}
    {options : BuildOptions} {endpoint : Endpoint}
    (member : endpoint ∈ (buildEndpoints description schema options).endpoints) :
    (schema.message? endpoint.rowMessage).isSome := by
  obtain ⟨operation, resource, raws, findings, built⟩ := exists_buildEndpoint_of_mem_endpoints member
  obtain ⟨exchange, draft, found, -, -, assembled⟩ := buildEndpoint_eq_ok_iff.mp built
  obtain rfl : (assemble options operation resource exchange draft).1 = endpoint := by rw [assembled]
  exact isSome_row_of_findExchange found

/-- A List of items that may be asked for those of an owner. -/
def ownerSchema : Schema where
  services := [⟨"ItemService", "items.ItemService",
    [⟨"ListItems", .list, "ListItemsRequest", "ListItemsResponse"⟩]⟩]
  messages := Keyed.ofList [
    ("Item", ⟨"Item", "items.Item", []⟩),
    ("ListItemsRequest", ⟨"ListItemsRequest", "items.ListItemsRequest",
      [⟨"owner_id", 1, .message "StringFilter", false, some "StringFilter", none, some "The owner", none⟩]⟩),
    ("ListItemsResponse", ⟨"ListItemsResponse", "items.ListItemsResponse",
      [⟨"items", 1, .message "Item", true, none, none, none, none⟩]⟩)]

/-- The description of that List with one parameter entry. -/
def ownerDocument (entry : Document) : Document :=
  .obj [("info", .obj [("title", .str "Items"), ("version", .str "1")]), ("openapi", .str "3.0.0"),
    ("paths", .obj [("/items", .obj [("get", .obj [("parameters", .arr [entry])])])])]

/-- An entry that filters by the owner. -/
def ownerEntry : Document :=
  .obj [("in", .str "query"), ("name", .str "ownerId.eq")]

/-- A document that has nothing to strip is checked as it is. -/
theorem Rest.isOpenApi_strip {document : Document} (plain : strip document = document)
    (valid : isOpenApi document = true) : isOpenApi (strip document) = true := by
  rwa [plain]

def ownerDescription : Rest.Description :=
  ⟨Rest.strip (ownerDocument ownerEntry), Rest.isOpenApi_strip rfl (by cbv), by decide⟩

def ownerOptions : BuildOptions :=
  ⟨Registry.standard, none, defaultPageSizeField⟩

theorem endpoints_owner_ne_nil :
    (buildEndpoints ownerDescription ownerSchema ownerOptions).endpoints ≠ [] := by
  decide +kernel

end QuerySynth
