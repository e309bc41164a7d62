import QuerySynth.Generate.Plan
import QuerySynth.Proofs.Generate.Agreement

/-! # When generating succeeds

What a generated file needs of the schema and of the registry is there for every endpoint of a model:
building has looked it up before. The one exception is the request of a List, which is looked up again
under the name that the message has, not under the name that it was found by. The two are the same in a
schema that keeps its messages under their own names, as every loaded one does.
-/

namespace QuerySynth

open Code

/-- What an endpoint needs of a schema and of a registry to be generated. -/
structure Endpoint.Supplied (schema : Schema) (registry : Registry) (endpoint : Endpoint) : Prop where
  /-- The rows have a message. -/
  row : (schema.message? endpoint.rowMessage).isSome
  /-- The request of a List is a message. -/
  request : endpoint.kind = .list → (schema.message? endpoint.requestMessage).isSome
  /-- The filters of a List are registered. -/
  filters : endpoint.kind = .list → ∀ binding ∈ endpoint.filters, registry.contains binding.filterType
  /-- A Get has a key, whose filter, if it is one, is registered. -/
  key : endpoint.kind = .get → ∃ key, endpoint.key = some key ∧
    ∀ filterType, key.value = .filter filterType → registry.contains filterType

/-- Modules that can be imported. -/
structure Surroundings.Importable (around : Surroundings) : Prop where
  messages : around.messages.isImportable = true
  support : around.support.isImportable = true
  queries : around.queries.isImportable = true

variable {schema : Schema} {registry : Registry} {around : Surroundings} {endpoint : Endpoint}
  {endpoints : List Endpoint}

theorem exists_constructorCall {filterType : String} {argument? : Operator → Option Expr}
    (registered : registry.contains filterType) :
    ∃ call, constructorCall registry filterType argument? = .ok call := by
  obtain ⟨family, known⟩ := Option.isSome_iff_exists.mp registered
  exact ⟨_, constructorCall_eq_ok_iff.mpr ⟨family, known, rfl⟩⟩

theorem exists_listInits {request : Message}
    (registered : ∀ binding ∈ endpoint.filters, registry.contains binding.filterType) :
    ∃ fields, listInits registry around endpoint request = .ok fields := by
  have each (binding : FilterBinding)
      (member : binding ∈ firstOfEach FilterBinding.field [] endpoint.filters) :
      ∃ field, filterInit registry binding = .ok field := by
    have bound : binding ∈ endpoint.filters := List.mem_of_find?_eq_some (mem_firstOfEach_iff.mp member).1
    have called : ∃ call, constructorCall registry binding.filterType binding.argument? = .ok call :=
      exists_constructorCall (registered binding bound)
    obtain ⟨call, made⟩ := called
    exact ⟨_, bind_eq_ok_iff.mpr ⟨call, made, rfl⟩⟩
  obtain ⟨fields, made⟩ := exists_mapM_of_forall each
  exact ⟨_, bind_eq_ok_iff.mpr ⟨fields, made, rfl⟩⟩

theorem exists_handler (supplied : endpoint.Supplied schema registry) :
    ∃ function, handler schema registry around endpoint = .ok function := by
  rw [handler]
  cases kind : endpoint.kind with
  | list =>
    obtain ⟨request, present⟩ := Option.isSome_iff_exists.mp (supplied.request kind)
    have inits : ∃ fields, listInits registry around endpoint request = .ok fields :=
      exists_listInits (supplied.filters kind)
    obtain ⟨fields, made⟩ := inits
    simp only [listHandler, present]
    exact ⟨_, bind_eq_ok_iff.mpr ⟨fields, made, rfl⟩⟩
  | get =>
    obtain ⟨key, present, registered⟩ := supplied.key kind
    have value : ∃ value, keyExpr registry key = .ok value := by
      rw [keyExpr]
      cases held : key.value with
      | scalar scalar => exact ⟨_, rfl⟩
      | filter filterType => exact exists_constructorCall (registered filterType held)
    obtain ⟨value, made⟩ := value
    simp only [getHandler, present]
    exact ⟨_, bind_eq_ok_iff.mpr ⟨value, made, rfl⟩⟩

theorem exists_handlers (supplied : ∀ endpoint ∈ endpoints, endpoint.Supplied schema registry) :
    ∃ functions, handlers schema registry around endpoints = .ok functions := by
  apply exists_mapM_of_forall
  intro endpoint member
  have handled : ∃ function, handler schema registry around endpoint = .ok function :=
    exists_handler (supplied endpoint member)
  obtain ⟨function, made⟩ := handled
  exact ⟨function, mapError_eq_ok_iff.mpr made⟩

theorem exists_translators (rows : ∀ endpoint ∈ endpoints, (schema.message? endpoint.rowMessage).isSome) :
    ∃ functions, translators schema endpoints = .ok functions := by
  apply exists_mapM_of_forall
  intro name member
  obtain ⟨endpoint, inside, rfl⟩ := List.mem_map.mp (mem_sortedNames.mp member)
  obtain ⟨message, present⟩ := Option.isSome_iff_exists.mp (rows endpoint inside)
  exact ⟨translator message, by rw [present]⟩

theorem finish_eq_ok_of_importable {imported : List ModulePath} {module : Code.Module}
    (importable : ∀ path ∈ imported, path.isImportable = true) :
    finish imported module = .ok module.render := by
  rw [finish, if_pos (List.all_eq_true.mpr importable)]

/-- The files are generated among modules that can be imported when the module of handlers is. -/
theorem exists_files_of_handlerModule (importable : around.Importable) {module : Code.Module}
    (built : handlerModule schema registry around endpoints = .ok module) :
    ∃ files, renderFiles schema registry around endpoints = .ok files := by
  have messages : ∀ path ∈ [around.messages], path.isImportable = true := by
    simpa using importable.messages
  have imports : ∀ path ∈ [around.messages, around.support, around.queries], path.isImportable = true := by
    simpa using ⟨importable.messages, importable.support, importable.queries⟩
  have filters : ∃ text, renderConstructors around (referencedFilters registry endpoints) = .ok text :=
    ⟨_, finish_eq_ok_of_importable messages⟩
  have handlers : ∃ text, renderHandlers schema registry around endpoints = .ok text :=
    ⟨_, bind_eq_ok_iff.mpr ⟨module, built, finish_eq_ok_of_importable imports⟩⟩
  have index : ∃ text, finish [] indexModule = .ok text :=
    ⟨_, finish_eq_ok_of_importable (List.forall_mem_nil _)⟩
  obtain ⟨first, filters⟩ := filters
  obtain ⟨second, handlers⟩ := handlers
  obtain ⟨third, index⟩ := index
  refine ⟨[⟨"filters.rs", first⟩, ⟨"handlers.rs", second⟩, ⟨"mod.rs", third⟩], ?_⟩
  rw [renderFiles, filters, handlers, index]
  rfl

/-- The files of supplied endpoints are generated among modules that can be imported. -/
theorem exists_files_of_supplied (importable : around.Importable)
    (supplied : ∀ endpoint ∈ endpoints, endpoint.Supplied schema registry) :
    ∃ files, renderFiles schema registry around endpoints = .ok files := by
  have handled : ∃ functions, handlers schema registry around endpoints = .ok functions :=
    exists_handlers supplied
  obtain ⟨made, handled⟩ := handled
  obtain ⟨others, translated⟩ := exists_translators fun endpoint member => (supplied endpoint member).row
  exact exists_files_of_handlerModule importable
    (bind_eq_ok_iff.mpr ⟨made, handled, bind_eq_ok_iff.mpr ⟨others, translated, rfl⟩⟩)

/-- Among modules that can be imported, a fault of the files is one of the module of handlers. -/
theorem handlerModule_eq_error (importable : around.Importable) {fault : GenerateFault}
    (failed : renderFiles schema registry around endpoints = .error fault) :
    ∃ cause, handlerModule schema registry around endpoints = .error cause ∧
      fault = .inFile "handlers.rs" cause := by
  have filters : renderConstructors around (referencedFilters registry endpoints) =
      .ok (constructorModule around (referencedFilters registry endpoints)).render :=
    finish_eq_ok_of_importable (by simpa using importable.messages)
  cases built : handlerModule schema registry around endpoints with
  | ok module =>
    obtain ⟨files, rendered⟩ := exists_files_of_handlerModule importable built
    rw [rendered] at failed
    cases failed
  | error cause =>
    refine ⟨cause, rfl, ?_⟩
    rw [renderFiles, filters, renderHandlers, built] at failed
    exact (Except.error.inj failed).symm

section Model

variable {description : Rest.Description} {options : BuildOptions}

/-- Building an endpoint has looked up all that it needs, apart from the name of its request. -/
theorem supplied_of_mem_endpoints
    (member : endpoint ∈ (buildEndpoints description schema options).endpoints)
    (request : endpoint.kind = .list → (schema.message? endpoint.requestMessage).isSome) :
    endpoint.Supplied schema options.registry := by
  obtain ⟨operation, resource, raws, findings, built⟩ := exists_buildEndpoint_of_mem_endpoints member
  obtain ⟨_, -, -, sound⟩ := sound_of_buildEndpoint built
  refine ⟨isSome_row_of_mem_endpoints member, request, ?_, ?_⟩
  · intro _ binding bound
    obtain ⟨family, known, -⟩ := (sound.filters binding bound).ordered
    rw [Registry.contains, known]
    rfl
  · intro kind
    obtain ⟨key, present, -⟩ := sound.exists_key kind
    refine ⟨key, present, ?_⟩
    intro filterType held
    obtain ⟨family, known, -⟩ := exists_family_of_buildEndpoint built present held
    rw [Registry.contains, known]
    rfl

/-- The request of an endpoint is found again if it is stored under its own name. -/
theorem isSome_request_of_mem_endpoints (named : schema.Named)
    (member : endpoint ∈ (buildEndpoints description schema options).endpoints) :
    (schema.message? endpoint.requestMessage).isSome := by
  obtain ⟨request, serves, name, -⟩ := sound_of_mem_endpoints member
  obtain ⟨method, -, present⟩ := Option.bind_eq_some_iff.mp serves
  rw [name, named.name_of_message? present, present]
  rfl

/-- The only fault in the handler of an endpoint of a model is that the request of a List is not found
under the name of its message. -/
theorem noRequest_of_handler_eq_error {cause : GenerateFault}
    (member : endpoint ∈ (buildEndpoints description schema options).endpoints)
    (failed : handler schema options.registry around endpoint = .error cause) :
    endpoint.kind = .list ∧ schema.message? endpoint.requestMessage = none ∧
      cause = .noRequest endpoint.requestMessage := by
  by_cases missing : endpoint.kind = .list ∧ schema.message? endpoint.requestMessage = none
  · obtain ⟨kind, absent⟩ := missing
    rw [handler, kind] at failed
    simp only [listHandler, absent] at failed
    exact ⟨kind, absent, (Except.error.inj failed).symm⟩
  · have supplied : endpoint.Supplied schema options.registry :=
      supplied_of_mem_endpoints member fun kind =>
        Option.isSome_iff_ne_none.mpr fun absent => missing ⟨kind, absent⟩
    have made : ∃ function, handler schema options.registry around endpoint = .ok function :=
      exists_handler supplied
    obtain ⟨function, made⟩ := made
    rw [made] at failed
    cases failed

/-- The only fault in the files of a model is that of such a handler. -/
theorem noRequest_of_renderFiles_eq_error (importable : around.Importable) {fault : GenerateFault}
    (failed : renderFiles schema options.registry around
      (buildEndpoints description schema options).endpoints = .error fault) :
    ∃ endpoint ∈ (buildEndpoints description schema options).endpoints, endpoint.kind = .list ∧
      schema.message? endpoint.requestMessage = none ∧
      fault = .inFile "handlers.rs"
        (.inHandler endpoint.location (.noRequest endpoint.requestMessage)) := by
  obtain ⟨_, unmade, rfl⟩ := handlerModule_eq_error importable failed
  rcases bind_eq_error_iff.mp unmade with unhandled | ⟨made, -, untranslated⟩
  · obtain ⟨endpoint, member, failed⟩ := exists_error_of_mapM unhandled
    obtain ⟨cause, refused, rfl⟩ := mapError_eq_error_iff.mp failed
    obtain ⟨kind, absent, rfl⟩ := noRequest_of_handler_eq_error member refused
    exact ⟨endpoint, member, kind, absent, rfl⟩
  · have translated : ∃ functions, translators schema
        (buildEndpoints description schema options).endpoints = .ok functions :=
      exists_translators fun _ => isSome_row_of_mem_endpoints
    obtain ⟨others, translated⟩ := translated
    rw [translated] at untranslated
    cases untranslated

theorem isSome_request_of_handler {function : Function} (kind : endpoint.kind = .list)
    (made : handler schema registry around endpoint = .ok function) :
    (schema.message? endpoint.requestMessage).isSome := by
  rw [handler, kind] at made
  dsimp only [listHandler] at made
  cases present : schema.message? endpoint.requestMessage with
  | none => simp [present] at made
  | some request => rfl

/-- The files of a model are generated exactly if the requests of its Lists are found again. -/
theorem exists_files_iff (importable : around.Importable) :
    (∃ files, renderFiles schema options.registry around
        (buildEndpoints description schema options).endpoints = .ok files) ↔
      ∀ endpoint ∈ (buildEndpoints description schema options).endpoints, endpoint.kind = .list →
        (schema.message? endpoint.requestMessage).isSome := by
  constructor
  · rintro ⟨files, rendered⟩ endpoint member kind
    obtain ⟨module, built, -⟩ := renderFiles_eq_ok rendered
    obtain ⟨made, -, handled, -, -⟩ := handlerModule_eq_ok built
    obtain ⟨function, -, handled⟩ := exists_right_of_mem (forall₂_handlers handled) member
    exact isSome_request_of_handler kind handled
  · intro found
    apply exists_files_of_supplied importable
    intro endpoint member
    exact supplied_of_mem_endpoints member (found endpoint member)

end Model

/-- Settings that name no modules have modules that can be imported. -/
theorem importable_of_usual_modules (size : Nat) :
    ∃ around, ({ defaultPageSize := size } : Settings).surroundings = .ok around ∧ around.Importable := by
  have paths : ModulePath.ofText? "crate::pb" = some ⟨false, ["crate", "pb"], false⟩ ∧
      ModulePath.ofText? "crate::runtime" = some ⟨false, ["crate", "runtime"], false⟩ ∧
      ModulePath.ofText? "crate::queries" = some ⟨false, ["crate", "queries"], false⟩ := by
    decide +kernel
  have read : ({ defaultPageSize := size } : Settings).surroundings =
      .ok { ownerSurroundings with defaultPageSize := size } := by
    simp only [Settings.surroundings, Surroundings.ofTexts, Surroundings.modulePath, paths]
    rfl
  exact ⟨_, read, rfl, rfl, rfl⟩

/-- Settings that name no modules have a plan for every description. -/
theorem exists_plan_of_usual_modules (named : schema.Named) (description : Rest.Description)
    (registry : Registry) (size : Nat) :
    ∃ plan, ({ defaultPageSize := size } : Settings).plan description schema registry = .ok plan := by
  obtain ⟨around, read, importable⟩ := importable_of_usual_modules size
  have supplied (endpoint : Endpoint)
      (member : endpoint ∈
        (({ defaultPageSize := size } : Settings).endpointModel description schema registry).endpoints) :
      endpoint.Supplied schema registry :=
    supplied_of_mem_endpoints member fun _ => isSome_request_of_mem_endpoints named member
  obtain ⟨files, rendered⟩ := exists_files_of_supplied importable supplied
  exact ⟨_, bind_eq_ok_iff.mpr ⟨around, read, bind_eq_ok_iff.mpr ⟨files, rendered, rfl⟩⟩⟩

/-- With the usual modules the files of a model are generated exactly if the requests of its Lists are found
under the names of their messages; otherwise the fault is that of such a request. Whatever the description
and the options are, nothing is missing in a schema that keeps its messages under their own names, and so in
no schema that has been loaded. -/
theorem exists_files_of_usual_modules (description : Rest.Description) (schema : Schema)
    (options : BuildOptions) (size : Nat) :
    ∃ around, ({ defaultPageSize := size } : Settings).surroundings = .ok around ∧
      ((∃ files, renderFiles schema options.registry around
          (buildEndpoints description schema options).endpoints = .ok files) ↔
        ∀ endpoint ∈ (buildEndpoints description schema options).endpoints, endpoint.kind = .list →
          (schema.message? endpoint.requestMessage).isSome) ∧
      (∀ fault, renderFiles schema options.registry around
          (buildEndpoints description schema options).endpoints = .error fault →
        ∃ endpoint ∈ (buildEndpoints description schema options).endpoints, endpoint.kind = .list ∧
          schema.message? endpoint.requestMessage = none ∧
          fault = .inFile "handlers.rs"
            (.inHandler endpoint.location (.noRequest endpoint.requestMessage))) ∧
      (schema.Named → ∃ files, renderFiles schema options.registry around
        (buildEndpoints description schema options).endpoints = .ok files) ∧
      ∀ (storage : Storage) source path, storage.loadSchema source path = .ok schema →
        ∃ files, renderFiles schema options.registry around
          (buildEndpoints description schema options).endpoints = .ok files := by
  obtain ⟨around, read, importable⟩ := importable_of_usual_modules size
  have succeeds (named : schema.Named) : ∃ files, renderFiles schema options.registry around
      (buildEndpoints description schema options).endpoints = .ok files := by
    apply (exists_files_iff importable).mpr
    intro endpoint member _
    exact isSome_request_of_mem_endpoints named member
  refine ⟨around, read, exists_files_iff importable,
    fun fault => noRequest_of_renderFiles_eq_error importable, succeeds, ?_⟩
  intro storage source path loaded
  exact succeeds (Storage.named_of_loadSchema loaded)

/-- The files of the owner's List. -/
theorem exists_files_owner :
    ownerSchema.Named ∧ (buildEndpoints ownerDescription ownerSchema ownerOptions).endpoints ≠ [] ∧
      ∃ around files, ({ defaultPageSize := 100 } : Settings).surroundings = .ok around ∧
        renderFiles ownerSchema ownerOptions.registry around
          (buildEndpoints ownerDescription ownerSchema ownerOptions).endpoints = .ok files := by
  obtain ⟨around, read, -, -, rendered, -⟩ :=
    exists_files_of_usual_modules ownerDescription ownerSchema ownerOptions 100
  obtain ⟨files, rendered⟩ := rendered named_ownerSchema
  exact ⟨named_ownerSchema, endpoints_owner_ne_nil, around, files, read, rendered⟩

/-- The schema of the owner's List with a request that is stored under another name than its own. -/
def strayRequestSchema : Schema where
  services := ownerSchema.services
  messages := ownerSchema.messages.insert "ListItemsRequest"
    ⟨"Listing", "items.Listing",
      [⟨"owner_id", 1, .message "StringFilter", false, some "StringFilter", none, some "The owner", none⟩]⟩

/-- The request of the List then disappears, and no files are generated. -/
theorem noRequest_stray :
    ({} : Settings).surroundings = .ok ownerSurroundings ∧
      renderFiles strayRequestSchema ownerOptions.registry ownerSurroundings
        (buildEndpoints ownerDescription strayRequestSchema ownerOptions).endpoints =
          .error (.inFile "handlers.rs" (.inHandler "GET /items" (.noRequest "Listing"))) := by
  have read : ({} : Settings).surroundings.toOption = some ownerSurroundings := by
    decide +kernel
  have failed : (renderFiles strayRequestSchema ownerOptions.registry ownerSurroundings
      (buildEndpoints ownerDescription strayRequestSchema ownerOptions).endpoints) =
        .error (.inFile "handlers.rs" (.inHandler "GET /items" (.noRequest "Listing"))) := by
    decide +kernel
  exact ⟨toOption_eq_some_iff.mp read, failed⟩

end QuerySynth
