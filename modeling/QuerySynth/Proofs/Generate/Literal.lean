import QuerySynth.Proofs.Generate.Reads

/-! # The fields of a request literal

The handler of a List builds its request from a literal that sets the fields of its filters, its page
size and its plain fields. All of these are fields of the request message, and no two initializers are for
one field, unless the page size is also a filter: then the literal sets that field twice.
-/

namespace QuerySynth

open Code

/-- The field that an initializer sets. -/
def Code.FieldInit.target : FieldInit → String
  | .same name => name
  | .assign name _ => name

@[simp]
theorem Code.FieldInit.target_assign (name : String) (value : Expr) :
    (FieldInit.assign name value).target = name :=
  rfl

/-- The initializers of the literal that a statement binds to a variable. -/
def Code.Statement.literal? (variable' : String) : Statement → Option (List FieldInit)
  | .bind name (.record _ fields _) => if name = variable' then some fields else none
  | _ => none

/-- The fields that the request literal of a function sets, in order. -/
def Code.Function.requestFields (function : Function) : List String :=
  match function.body with
  | .mk statements _ => ((statements.findSome? (·.literal? "request")).getD []).map (·.target)

theorem requestFields_of_listBody {endpoint : Endpoint} {fields : List FieldInit} {function : Function}
    (body : function.body = listBody endpoint fields) : function.requestFields = fields.map (·.target) := by
  have checks : (endpoint.requiredGroups.map groupCheck).findSome? (·.literal? "request") = none := by
    rw [List.findSome?_eq_none_iff]
    intro statement member
    obtain ⟨group, -, rfl⟩ := List.mem_map.mp member
    rfl
  rw [Function.requestFields, body, listBody]
  simp only [List.append_assoc, List.findSome?_append, checks, Option.none_or]
  rfl

section FirstOfEach

variable {α : Type} {key : α → String} {items : List α}

theorem mem_map_firstOfEach_iff {seen : List String} {name : String} :
    name ∈ (firstOfEach key seen items).map key ↔ name ∈ items.map key ∧ name ∉ seen := by
  rw [List.mem_map, List.mem_map]
  constructor
  · rintro ⟨item, kept, rfl⟩
    obtain ⟨first, fresh⟩ := mem_firstOfEach_iff.mp kept
    exact ⟨⟨item, List.mem_of_find?_eq_some first, rfl⟩, fresh⟩
  · rintro ⟨⟨item, member, rfl⟩, fresh⟩
    have found : (items.find? (key · == key item)).isSome :=
      List.find?_isSome.mpr ⟨item, member, beq_self_eq_true _⟩
    obtain ⟨first, found⟩ := Option.isSome_iff_exists.mp found
    have same : key first = key item := by simpa using List.find?_some found
    exact ⟨first, mem_firstOfEach_iff.mpr ⟨same ▸ found, same ▸ fresh⟩, same⟩

theorem nodup_map_firstOfEach (seen : List String) : ((firstOfEach key seen items).map key).Nodup := by
  induction items generalizing seen with
  | nil => simp [firstOfEach]
  | cons first rest ih =>
    rw [firstOfEach]
    split
    · exact ih seen
    · refine List.nodup_cons.mpr ⟨fun repeated => ?_, ih _⟩
      exact (mem_map_firstOfEach_iff.mp repeated).2 List.mem_cons_self

end FirstOfEach

namespace Endpoint

variable (endpoint : Endpoint)

/-- The fields of the filters, and the field of the page size. -/
def sizedFields : List String :=
  endpoint.filters.map (·.field) ++ endpoint.pageSizeField.toList

/-- The plain fields that a List sets: those that are no filter and not the page size. -/
def plainFields : List String :=
  (firstOfEach ScalarBinding.field endpoint.sizedFields endpoint.scalars).map (·.field)

/-- The fields that the initializers of a List are for, in order. -/
def setFields : List String :=
  endpoint.sizedFields ++ endpoint.plainFields

theorem mem_plainFields_iff {name : String} :
    name ∈ endpoint.plainFields ↔
      name ∈ endpoint.scalars.map (·.field) ∧ name ∉ endpoint.sizedFields :=
  mem_map_firstOfEach_iff

/-- Only the page size can be the field of another initializer, that of a filter. -/
theorem nodup_setFields_iff (distinct : (endpoint.filters.map (·.field)).Nodup) :
    endpoint.setFields.Nodup ↔
      ∀ field ∈ endpoint.pageSizeField, field ∉ endpoint.filters.map (·.field) := by
  have plain : endpoint.plainFields.Nodup := nodup_map_firstOfEach _
  have apart : ∀ name ∈ endpoint.sizedFields, ∀ other ∈ endpoint.plainFields, name ≠ other := by
    rintro name taken _ member rfl
    exact (endpoint.mem_plainFields_iff.mp member).2 taken
  have page : endpoint.pageSizeField.toList.Nodup := by
    cases endpoint.pageSizeField with
    | none => exact List.nodup_nil
    | some field => exact List.nodup_singleton field
  rw [setFields, List.nodup_append, sizedFields, List.nodup_append]
  constructor
  · rintro ⟨⟨-, -, different⟩, -, -⟩ field sized filtered
    exact different field filtered field (Option.mem_toList.mpr sized) rfl
  · intro different
    refine ⟨⟨distinct, page, ?_⟩, plain, apart⟩
    rintro name filtered _ sized rfl
    exact different name (Option.mem_toList.mp sized) filtered

end Endpoint

section Initializers

variable {registry : Registry} {around : Surroundings} {endpoint : Endpoint} {target : Message}

theorem target_of_filterInit {binding : FilterBinding} {init : FieldInit}
    (made : filterInit registry binding = .ok init) : init.target = fieldIdent binding.field := by
  obtain ⟨call, -, rest⟩ := bind_eq_ok_iff.mp made
  obtain rfl := Except.ok.inj rest
  rw [FieldInit.target_assign]

theorem target_pageSizeInit (field : String) :
    (pageSizeInit around endpoint target field).target = fieldIdent field := by
  rw [pageSizeInit, FieldInit.target_assign]

theorem target_scalarInit (binding : ScalarBinding) :
    (scalarInit binding).target = fieldIdent binding.field := by
  rw [scalarInit, FieldInit.target_assign]

theorem targets_of_listInits {fields : List FieldInit} (distinct : (endpoint.filters.map (·.field)).Nodup)
    (made : listInits registry around endpoint target = .ok fields) :
    fields.map (·.target) = endpoint.setFields.map fieldIdent := by
  rw [listInits, firstOfEach_eq_self distinct (by simp)] at made
  obtain ⟨inits, constructed, rest⟩ := bind_eq_ok_iff.mp made
  obtain rfl := Except.ok.inj rest
  have filters : inits.map (·.target) = endpoint.filters.map fun binding => fieldIdent binding.field :=
    map_eq_of_forall₂ ((forall₂_of_mapM constructed).imp fun _ _ made => target_of_filterInit made)
  simp only [Endpoint.setFields, Endpoint.plainFields, Endpoint.sizedFields, List.map_append, List.map_map,
    Function.comp_def, filters, target_pageSizeInit, target_scalarInit]

end Initializers

section Endpoints

variable {schema : Schema} {options : BuildOptions} {endpoint : Endpoint} {request : Message}

/-- The page size of an endpoint is the field that the options name, if its request has that field. -/
theorem pageSizeField_of_buildEndpoint {operation : Rest.Operation} {resource : String}
    {raws : List RawParameter} {findings : List Finding}
    (built : buildEndpoint schema options operation resource raws = .ok (endpoint, findings))
    (serves : schema.request? endpoint.resource endpoint.kind = some request)
    (kind : endpoint.kind = .list) :
    endpoint.pageSizeField =
      if (request.field? options.pageSizeField).isSome then some options.pageSizeField else none := by
  obtain ⟨exchange, draft, found, -, -, assembled⟩ := buildEndpoint_eq_ok_iff.mp built
  obtain ⟨same, served⟩ := request?_of_findExchange found
  obtain rfl : (assemble options operation resource exchange draft).1 = endpoint := by rw [assembled]
  have own : exchange.kind = .list := kind
  rw [← same] at served
  obtain rfl : exchange.request = request := Option.some.inj (served.symm.trans serves)
  change pageSizeField? options exchange = _
  simp [pageSizeField?, own]

variable {registry : Registry} {pageSize : String}

theorem Endpoint.Sound.isSome_filter (sound : endpoint.Sound registry request) {name : String}
    (filtered : name ∈ endpoint.filters.map (·.field)) : (request.field? name).isSome := by
  obtain ⟨binding, bound, rfl⟩ := List.mem_map.mp filtered
  obtain ⟨field, present, -⟩ := (sound.filters binding bound).typed
  exact Option.isSome_of_eq_some present

theorem Endpoint.Sound.isSome_setField (sound : endpoint.Sound registry request)
    (page : endpoint.pageSizeField = if (request.field? pageSize).isSome then some pageSize else none)
    {name : String} (inside : name ∈ endpoint.setFields) : (request.field? name).isSome := by
  rcases List.mem_append.mp inside with sized | other
  · rcases List.mem_append.mp sized with filtered | sized
    · exact sound.isSome_filter filtered
    · rw [page] at sized
      split at sized
      · rename_i present
        obtain rfl : name = pageSize := by simpa using sized
        exact present
      · simp at sized
  · obtain ⟨scalar, bound, rfl⟩ := List.mem_map.mp (endpoint.mem_plainFields_iff.mp other).1
    exact sound.plain scalar bound

/-- The field that the options name is set twice if a filter is for it. -/
theorem Endpoint.Sound.nodup_setFields_iff (sound : endpoint.Sound registry request)
    (page : endpoint.pageSizeField = if (request.field? pageSize).isSome then some pageSize else none) :
    endpoint.setFields.Nodup ↔ pageSize ∉ endpoint.filters.map (·.field) := by
  rw [endpoint.nodup_setFields_iff sound.nodup_fields, page]
  constructor
  · intro different filtered
    exact different pageSize (by rw [if_pos (sound.isSome_filter filtered)]; rfl) filtered
  · intro unfiltered field sized
    split at sized
    · obtain rfl := Option.some.inj sized
      exact unfiltered
    · simp at sized

/-- A List handler whose request literal sets fields of the request, where the options name the field of
the page size. -/
structure Endpoint.Initializes (endpoint : Endpoint) (request : Message) (pageSize : String)
    (function : Function) : Prop where
  /-- The initializers are those of the filters, of the page size and of the plain fields. -/
  literal : function.requestFields = endpoint.setFields.map fieldIdent
  /-- The plain fields are those that no other initializer is for. -/
  plain : ∀ name, name ∈ endpoint.plainFields ↔ name ∈ endpoint.scalars.map (·.field) ∧
    name ∉ endpoint.filters.map (·.field) ∧ endpoint.pageSizeField ≠ some name
  known : ∀ name ∈ endpoint.setFields, (request.field? name).isSome
  /-- No field has two initializers exactly when the page size is no filter. -/
  distinct_iff : endpoint.setFields.Nodup ↔ pageSize ∉ endpoint.filters.map (·.field)
  /-- Nor has an identifier, if no two fields that are set share one. -/
  spelled_iff : function.requestFields.Nodup ↔ pageSize ∉ endpoint.filters.map (·.field) ∧
    ∀ name ∈ endpoint.setFields, ∀ other ∈ endpoint.setFields,
      fieldIdent name = fieldIdent other → name = other

/-- The request literal of a List sets fields of its request, each once unless the page size is a filter. -/
theorem initializes_of_listHandler {description : Rest.Description} {registry : Registry}
    {around : Surroundings} {function : Function}
    (member : endpoint ∈ (buildEndpoints description schema options).endpoints)
    (kind : endpoint.kind = .list) (made : listHandler schema registry around endpoint = .ok function) :
    ∃ request, schema.request? endpoint.resource endpoint.kind = some request ∧
      endpoint.Initializes request options.pageSizeField function := by
  obtain ⟨operation, resource, raws, findings, built⟩ := exists_buildEndpoint_of_mem_endpoints member
  obtain ⟨request, serves, -, sound⟩ := sound_of_buildEndpoint built
  have page := pageSizeField_of_buildEndpoint built serves kind
  obtain ⟨target, fields, initialized, -, body⟩ := of_listHandler made
  have literal : function.requestFields = endpoint.setFields.map fieldIdent := by
    rw [requestFields_of_listBody body, targets_of_listInits sound.nodup_fields initialized]
  have plain : ∀ name, name ∈ endpoint.plainFields ↔ name ∈ endpoint.scalars.map (·.field) ∧
      name ∉ endpoint.filters.map (·.field) ∧ endpoint.pageSizeField ≠ some name := by
    intro name
    rw [endpoint.mem_plainFields_iff, Endpoint.sizedFields, List.mem_append, Option.mem_toList, not_or]
  have distinct := sound.nodup_setFields_iff page
  refine ⟨request, serves, literal, plain, fun _ => sound.isSome_setField page, distinct, ?_⟩
  rw [literal, ← distinct]
  constructor
  · intro spelled
    have once := List.Nodup.of_map _ spelled
    exact ⟨once, (List.nodup_map_iff_inj_on once).mp spelled⟩
  · rintro ⟨once, injective⟩
    exact (List.nodup_map_iff_inj_on once).mpr injective

end Endpoints

/-- The request literal of the List of an owner's items. -/
theorem initializes_ownedList :
    ∃ endpoint function request,
      endpoint ∈ (buildEndpoints ownedList itemSchema ownerOptions).endpoints ∧ endpoint.kind = .list ∧
      listHandler itemSchema ownerOptions.registry ownerSurroundings endpoint = .ok function ∧
      itemSchema.request? endpoint.resource endpoint.kind = some request ∧
      endpoint.Initializes request ownerOptions.pageSizeField function := by
  have present : (itemEndpoints ownedList).any (fun endpoint => endpoint.kind = .list ∧
      (listHandler itemSchema ownerOptions.registry ownerSurroundings endpoint).isOk) = true := by
    decide +kernel
  obtain ⟨endpoint, member, found⟩ := List.any_eq_true.mp present
  obtain ⟨kind, made⟩ := of_decide_eq_true found
  obtain ⟨function, made⟩ := isOk_iff.mp made
  obtain ⟨request, serves, literal⟩ := initializes_of_listHandler member kind made
  exact ⟨endpoint, function, request, member, kind, made, serves, literal⟩

/-- Options that name the owner as page size. -/
def ownerSized : BuildOptions :=
  { ownerOptions with pageSizeField := "owner_id" }

/-- A List that filters by the owner and has it as page size sets the owner twice. -/
theorem twice_initialized_owner :
    ∃ endpoint ∈ (buildEndpoints ownerDescription ownerSchema ownerSized).endpoints,
      endpoint.kind = .list ∧
      ∃ function, listHandler ownerSchema ownerSized.registry ownerSurroundings endpoint = .ok function ∧
        function.requestFields = ["owner_id", "owner_id"] ∧ ¬ function.requestFields.Nodup := by
  have present : (buildEndpoints ownerDescription ownerSchema ownerSized).endpoints.any (fun endpoint =>
      endpoint.kind = .list ∧
        (listHandler ownerSchema ownerSized.registry ownerSurroundings endpoint).toOption.any
          (·.requestFields = ["owner_id", "owner_id"])) = true := by
    decide +kernel
  obtain ⟨endpoint, member, found⟩ := List.any_eq_true.mp present
  obtain ⟨kind, made⟩ := of_decide_eq_true found
  obtain ⟨function, made, fields⟩ := (Option.any_eq_true _ _).mp made
  have twice : function.requestFields = ["owner_id", "owner_id"] := of_decide_eq_true fields
  exact ⟨endpoint, member, kind, function, toOption_eq_some_iff.mp made, twice, by rw [twice]; decide⟩

end QuerySynth
