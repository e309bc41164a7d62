import QuerySynth.Proofs.Code.Identifier
import QuerySynth.Proofs.Endpoint.Order
import QuerySynth.Proofs.Generate.Success
import QuerySynth.Proofs.Text.Pieces

/-! # Names of generated functions

Of several endpoints with one handler name only the first is kept, so handlers have different names. The
identifiers of handlers and translators differ exactly when their names are also spelled differently, the
two kinds together. That is not always so: a handler may be named like a translator.
-/

namespace QuerySynth

open Code

variable (operationId : Option String) (kind : MethodKind) (resource message : String)

/-- An operation's name gives its handler a name of small letters, digits and single underscores. -/
theorem underscored_handlerName (id : String) : Underscored (handlerName (some id) kind resource) := by
  apply underscored_snake
  intro c member
  obtain ⟨original, -, rfl⟩ := List.mem_map.mp member
  split
  · rename_i word
    exact isWordChar_of_isAlphanum word
  · decide

/-- The name of an operation is spelled as it is. -/
theorem spelled_handlerName_some (id : String) :
    spelled (handlerName (some id) kind resource) = (handlerName (some id) kind resource).toList :=
  (underscored_handlerName kind resource id).spelled_eq

/-- The word in front of the resource in a handler name. -/
theorem isPrefix_handlerName_none :
    (kind.queryWord ++ "_").toList <+: spelled (handlerName none kind resource) := by
  cases kind <;> exact ⟨spelled resource, by rw [handlerName, spelled_append]; rfl⟩

theorem isPrefix_translatorName : "translate_".toList <+: spelled (translatorName message) := by
  rw [translatorName, spelled_append, spelled_append, List.append_assoc]
  exact ⟨_, rfl⟩

/-- No handler name looks escaped. -/
theorem unescaped_handlerName : Unescaped (handlerName operationId kind resource) := by
  cases operationId with
  | some id => exact (underscored_handlerName kind resource id).unescaped
  | none =>
    cases kind with
    | list =>
      exact unescaped_of_isPrefix (isPrefix_handlerName_none .list resource) ⟨'l', by decide⟩ (by decide)
    | get =>
      exact unescaped_of_isPrefix (isPrefix_handlerName_none .get resource) ⟨'g', by decide⟩ (by decide)

theorem unescaped_translatorName : Unescaped (translatorName message) :=
  unescaped_of_isPrefix (isPrefix_translatorName message) ⟨'t', by decide⟩ (by decide)

/-- A handler that is named after its resource is not named like a translator. -/
theorem spelled_handlerName_none_ne :
    spelled (handlerName none kind resource) ≠ spelled (translatorName message) := by
  intro same
  have front := same ▸ isPrefix_handlerName_none kind resource
  rcases List.prefix_or_prefix_of_prefix front (isPrefix_translatorName message) with shorter | longer
  · cases kind <;> exact absurd shorter (by decide)
  · cases kind <;> exact absurd longer (by decide)

variable {first second : String}

/-- Translators are spelled alike when the delimited forms of their messages are. -/
theorem spelled_translatorName_eq_iff :
    spelled (translatorName first) = spelled (translatorName second) ↔
      spelled (Name.toSnake first) = spelled (Name.toSnake second) := by
  simp only [translatorName, spelled_append, List.append_cancel_left_eq, List.append_cancel_right_eq]

variable {endpoints : List Endpoint} {endpoint : Endpoint}

/-- An endpoint is named as its operation asks for. -/
theorem handlerName_of_mem_endpoints {description : Rest.Description} {schema : Schema}
    {options : BuildOptions} (member : endpoint ∈ (buildEndpoints description schema options).endpoints) :
    endpoint.handlerName = handlerName endpoint.operationId endpoint.kind endpoint.resource := by
  obtain ⟨operation, resource, raws, findings, built⟩ := exists_buildEndpoint_of_mem_endpoints member
  obtain ⟨exchange, draft, -, -, -, assembled⟩ := buildEndpoint_eq_ok_iff.mp built
  obtain rfl : (assemble options operation resource exchange draft).1 = endpoint := by rw [assembled]
  rfl

theorem name_of_handler {schema : Schema} {registry : Registry} {around : Surroundings} {function : Function}
    (made : handler schema registry around endpoint = .ok function) :
    function.name = ident endpoint.handlerName := by
  rw [handler] at made
  cases kind : endpoint.kind with
  | list =>
    rw [kind] at made
    obtain ⟨_, _, -, name, -⟩ := of_listHandler made
    exact name
  | get =>
    rw [kind] at made
    obtain ⟨_, _, -, -, name, -⟩ := of_getHandler made
    exact name

/-- The names in the module of handlers: those of the handlers, then those of the translators. -/
theorem names_of_handlerModule {schema : Schema} {registry : Registry} {around : Surroundings}
    {module : Code.Module} (named : schema.Named)
    (made : handlerModule schema registry around endpoints = .ok module) :
    module.functions.map (·.name) = (endpoints.map fun endpoint => ident endpoint.handlerName) ++
      (sortedNames (endpoints.map (·.rowMessage))).map fun message => ident (translatorName message) := by
  obtain ⟨functions, others, handled, translated, whole⟩ := handlerModule_eq_ok made
  rw [whole, List.map_append]
  congr 1
  · exact map_eq_of_forall₂ ((forall₂_handlers handled).imp fun _ _ made => name_of_handler made)
  · refine map_eq_of_forall₂ ((forall₂_translators translated).imp ?_)
    rintro name _ ⟨message, found, rfl⟩
    rw [translator, named.name_of_message? found]

/-- The names of handlers and translators can be told apart when foreign characters cannot. Handlers that
are named after their operations are different from each other by themselves, and those that are named after
their resources from every translator. -/
structure NamesApart (endpoints : List Endpoint) : Prop where
  /-- A handler named after its resource is spelled unlike the others. -/
  handlers : ∀ first ∈ endpoints, first.operationId = none → ∀ second ∈ endpoints,
    spelled first.handlerName = spelled second.handlerName → first.handlerName = second.handlerName
  /-- Different row messages have delimited forms that are spelled differently. -/
  rows : ∀ first ∈ endpoints, ∀ second ∈ endpoints,
    spelled (Name.toSnake first.rowMessage) = spelled (Name.toSnake second.rowMessage) →
      first.rowMessage = second.rowMessage
  /-- A handler named after its operation is spelled unlike the translators. -/
  translators : ∀ first ∈ endpoints, first.operationId.isSome → ∀ second ∈ endpoints,
    spelled first.handlerName ≠ spelled (translatorName second.rowMessage)

section Apart

variable (asked : ∀ endpoint ∈ endpoints,
  endpoint.handlerName = handlerName endpoint.operationId endpoint.kind endpoint.resource)

include asked

theorem ident_handlerName_eq_iff {first second : Endpoint} (member : first ∈ endpoints)
    (other : second ∈ endpoints) : ident first.handlerName = ident second.handlerName ↔
      spelled first.handlerName = spelled second.handlerName := by
  rw [asked first member, asked second other]
  exact ident_eq_iff (unescaped_handlerName _ _ _) (unescaped_handlerName _ _ _)

theorem ident_handlerName_eq_translatorName_iff (member : endpoint ∈ endpoints) :
    ident endpoint.handlerName = ident (translatorName message) ↔
      spelled endpoint.handlerName = spelled (translatorName message) := by
  rw [asked endpoint member]
  exact ident_eq_iff (unescaped_handlerName _ _ _) (unescaped_translatorName _)

/-- Handlers that are named after operations and spelled alike have one name. -/
theorem handlerName_eq_of_spelled {first second : Endpoint} (member : first ∈ endpoints)
    (other : second ∈ endpoints) (named : first.operationId.isSome) (named' : second.operationId.isSome)
    (same : spelled first.handlerName = spelled second.handlerName) :
    first.handlerName = second.handlerName := by
  obtain ⟨id, present⟩ := Option.isSome_iff_exists.mp named
  obtain ⟨id', present'⟩ := Option.isSome_iff_exists.mp named'
  rw [asked first member, asked second other, present, present', spelled_handlerName_some,
    spelled_handlerName_some] at same
  rw [asked first member, asked second other, present, present']
  exact String.toList_injective same

theorem nodup_handlers_iff (distinct : (endpoints.map (·.handlerName)).Nodup) :
    (endpoints.map fun endpoint => ident endpoint.handlerName).Nodup ↔
      ∀ first ∈ endpoints, first.operationId = none → ∀ second ∈ endpoints,
        spelled first.handlerName = spelled second.handlerName →
          first.handlerName = second.handlerName := by
  have composed : (endpoints.map fun endpoint => ident endpoint.handlerName) =
      (endpoints.map (·.handlerName)).map ident := by
    rw [List.map_map]
    rfl
  rw [composed, List.nodup_map_iff_inj_on distinct]
  simp only [List.forall_mem_map]
  constructor
  · intro apart first member _ second other same
    exact apart first member second other ((ident_handlerName_eq_iff asked member other).mpr same)
  · intro apart first member second other same
    have spelled := (ident_handlerName_eq_iff asked member other).mp same
    cases named : first.operationId with
    | none => exact apart first member named second other spelled
    | some id =>
      cases named' : second.operationId with
      | none => exact (apart second other named' first member spelled.symm).symm
      | some id' =>
        -- Names of operations have no foreign characters, so they are spelled as they are.
        exact handlerName_eq_of_spelled asked member other (by rw [named]; rfl) (by rw [named']; rfl) spelled

theorem disjoint_translators_iff :
    (∀ endpoint ∈ endpoints, ∀ other ∈ endpoints,
      ident endpoint.handlerName ≠ ident (translatorName other.rowMessage)) ↔
      ∀ first ∈ endpoints, first.operationId.isSome → ∀ second ∈ endpoints,
        spelled first.handlerName ≠ spelled (translatorName second.rowMessage) := by
  constructor
  · intro apart first member _ second other same
    exact apart first member second other
      ((ident_handlerName_eq_translatorName_iff second.rowMessage asked member).mpr same)
  · intro apart first member second other same
    have spelled := (ident_handlerName_eq_translatorName_iff second.rowMessage asked member).mp same
    cases named : first.operationId with
    | none =>
      -- The word in front of the resource is none of a translator.
      rw [asked first member, named] at spelled
      exact spelled_handlerName_none_ne _ _ _ spelled
    | some id => exact apart first member (by rw [named]; rfl) second other spelled

end Apart

theorem nodup_rows_iff :
    ((sortedNames (endpoints.map (·.rowMessage))).map fun message => ident (translatorName message)).Nodup ↔
      ∀ first ∈ endpoints, ∀ second ∈ endpoints,
        spelled (Name.toSnake first.rowMessage) = spelled (Name.toSnake second.rowMessage) →
          first.rowMessage = second.rowMessage := by
  rw [List.nodup_map_iff_inj_on (nodup_of_pairwise_lt (pairwise_sortedNames _))]
  simp only [mem_sortedNames, List.forall_mem_map,
    ident_eq_iff (unescaped_translatorName _) (unescaped_translatorName _), spelled_translatorName_eq_iff]

/-- The names of the functions are different exactly when the names of the endpoints stay apart. -/
theorem nodup_names_iff
    (asked : ∀ endpoint ∈ endpoints,
      endpoint.handlerName = handlerName endpoint.operationId endpoint.kind endpoint.resource)
    (distinct : (endpoints.map (·.handlerName)).Nodup) :
    ((endpoints.map fun endpoint => ident endpoint.handlerName) ++
      (sortedNames (endpoints.map (·.rowMessage))).map fun message => ident (translatorName message)).Nodup ↔
      NamesApart endpoints := by
  have disjoint : (∀ a ∈ endpoints.map fun endpoint => ident endpoint.handlerName,
      ∀ b ∈ (sortedNames (endpoints.map (·.rowMessage))).map fun message => ident (translatorName message),
        a ≠ b) ↔ ∀ endpoint ∈ endpoints, ∀ other ∈ endpoints,
          ident endpoint.handlerName ≠ ident (translatorName other.rowMessage) := by
    simp only [List.forall_mem_map, mem_sortedNames]
  rw [List.nodup_append, nodup_handlers_iff asked distinct, nodup_rows_iff, disjoint,
    disjoint_translators_iff asked]
  constructor
  · rintro ⟨handlers, rows, translators⟩
    exact ⟨handlers, rows, translators⟩
  · intro apart
    exact ⟨apart.handlers, apart.rows, apart.translators⟩

instance (endpoints : List Endpoint) : Decidable (NamesApart endpoints) :=
  decidable_of_iff
    ((∀ first ∈ endpoints, first.operationId = none → ∀ second ∈ endpoints,
        spelled first.handlerName = spelled second.handlerName →
          first.handlerName = second.handlerName) ∧
      (∀ first ∈ endpoints, ∀ second ∈ endpoints,
        spelled (Name.toSnake first.rowMessage) = spelled (Name.toSnake second.rowMessage) →
          first.rowMessage = second.rowMessage) ∧
      ∀ first ∈ endpoints, first.operationId.isSome → ∀ second ∈ endpoints,
        spelled first.handlerName ≠ spelled (translatorName second.rowMessage))
    ⟨fun ⟨handlers, rows, translators⟩ => ⟨handlers, rows, translators⟩,
      fun apart => ⟨apart.handlers, apart.rows, apart.translators⟩⟩

/-- The modules that the files of a plan hold. -/
structure Plan.MadeOf (schema : Schema) (registry : Registry) (around : Surroundings) (plan : Plan)
    (constructors handlers : Code.Module) : Prop where
  /-- The constructors are those of the families that the endpoints need. -/
  constructed : constructors = constructorModule around (referencedFilters registry plan.model.endpoints)
  /-- The handlers are those of the endpoints. -/
  handled : handlerModule schema registry around plan.model.endpoints = .ok handlers
  written : plan.files = [⟨"filters.rs", constructors.render⟩, ⟨"handlers.rs", handlers.render⟩,
    ⟨"mod.rs", indexModule.render⟩]

section Plan

variable {settings : Settings} {description : Rest.Description} {schema : Schema} {registry : Registry}
  {plan : Plan}

/-- A plan holds the modules of the endpoints of its model. -/
theorem madeOf_of_plan (planned : settings.plan description schema registry = .ok plan) :
    plan.model = settings.endpointModel description schema registry ∧
      ∃ around constructors handlers, settings.surroundings = .ok around ∧
        plan.MadeOf schema registry around constructors handlers := by
  obtain ⟨around, read, rest⟩ := bind_eq_ok_iff.mp planned
  obtain ⟨files, rendered, rest⟩ := bind_eq_ok_iff.mp rest
  obtain rfl := Except.ok.inj rest
  obtain ⟨handlers, made, written⟩ := renderFiles_eq_ok rendered
  exact ⟨rfl, around, _, handlers, read, rfl, made, written⟩

theorem nodup_names_iff_of_madeOf (named : schema.Named) {around : Surroundings}
    {constructors handlers : Code.Module}
    (made : plan.MadeOf schema registry around constructors handlers)
    (model : plan.model = settings.endpointModel description schema registry) :
    (handlers.functions.map (·.name)).Nodup ↔ NamesApart plan.model.endpoints := by
  rw [names_of_handlerModule named made.handled, model]
  exact nodup_names_iff (fun _ member => handlerName_of_mem_endpoints member) (nodup_handlerNames _ _ _)

/-- A plan defines every constructor once, and every handler and translator once exactly when the names of
its endpoints stay apart. -/
theorem nodup_names_of_plan (named : schema.Named)
    (planned : settings.plan description schema registry = .ok plan) :
    ∃ around constructors handlers, settings.surroundings = .ok around ∧
      plan.MadeOf schema registry around constructors handlers ∧
      (constructors.functions.map (·.name)).Nodup ∧
      ((handlers.functions.map (·.name)).Nodup ↔ NamesApart plan.model.endpoints) := by
  obtain ⟨model, around, constructors, handlers, read, made⟩ := madeOf_of_plan planned
  refine ⟨around, constructors, handlers, read, made, ?_, nodup_names_iff_of_madeOf named made model⟩
  rw [made.constructed]
  exact nodup_names_constructorModule

end Plan

/-- The owner's List is named after its resource, and its functions are defined once. -/
theorem nodup_names_owner :
    ∃ plan around constructors handlers,
      ({} : Settings).plan ownerDescription ownerSchema Registry.standard = .ok plan ∧ ownerSchema.Named ∧
        plan.MadeOf ownerSchema Registry.standard around constructors handlers ∧
        (constructors.functions.map (·.name)).Nodup ∧ (handlers.functions.map (·.name)).Nodup := by
  have apart : NamesApart
      (({} : Settings).endpointModel ownerDescription ownerSchema Registry.standard).endpoints := by
    decide +kernel
  have planned : ∃ plan, ({} : Settings).plan ownerDescription ownerSchema Registry.standard = .ok plan :=
    exists_plan_of_usual_modules named_ownerSchema ownerDescription Registry.standard 100
  obtain ⟨plan, planned⟩ := planned
  obtain ⟨around, constructors, handlers, -, made, once, iff⟩ :=
    nodup_names_of_plan named_ownerSchema planned
  rw [← (madeOf_of_plan planned).1] at apart
  exact ⟨plan, around, constructors, handlers, planned, named_ownerSchema, made, once, iff.mpr apart⟩

/-- The List of items with an identifier for its operation. -/
def identifiedDocument (operationId : String) : Document :=
  .obj [("info", .obj [("title", .str "Items"), ("version", .str "1")]), ("openapi", .str "3.0.0"),
    ("paths", .obj [("/items", .obj [("get", .obj [("operationId", .str operationId)])])])]

/-- A List that is named like the translator of its rows. -/
def translatingDescription : Rest.Description :=
  ⟨Rest.strip (identifiedDocument "translateItemRow"), Rest.isOpenApi_strip rfl (by cbv), by decide⟩

/-- The module of handlers of that List defines a name twice. -/
theorem not_nodup_names_translating :
    ∃ plan around constructors handlers,
      ({} : Settings).plan translatingDescription ownerSchema Registry.standard = .ok plan ∧
        plan.MadeOf ownerSchema Registry.standard around constructors handlers ∧
        ¬ (handlers.functions.map (·.name)).Nodup := by
  have clash : ¬ NamesApart
      (({} : Settings).endpointModel translatingDescription ownerSchema Registry.standard).endpoints := by
    decide +kernel
  have planned : ∃ plan,
      ({} : Settings).plan translatingDescription ownerSchema Registry.standard = .ok plan :=
    exists_plan_of_usual_modules named_ownerSchema translatingDescription Registry.standard 100
  obtain ⟨plan, planned⟩ := planned
  obtain ⟨model, around, constructors, handlers, -, made⟩ := madeOf_of_plan planned
  rw [← model] at clash
  exact ⟨plan, around, constructors, handlers, planned, made, fun once =>
    clash ((nodup_names_iff_of_madeOf named_ownerSchema made model).mp once)⟩

end QuerySynth
