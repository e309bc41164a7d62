import QuerySynth.Generate.Files
import QuerySynth.Proofs.Endpoint.Sound
import QuerySynth.Proofs.Generate.Constructor
import QuerySynth.Proofs.Generate.Handler
import QuerySynth.Proofs.Schema.Named

/-! # The generated modules agree

The module of constructors and the module of handlers are made apart and share only the registry. Every
call of a constructor meets one definition, with an argument for every operator in its place; every
constructor is called; and every translator that a handler uses stands in its module, if the schema keeps
the row message under its own name.

The names of handlers, and whether the modules around the generated code define what it uses of them,
are not spoken of here.
-/

namespace QuerySynth

open Code

/-- What a List handler passes for an operator, to a parameter of the given type: nothing when the
operator is not bound, else the parameter bound to it, read as a list if the type is one. -/
def FilterBinding.passes (binding : FilterBinding) (op : Operator) (type : TypeExpr) : Expr :=
  match binding.param? op with
  | none => .absent
  | some param => if type.isOptionalList then .parseList param else .parse param

/-- What a Get handler passes for an operator: the path parameter of the key for `eq`. -/
def KeyBinding.passes (key : KeyBinding) (op : Operator) (_ : TypeExpr) : Expr :=
  if op = .eq then .present key.read else .absent

/-- A call that fits a definition with a parameter for each of the operators. -/
structure Code.FilterCall.Fits (call : FilterCall) (definition : Function) (operators : List Operator)
    (passes : Operator → TypeExpr → Expr) : Prop where
  /-- The parameters are named after the operators, in order. -/
  named : definition.params.map (·.1) = operators.map fun op => ident op.token
  /-- Every parameter has an argument. -/
  count : call.args.length = definition.params.length
  /-- Every argument is that of its operator, for the type of its parameter. -/
  args : call.args = List.zipWith passes operators (definition.params.map (·.2))

/-- A call of the constructor of a family, which has exactly one definition and fits it. -/
def Code.FilterCall.Resolves (call : FilterCall) (registry : Registry) (constructors : Code.Module)
    (filterType : String) (passes : Operator → TypeExpr → Expr) : Prop :=
  ∃ family definition, registry.get? filterType = some family ∧
    constructors.functions.filter (·.name = call.name) = [definition] ∧
    call.Fits definition family.operators passes

/-- What the constructor calls in the handler of an endpoint have to do with the constructors. -/
structure Endpoint.Agrees (registry : Registry) (constructors : Code.Module) (endpoint : Endpoint)
    (function : Function) : Prop where
  /-- A List makes one call for each filter binding. -/
  list : endpoint.kind = .list → List.Forall₂ (fun binding (call : FilterCall) =>
    call.Resolves registry constructors binding.filterType binding.passes)
      endpoint.filters function.filterCalls
  /-- A Get makes one call if its key is a filter, else none. -/
  get : endpoint.kind = .get → ∃ key, endpoint.key = some key ∧
    List.Forall₂ (fun filterType (call : FilterCall) =>
      call.Resolves registry constructors filterType key.passes)
        key.value.filterType?.toList function.filterCalls

/-- The functions that the handler of an endpoint names are defined beside it. -/
structure Endpoint.Closed (schema : Schema) (handlers : Code.Module) (endpoint : Endpoint)
    (function : Function) : Prop where
  /-- The handler uses the translator of the endpoint's rows, which is defined. -/
  translated : ∃ message, schema.message? endpoint.rowMessage = some message ∧
    translator message ∈ handlers.functions ∧ (translator message).name ∈ function.names
  /-- Every other function that the handler may name is defined as well. -/
  closed : ∀ name ∈ function.names, name ∈ scopeNames ∨
    ∃ definition ∈ handlers.functions, definition.name = name

/-- What the generated modules of a list of endpoints say about each other. The module of handlers holds
the handlers made for the endpoints and then other functions. -/
structure ModulesAgree (schema : Schema) (registry : Registry) (endpoints : List Endpoint)
    (constructors handlers : Code.Module) (made others : List Function) : Prop where
  functions : handlers.functions = made ++ others
  agrees : List.Forall₂ (Endpoint.Agrees registry constructors) endpoints made
  /-- No other function calls a constructor. -/
  others : ∀ function ∈ others, function.filterCalls = []
  /-- Every constructor is called by some handler. -/
  called : ∀ definition ∈ constructors.functions, ∃ function ∈ made,
    ∃ call ∈ function.filterCalls, call.name = definition.name
  /-- A handler's translator is defined if its row message is stored under its own name. -/
  closed : List.Forall₂ (fun endpoint function => schema.Keeps endpoint.rowMessage →
    endpoint.Closed schema handlers function) endpoints made

section Calls

variable {schema : Schema} {registry : Registry} {around : Surroundings} {endpoints : List Endpoint}
  {families : List Family} {filterType : String} {call : FilterCall}

theorem fits_call {family : Family} {argument? : Operator → Option Expr}
    {passes : Operator → TypeExpr → Expr}
    (same : ∀ op, passes op (family.argumentType op) = (argument? op).getD .absent) :
    (family.call argument?).Fits family.constructor family.operators passes := by
  constructor
  · rw [Family.params_constructor, List.map_map]
    rfl
  · rw [Family.params_constructor, Family.call, List.length_map, List.length_map]
  · rw [Family.params_constructor, Family.call, List.map_map, List.zipWith_map_right,
      List.zipWith_self]
    apply List.map_congr_left
    intro op _
    exact (same op).symm

/-- A call of a registered family resolves when its family is among those of the module. -/
theorem resolves_of_builds {argument? : Operator → Option Expr} {passes : Operator → TypeExpr → Expr}
    (builds : call.Builds registry filterType argument?)
    (given : ∀ family, registry.get? filterType = some family → family ∈ families)
    (same : ∀ (family : Family) op, passes op (family.argumentType op) = (argument? op).getD .absent) :
    call.Resolves registry (constructorModule around families) filterType passes := by
  obtain ⟨family, registered, rfl⟩ := builds
  refine ⟨family, family.constructor, registered, ?_, fits_call (same family)⟩
  rw [Family.name_call]
  exact filter_functions_constructorModule (given family registered)

theorem passes_binding (binding : FilterBinding) (family : Family) (op : Operator) :
    binding.passes op (family.argumentType op) = (binding.argument? op).getD .absent := by
  rw [FilterBinding.passes, FilterBinding.argument?, Family.isOptionalList_argumentType]
  cases binding.param? op <;> rfl

theorem passes_key (key : KeyBinding) (family : Family) (op : Operator) :
    key.passes op (family.argumentType op) = (key.argument? op).getD .absent := by
  rw [KeyBinding.passes, KeyBinding.argument?]
  split <;> rfl

theorem mem_referencedFilters {family : Family} :
    family ∈ referencedFilters registry endpoints ↔
      ∃ endpoint ∈ endpoints, ∃ filterType ∈ endpoint.filterTypes,
        registry.get? filterType = some family := by
  rw [referencedFilters, List.mem_filterMap]
  simp only [mem_sortedNames, List.mem_flatMap]
  constructor
  · rintro ⟨filterType, ⟨endpoint, member, named⟩, registered⟩
    exact ⟨endpoint, member, filterType, named, registered⟩
  · rintro ⟨endpoint, member, filterType, named, registered⟩
    exact ⟨filterType, ⟨endpoint, member, named⟩, registered⟩

end Calls

section Modules

variable {schema : Schema} {registry : Registry} {around : Surroundings} {endpoints : List Endpoint}
  {endpoint : Endpoint} {function : Function}

/-- The functions of the module of handlers are the handlers and then the translators. -/
theorem handlerModule_eq_ok {module : Code.Module}
    (made : handlerModule schema registry around endpoints = .ok module) :
    ∃ made others, handlers schema registry around endpoints = .ok made ∧
      translators schema endpoints = .ok others ∧ module.functions = made ++ others := by
  obtain ⟨functions, first, rest⟩ := bind_eq_ok_iff.mp made
  obtain ⟨others, second, rest⟩ := bind_eq_ok_iff.mp rest
  obtain rfl := Except.ok.inj rest
  refine ⟨functions, others, first, second, ?_⟩
  rw [Code.Module.functions, List.filterMap_append, filterMap_function_map]
  split <;> rfl

theorem forall₂_translators {functions : List Function}
    (made : translators schema endpoints = .ok functions) :
    List.Forall₂ (fun name function => ∃ message, schema.message? name = some message ∧
      translator message = function) (sortedNames (endpoints.map (·.rowMessage))) functions := by
  refine (forall₂_of_mapM made).imp ?_
  intro name function translated
  cases found : schema.message? name with
  | none => simp [found] at translated
  | some message =>
    rw [found] at translated
    exact ⟨message, rfl, Except.ok.inj translated⟩

theorem forall₂_handlers {functions : List Function}
    (made : handlers schema registry around endpoints = .ok functions) :
    List.Forall₂ (fun endpoint function => handler schema registry around endpoint = .ok function)
      endpoints functions := by
  refine (forall₂_of_mapM made).imp ?_
  intro endpoint function handled
  exact mapError_eq_ok_iff.mp handled

/-- The handlers call a constructor of every family that an endpoint needs. -/
theorem exists_call_of_filterType (handled : endpoint.HandledBy registry function) {filterType : String}
    {family : Family} (member : filterType ∈ endpoint.filterTypes)
    (registered : registry.get? filterType = some family) :
    ∃ call ∈ function.filterCalls, call.name = ident family.constructorName := by
  have named {call : FilterCall} {argument? : Operator → Option Expr}
      (builds : call.Builds registry filterType argument?) : call.name = ident family.constructorName := by
    obtain ⟨other, found, rfl⟩ := builds
    obtain rfl := Option.some.inj (registered.symm.trans found)
    exact Family.name_call family argument?
  rw [Endpoint.filterTypes] at member
  cases kind : endpoint.kind with
  | list =>
    rw [kind] at member
    obtain ⟨binding, bound, rfl⟩ := List.mem_map.mp member
    obtain ⟨call, present, builds⟩ := exists_right_of_mem (handled.list kind) bound
    exact ⟨call, present, named builds⟩
  | get =>
    rw [kind] at member
    obtain ⟨key, found, calls⟩ := handled.get kind
    rw [found] at member
    obtain ⟨call, present, builds⟩ := exists_right_of_mem calls member
    exact ⟨call, present, named builds⟩

/-- The calls of a handler agree with the constructors that its endpoint is generated with. -/
theorem agrees_of_handledBy (handled : endpoint.HandledBy registry function) (member : endpoint ∈ endpoints) :
    endpoint.Agrees registry (constructorModule around (referencedFilters registry endpoints)) function := by
  have known (filterType : String) (needed : filterType ∈ endpoint.filterTypes) (family : Family)
      (registered : registry.get? filterType = some family) :
      family ∈ referencedFilters registry endpoints :=
    mem_referencedFilters.mpr ⟨endpoint, member, filterType, needed, registered⟩
  constructor
  · intro kind
    refine ((List.forall₂_and_left _ _).mpr ⟨fun binding bound => bound, handled.list kind⟩).imp ?_
    rintro binding call ⟨bound, builds⟩
    refine resolves_of_builds builds (known _ ?_) (passes_binding binding)
    rw [Endpoint.filterTypes, kind]
    exact List.mem_map_of_mem bound
  · intro kind
    obtain ⟨key, held, calls⟩ := handled.get kind
    refine ⟨key, held, ?_⟩
    refine ((List.forall₂_and_left _ _).mpr ⟨fun filterType needed => needed, calls⟩).imp ?_
    rintro filterType call ⟨needed, builds⟩
    refine resolves_of_builds builds (known _ ?_) (passes_key key)
    rw [Endpoint.filterTypes, kind, held]
    exact needed

/-- The functions that a handler names are defined beside it if its row message has the name that it is
looked up by: the handler names the translator after the one, the definition after the other. -/
theorem closed_of_handledBy {module : Code.Module} (kept : schema.Keeps endpoint.rowMessage)
    (handled : endpoint.HandledBy registry function) (member : endpoint ∈ endpoints)
    {others : List Function} (translated : translators schema endpoints = .ok others)
    (defined : ∀ function ∈ others, function ∈ module.functions) :
    endpoint.Closed schema module function := by
  have row : endpoint.rowMessage ∈ sortedNames (endpoints.map (·.rowMessage)) :=
    mem_sortedNames.mpr (List.mem_map_of_mem member)
  obtain ⟨function', present, message, found, rfl⟩ :=
    exists_right_of_mem (forall₂_translators translated) row
  obtain ⟨message', found', own⟩ := kept
  obtain rfl := Option.some.inj (found.symm.trans found')
  have name : (translator message).name = ident (translatorName endpoint.rowMessage) := by
    rw [translator, own]
  constructor
  · exact ⟨message, found, defined _ present, name ▸ handled.translates⟩
  · intro other used
    rcases List.mem_cons.mp (handled.names other used) with same | around
    · exact .inr ⟨translator message, defined _ present, name.trans same.symm⟩
    · exact .inl around

/-- The modules of endpoints with distinct filter fields agree. -/
theorem modulesAgree_of_handlerModule {module : Code.Module}
    (distinct : ∀ endpoint ∈ endpoints, (endpoint.filters.map (·.field)).Nodup)
    (made : handlerModule schema registry around endpoints = .ok module) :
    ∃ made others, ModulesAgree schema registry endpoints
      (constructorModule around (referencedFilters registry endpoints)) module made others := by
  obtain ⟨made, others, handled, translated, functions⟩ := handlerModule_eq_ok made
  have paired : List.Forall₂ (fun endpoint function => endpoint ∈ endpoints ∧
      endpoint.HandledBy registry function) endpoints made := by
    refine ((List.forall₂_and_left _ _).mpr
      ⟨fun endpoint member => member, forall₂_handlers handled⟩).imp ?_
    rintro endpoint function ⟨member, made⟩
    exact ⟨member, handledBy_of_handler (distinct endpoint member) made⟩
  refine ⟨made, others, functions, paired.imp ?_, ?_, ?_, paired.imp ?_⟩
  · rintro endpoint function ⟨member, handled⟩
    exact agrees_of_handledBy handled member
  · intro function present
    obtain ⟨name, -, message, -, rfl⟩ := exists_left_of_mem (forall₂_translators translated) present
    exact (calls_translator message).calls
  · intro definition present
    obtain ⟨family, referenced, rfl⟩ := mem_functions_constructorModule.mp present
    obtain ⟨endpoint, member, filterType, needed, registered⟩ := mem_referencedFilters.mp referenced
    obtain ⟨function, present, -, handled⟩ := exists_right_of_mem paired member
    obtain ⟨call, called, name⟩ := exists_call_of_filterType handled needed registered
    exact ⟨function, present, call, called, name.trans (Family.name_constructor family).symm⟩
  · rintro endpoint function ⟨member, handled⟩ kept
    refine closed_of_handledBy kept handled member translated ?_
    intro function present
    rw [functions]
    exact List.mem_append_right _ present

/-- When every message has its own name, the handlers of a model name only functions that are defined. -/
theorem ModulesAgree.closed_of_named {description : Rest.Description} {options : BuildOptions}
    {constructors handlers : Code.Module} {made others : List Function}
    (agree : ModulesAgree schema options.registry (buildEndpoints description schema options).endpoints
      constructors handlers made others) (named : schema.Named) :
    List.Forall₂ (Endpoint.Closed schema handlers)
      (buildEndpoints description schema options).endpoints made := by
  refine ((List.forall₂_and_left _ _).mpr ⟨fun endpoint member => member, agree.closed⟩).imp ?_
  rintro endpoint function ⟨member, closed⟩
  exact closed (named.keeps (isSome_row_of_mem_endpoints member))

theorem finish_eq_ok {imported : List ModulePath} {module : Code.Module} {text : String}
    (finished : finish imported module = .ok text) : text = module.render := by
  rw [finish] at finished
  split at finished
  · exact (Except.ok.inj finished).symm
  · simp at finished

/-- The files hold the module of constructors and the module of handlers. -/
theorem renderFiles_eq_ok {files : List GeneratedFile}
    (rendered : renderFiles schema registry around endpoints = .ok files) :
    ∃ module, handlerModule schema registry around endpoints = .ok module ∧
      files = [⟨"filters.rs", (constructorModule around (referencedFilters registry endpoints)).render⟩,
        ⟨"handlers.rs", module.render⟩,
        ⟨"mod.rs", indexModule.render⟩] := by
  obtain ⟨filters, first, rest⟩ := bind_eq_ok_iff.mp rendered
  obtain ⟨handlers, second, rest⟩ := bind_eq_ok_iff.mp rest
  obtain ⟨index, third, rest⟩ := bind_eq_ok_iff.mp rest
  obtain rfl := Except.ok.inj rest
  obtain ⟨module, made, finished⟩ := bind_eq_ok_iff.mp (mapError_eq_ok_iff.mp second)
  refine ⟨module, made, ?_⟩
  rw [finish_eq_ok (mapError_eq_ok_iff.mp first), finish_eq_ok finished,
    finish_eq_ok (mapError_eq_ok_iff.mp third)]

end Modules

/-- The generated modules of a model agree, and for a schema that has been loaded the functions that a
handler names are all defined. -/
theorem modulesAgree_of_renderFiles {description : Rest.Description} {schema : Schema}
    {options : BuildOptions} {around : Surroundings} {files : List GeneratedFile}
    (rendered : renderFiles schema options.registry around
      (buildEndpoints description schema options).endpoints = .ok files) :
    ∃ handlers made others, handlerModule schema options.registry around
        (buildEndpoints description schema options).endpoints = .ok handlers ∧
      files = [⟨"filters.rs", (constructorModule around (referencedFilters options.registry
          (buildEndpoints description schema options).endpoints)).render⟩,
        ⟨"handlers.rs", handlers.render⟩,
        ⟨"mod.rs", indexModule.render⟩] ∧
      ModulesAgree schema options.registry (buildEndpoints description schema options).endpoints
        (constructorModule around (referencedFilters options.registry
          (buildEndpoints description schema options).endpoints)) handlers made others ∧
      ∀ (storage : Storage) source path, storage.loadSchema source path = .ok schema →
        List.Forall₂ (Endpoint.Closed schema handlers)
          (buildEndpoints description schema options).endpoints made := by
  obtain ⟨module, assembled, written⟩ := renderFiles_eq_ok rendered
  have distinct (endpoint : Endpoint)
      (member : endpoint ∈ (buildEndpoints description schema options).endpoints) :
      (endpoint.filters.map (·.field)).Nodup := by
    obtain ⟨request, -, -, sound⟩ := sound_of_mem_endpoints member
    exact sound.nodup_fields
  obtain ⟨made, others, agree⟩ := modulesAgree_of_handlerModule distinct assembled
  refine ⟨module, made, others, assembled, written, agree, ?_⟩
  intro storage source path loaded
  exact agree.closed_of_named (Storage.named_of_loadSchema loaded)

def ownerSurroundings : Surroundings :=
  ⟨⟨false, ["crate", "pb"], false⟩, ⟨false, ["crate", "runtime"], false⟩,
   ⟨false, ["crate", "queries"], false⟩, 100⟩

theorem named_ownerSchema : ownerSchema.Named := by
  rw [Schema.Named]
  decide

/-- The modules of the owner's List agree, and its handler's translator is defined. -/
theorem modulesAgree_owner :
    ∃ files handlers made others, renderFiles ownerSchema ownerOptions.registry ownerSurroundings
        (buildEndpoints ownerDescription ownerSchema ownerOptions).endpoints = .ok files ∧
      handlerModule ownerSchema ownerOptions.registry ownerSurroundings
        (buildEndpoints ownerDescription ownerSchema ownerOptions).endpoints = .ok handlers ∧
      ModulesAgree ownerSchema ownerOptions.registry
        (buildEndpoints ownerDescription ownerSchema ownerOptions).endpoints
        (constructorModule ownerSurroundings (referencedFilters ownerOptions.registry
          (buildEndpoints ownerDescription ownerSchema ownerOptions).endpoints)) handlers made others ∧
      List.Forall₂ (Endpoint.Closed ownerSchema handlers)
        (buildEndpoints ownerDescription ownerSchema ownerOptions).endpoints made := by
  have succeeds : (renderFiles ownerSchema ownerOptions.registry ownerSurroundings
      (buildEndpoints ownerDescription ownerSchema ownerOptions).endpoints).isOk = true := by
    decide +kernel
  obtain ⟨files, rendered⟩ := isOk_iff.mp succeeds
  obtain ⟨handlers, made, others, assembled, -, agree, -⟩ := modulesAgree_of_renderFiles rendered
  exact ⟨files, handlers, made, others, rendered, assembled, agree,
    agree.closed_of_named named_ownerSchema⟩

/-- The schema of the owner's List with rows that are stored under another name than their own. -/
def strayRowSchema : Schema where
  services := ownerSchema.services
  messages := ownerSchema.messages.insert "Item" ⟨"Row", "items.Row", []⟩

/-- The handler of the List then names a translator that its module does not define. -/
theorem undefined_translator_stray :
    ∃ files handlers, renderFiles strayRowSchema ownerOptions.registry ownerSurroundings
        (buildEndpoints ownerDescription strayRowSchema ownerOptions).endpoints = .ok files ∧
      handlerModule strayRowSchema ownerOptions.registry ownerSurroundings
        (buildEndpoints ownerDescription strayRowSchema ownerOptions).endpoints = .ok handlers ∧
      files[1]? = some ⟨"handlers.rs", handlers.render⟩ ∧
      (∃ function ∈ handlers.functions, "translate_item_row" ∈ function.names) ∧
      ∀ definition ∈ handlers.functions, definition.name ≠ "translate_item_row" := by
  have succeeds : (renderFiles strayRowSchema ownerOptions.registry ownerSurroundings
      (buildEndpoints ownerDescription strayRowSchema ownerOptions).endpoints).isOk = true := by
    decide +kernel
  have stray : ∀ handlers ∈ (handlerModule strayRowSchema ownerOptions.registry ownerSurroundings
        (buildEndpoints ownerDescription strayRowSchema ownerOptions).endpoints).toOption,
      (∃ function ∈ handlers.functions, "translate_item_row" ∈ function.names) ∧
        ∀ definition ∈ handlers.functions, definition.name ≠ "translate_item_row" := by
    decide +kernel
  obtain ⟨files, rendered⟩ := isOk_iff.mp succeeds
  obtain ⟨handlers, assembled, rfl⟩ := renderFiles_eq_ok rendered
  exact ⟨_, handlers, rendered, assembled, rfl, stray handlers (toOption_eq_some_iff.mpr assembled)⟩

end QuerySynth
