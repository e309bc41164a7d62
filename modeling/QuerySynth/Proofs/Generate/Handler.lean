import QuerySynth.Generate.Handler
import QuerySynth.Proofs.Code.Parts
import QuerySynth.Proofs.Except

/-! # What handlers call

A List handler calls one constructor for each filter binding, a Get handler that of its key if this is
a filter. Nothing else in a handler calls a constructor, and the only name that a handler takes from
its module is that of a translator.
-/

namespace QuerySynth

open Code

/-- The names that a handler or a translator has without any definition in its module. -/
def scopeNames : List String :=
  ["params", "conn", "request", "query", "rows", "items", "row", "next_page_token",
   "Some", "None", "Ok", "Err"]

/-- The names around a handler that reads rows with the given translator. -/
def handlerScope (translator : String) : List String :=
  translator :: scopeNames

theorem mem_handlerScope (translator : String) {name : String} (known : name ∈ scopeNames) :
    name ∈ handlerScope translator :=
  List.mem_cons_of_mem _ known

section Pieces

variable (translator : String)

theorem calls_parse (param : String) : Calls (handlerScope translator) (Expr.parse param).parts [] := by
  constructor <;> simp [Expr.parse, handlerScope, scopeNames]

theorem calls_parseList (param : String) :
    Calls (handlerScope translator) (Expr.parseList param).parts [] := by
  constructor <;> simp [Expr.parseList, handlerScope, scopeNames]

theorem calls_scalarInit (binding : ScalarBinding) :
    Calls (handlerScope translator) (scalarInit binding).parts [] := by
  rw [scalarInit]
  split
  · exact calls_parse translator _
  · exact .cons rfl rfl ((calls_parseList translator _).append .nil)
  · exact .cons rfl rfl ((calls_parse translator _).append .nil)

theorem calls_pageSizeInit (around : Surroundings) (endpoint : Endpoint) (request : Message)
    (field : String) :
    Calls (handlerScope translator) (pageSizeInit around endpoint request field).parts [] := by
  have known : "Some" ∈ handlerScope translator := mem_handlerScope translator (by decide)
  have wrapped {size : Expr} (plain : Calls (handlerScope translator) size.parts []) :
      Calls (handlerScope translator) (if (request.field? field).any (·.wrapper.isSome) then
        .present size else size).parts [] := by
    split
    · exact .cons rfl rfl ((Calls.name known).append (plain.append .nil))
    · exact plain
  rw [pageSizeInit]
  cases endpoint.scalars.find? (·.field == field) with
  | some binding =>
    exact wrapped (.cons rfl rfl ((calls_parse translator binding.param).append (.cons rfl rfl .nil)))
  | none => exact wrapped (.cons rfl rfl .nil)

theorem calls_groupCheck (group : RequiredGroup) :
    Calls (handlerScope translator) (groupCheck group).parts [] := by
  have members : Calls (handlerScope translator)
      (group.members.flatMap fun member => (Expr.text member).parts) [] :=
    Calls.flatMap_nil fun member _ => .cons rfl rfl .nil
  have params : "params" ∈ handlerScope translator := mem_handlerScope translator (by decide)
  rw [groupCheck]
  simp only [Statement.parts, Expr.parts, exprParts, exprParts_eq, List.flatMap_map]
  exact .cons rfl rfl (.cons rfl rfl ((Calls.name params).append (.cons rfl rfl
    (((Calls.cons rfl rfl (Calls.cons rfl rfl members)).append .nil)))))

theorem calls_queryStatement (endpoint : Endpoint) :
    Calls (handlerScope translator) (queryStatement endpoint).parts [] := by
  constructor <;> simp [queryStatement, handlerScope, scopeNames]

theorem calls_nextPageStatement (endpoint : Endpoint) (token : String) :
    Calls (handlerScope translator) (nextPageStatement endpoint token).parts [] := by
  constructor <;> simp [nextPageStatement, handlerScope, scopeNames]

end Pieces

/-- The call of a family's constructor with the given arguments; the others stay unset. -/
def Family.call (family : Family) (argument? : Operator → Option Expr) : FilterCall :=
  ⟨ident family.constructorName, family.operators.map fun op => (argument? op).getD .absent⟩

theorem Family.name_call (family : Family) (argument? : Operator → Option Expr) :
    (family.call argument?).name = ident family.constructorName := by
  rw [call]

/-- A call of the constructor of a registered family with the given arguments. -/
def Code.FilterCall.Builds (call : FilterCall) (registry : Registry) (filterType : String)
    (argument? : Operator → Option Expr) : Prop :=
  ∃ family, registry.get? filterType = some family ∧ call = family.call argument?

section Constructors

variable {registry : Registry} {filterType : String} (translator : String)

theorem constructorCall_eq_ok_iff {argument? : Operator → Option Expr} {call : Expr} :
    constructorCall registry filterType argument? = .ok call ↔
      ∃ family, registry.get? filterType = some family ∧
        .call (.path ["filters", (family.call argument?).name]) (family.call argument?).args = call := by
  rw [constructorCall]
  cases registry.get? filterType <;> simp [Family.call]

/-- A call of a constructor calls no other one when its arguments do not. -/
theorem calls_constructorCall {argument? : Operator → Option Expr} {call : Expr}
    (made : constructorCall registry filterType argument? = .ok call)
    (plain : ∀ op value, argument? op = some value → Calls (handlerScope translator) value.parts []) :
    ∃ filterCall : FilterCall, filterCall.Builds registry filterType argument? ∧
      Calls (handlerScope translator) call.parts [filterCall] := by
  obtain ⟨family, registered, rfl⟩ := constructorCall_eq_ok_iff.mp made
  refine ⟨family.call argument?, ⟨family, registered, rfl⟩, ?_⟩
  have args : Calls (handlerScope translator) (exprParts (family.call argument?).args) [] := by
    rw [exprParts_eq, Family.call, List.flatMap_map]
    apply Calls.flatMap_nil
    intro op _
    cases given : argument? op with
    | none => exact Calls.name (mem_handlerScope translator (by decide))
    | some value => exact plain op value given
  exact args.call

theorem calls_filterInit {binding : FilterBinding} {field : FieldInit}
    (made : filterInit registry binding = .ok field) :
    ∃ call : FilterCall, call.Builds registry binding.filterType binding.argument? ∧
      Calls (handlerScope translator) field.parts [call] := by
  obtain ⟨call, constructed, rest⟩ := bind_eq_ok_iff.mp made
  obtain rfl := Except.ok.inj rest
  refine calls_constructorCall translator constructed ?_
  intro op value given
  obtain ⟨param, -, rfl⟩ := Option.map_eq_some_iff.mp given
  split
  · exact calls_parseList translator param
  · exact calls_parse translator param

end Constructors

section FirstOfEach

variable {α : Type} {key : α → String} {seen : List String} {items : List α}

/-- Elements with distinct keys are all kept. -/
theorem firstOfEach_eq_self (distinct : (items.map key).Nodup) (fresh : ∀ item ∈ items, key item ∉ seen) :
    firstOfEach key seen items = items := by
  induction items generalizing seen with
  | nil => rfl
  | cons first rest ih =>
    rw [List.map_cons, List.nodup_cons] at distinct
    have new : seen.contains (key first) = false := by
      rw [List.contains_eq_mem, decide_eq_false (fresh first List.mem_cons_self)]
    rw [firstOfEach, new, if_neg Bool.false_ne_true]
    congr 1
    refine ih distinct.2 ?_
    intro item member earlier
    rcases List.mem_cons.mp earlier with same | old
    · exact distinct.1 (same ▸ List.mem_map_of_mem member)
    · exact fresh item (List.mem_cons_of_mem _ member) old

/-- An element is kept when it is the first one of its key, unless the key is taken. -/
theorem mem_firstOfEach_iff {item : α} :
    item ∈ firstOfEach key seen items ↔
      items.find? (fun other => key other == key item) = some item ∧ key item ∉ seen := by
  induction items generalizing seen with
  | nil => simp [firstOfEach]
  | cons first rest ih =>
    rw [firstOfEach, List.contains_eq_mem]
    by_cases same : key first = key item
    · rw [List.find?_cons_of_pos (by simpa using same)]
      by_cases taken : key first ∈ seen
      · simp [taken, ← same, ih]
      · simp [taken, ← same, ih, eq_comm]
    · have other : item ≠ first := fun equal => same (equal ▸ rfl)
      rw [List.find?_cons_of_neg (by simpa using same)]
      by_cases taken : key first ∈ seen <;> simp [taken, Ne.symm same, ih, other]

end FirstOfEach

section Handlers

variable {schema : Schema} {registry : Registry} {around : Surroundings} {endpoint : Endpoint}
  {function : Function}

/-- The request of a List calls one constructor for each filter binding, in their order. -/
theorem calls_listInits (translator : String) {request : Message} {fields : List FieldInit}
    (distinct : (endpoint.filters.map (·.field)).Nodup)
    (made : listInits registry around endpoint request = .ok fields) :
    ∃ calls, List.Forall₂ (fun binding (call : FilterCall) =>
        call.Builds registry binding.filterType binding.argument?) endpoint.filters calls ∧
      Calls (handlerScope translator) (fieldParts fields) calls := by
  rw [listInits, firstOfEach_eq_self distinct (by simp)] at made
  obtain ⟨filters, constructed, rest⟩ := bind_eq_ok_iff.mp made
  obtain rfl := Except.ok.inj rest
  obtain ⟨calls, fit, own⟩ := Calls.exists_flatMap
    ((forall₂_of_mapM constructed).imp fun _ _ constructed => calls_filterInit translator constructed)
  refine ⟨calls, fit, ?_⟩
  have page : Calls (handlerScope translator) ((endpoint.pageSizeField.toList.map
      (pageSizeInit around endpoint request)).flatMap (·.parts)) [] := by
    rw [List.flatMap_map]
    exact Calls.flatMap_nil fun field _ => calls_pageSizeInit translator around endpoint request field
  have plain (taken : List String) : Calls (handlerScope translator)
      (((firstOfEach ScalarBinding.field taken endpoint.scalars).map scalarInit).flatMap (·.parts)) [] := by
    rw [List.flatMap_map]
    exact Calls.flatMap_nil fun binding _ => calls_scalarInit translator binding
  have whole := (own.append page).append
    (plain (endpoint.filters.map (·.field) ++ endpoint.pageSizeField.toList))
  rw [fieldParts_eq, List.flatMap_append, List.flatMap_append]
  simpa using whole

theorem calls_requestStatement (endpoint : Endpoint) {translator : String} {fields : List FieldInit}
    {calls : List FilterCall} (own : Calls (handlerScope translator) (fieldParts fields) calls) :
    Calls (handlerScope translator) (requestStatement endpoint fields).parts calls := by
  have default : Calls (handlerScope translator) Expr.defaults.parts [] := by
    constructor <;> simp
  have record := own.append default
  rw [List.append_nil] at record
  exact .cons rfl rfl record

theorem calls_rowStatements (endpoint : Endpoint) :
    Calls (handlerScope (ident (translatorName endpoint.rowMessage)))
      (statementParts (rowStatements endpoint)) [] := by
  constructor <;> simp [rowStatements, handlerScope, scopeNames]

theorem calls_pageResponse (endpoint : Endpoint) :
    Calls (handlerScope (ident (translatorName endpoint.rowMessage))) (pageResponse endpoint).parts [] := by
  rw [pageResponse, responseRecord]
  cases endpoint.pageTokenField with
  | none => constructor <;> simp [handlerScope, scopeNames]
  | some token => constructor <;> simp [handlerScope, scopeNames]

theorem calls_listBody {fields : List FieldInit} {calls : List FilterCall}
    (own : Calls (handlerScope (ident (translatorName endpoint.rowMessage))) (fieldParts fields) calls) :
    Calls (handlerScope (ident (translatorName endpoint.rowMessage))) (listBody endpoint fields).parts
      calls := by
  have groups : Calls (handlerScope (ident (translatorName endpoint.rowMessage)))
      ((endpoint.requiredGroups.map groupCheck).flatMap (·.parts)) [] := by
    rw [List.flatMap_map]
    exact Calls.flatMap_nil fun group _ => calls_groupCheck _ group
  have pages : Calls (handlerScope (ident (translatorName endpoint.rowMessage)))
      ((endpoint.pageTokenField.toList.map (nextPageStatement endpoint)).flatMap (·.parts)) [] := by
    rw [List.flatMap_map]
    exact Calls.flatMap_nil fun token _ => calls_nextPageStatement _ endpoint token
  have exchange := (calls_requestStatement endpoint own).append
    ((calls_queryStatement _ endpoint).append .nil)
  have whole := (((groups.append exchange).append (calls_rowStatements endpoint)).append pages).append
    (calls_pageResponse endpoint)
  simp only [List.nil_append, List.append_nil] at whole
  rw [listBody, Block.parts, statementParts_eq, List.flatMap_append, List.flatMap_append,
    List.flatMap_append]
  exact whole

theorem translator_mem_listBody (endpoint : Endpoint) (fields : List FieldInit) :
    Expr.path [ident (translatorName endpoint.rowMessage)] ∈ (listBody endpoint fields).parts := by
  simp [listBody, statementParts_eq, rowStatements]

/-- A List handler has the name of its endpoint, and its body sets the fields of the request. -/
theorem of_listHandler (made : listHandler schema registry around endpoint = .ok function) :
    ∃ request fields, listInits registry around endpoint request = .ok fields ∧
      function.name = ident endpoint.handlerName ∧ function.body = listBody endpoint fields := by
  rw [listHandler] at made
  cases found : schema.message? endpoint.requestMessage with
  | none => simp [found] at made
  | some request =>
    rw [found] at made
    obtain ⟨fields, initialized, rest⟩ := bind_eq_ok_iff.mp made
    obtain rfl := Except.ok.inj rest
    exact ⟨request, fields, initialized, rfl, rfl⟩

/-- A List calls one constructor for each filter binding, in their order. -/
theorem calls_listHandler (distinct : (endpoint.filters.map (·.field)).Nodup)
    (made : listHandler schema registry around endpoint = .ok function) :
    ∃ fields calls, function.body = listBody endpoint fields ∧
      List.Forall₂ (fun binding (call : FilterCall) =>
        call.Builds registry binding.filterType binding.argument?) endpoint.filters calls ∧
      Calls (handlerScope (ident (translatorName endpoint.rowMessage))) function.body.parts calls := by
  obtain ⟨request, fields, initialized, -, body⟩ := of_listHandler made
  obtain ⟨calls, fit, own⟩ :=
    calls_listInits (ident (translatorName endpoint.rowMessage)) distinct initialized
  exact ⟨fields, calls, body, fit, body ▸ calls_listBody own⟩

theorem calls_rowCases (endpoint : Endpoint) (key : KeyBinding) :
    Calls (handlerScope (ident (translatorName endpoint.rowMessage))) (rowCases endpoint key).parts [] := by
  constructor <;> simp [rowCases, responseRecord, handlerScope, scopeNames]

theorem calls_read (translator : String) (key : KeyBinding) :
    Calls (handlerScope translator) key.read.parts [] := by
  constructor <;> simp [KeyBinding.read, handlerScope, scopeNames]

theorem calls_keyExpr (translator : String) {key : KeyBinding} {value : Expr}
    (made : keyExpr registry key = .ok value) :
    ∃ calls, List.Forall₂ (fun filterType (call : FilterCall) =>
        call.Builds registry filterType key.argument?) key.value.filterType?.toList calls ∧
      Calls (handlerScope translator) value.parts calls := by
  have plain (op : Operator) (value : Expr) (given : key.argument? op = some value) :
      Calls (handlerScope translator) value.parts [] := by
    rw [KeyBinding.argument?] at given
    split at given
    · obtain rfl := Option.some.inj given
      have known : "Some" ∈ handlerScope translator := mem_handlerScope translator (by decide)
      exact .cons rfl rfl ((Calls.name known).append ((calls_read translator key).append .nil))
    · simp at given
  rw [keyExpr] at made
  cases held : key.value with
  | scalar kind =>
    rw [held] at made
    obtain rfl := Except.ok.inj made
    exact ⟨[], .nil, calls_read translator key⟩
  | filter filterType =>
    rw [held] at made
    obtain ⟨call, fits, own⟩ := calls_constructorCall translator made plain
    exact ⟨[call], .cons fits .nil, own⟩

theorem calls_getBody {key : KeyBinding} {value : Expr} {calls : List FilterCall}
    (own : Calls (handlerScope (ident (translatorName endpoint.rowMessage))) value.parts calls) :
    Calls (handlerScope (ident (translatorName endpoint.rowMessage))) (getBody endpoint key value).parts
      calls := by
  have field : Calls (handlerScope (ident (translatorName endpoint.rowMessage)))
      (fieldParts [.assign (fieldIdent key.field) value]) (calls ++ []) :=
    own.append .nil
  have exchange := (calls_requestStatement endpoint field).append
    ((calls_queryStatement _ endpoint).append .nil)
  have whole := exchange.append (calls_rowCases endpoint key)
  simp only [List.append_nil] at whole
  exact whole

theorem translator_mem_getBody (endpoint : Endpoint) (key : KeyBinding) (value : Expr) :
    Expr.path [ident (translatorName endpoint.rowMessage)] ∈ (getBody endpoint key value).parts := by
  simp [getBody, rowCases, responseRecord]

/-- A Get handler has the name of its endpoint, and its body looks up the key. -/
theorem of_getHandler (made : getHandler registry endpoint = .ok function) :
    ∃ key value, endpoint.key = some key ∧ keyExpr registry key = .ok value ∧
      function.name = ident endpoint.handlerName ∧ function.body = getBody endpoint key value := by
  rw [getHandler] at made
  cases present : endpoint.key with
  | none => simp [present] at made
  | some key =>
    rw [present] at made
    obtain ⟨value, read, rest⟩ := bind_eq_ok_iff.mp made
    obtain rfl := Except.ok.inj rest
    exact ⟨key, value, rfl, read, rfl, rfl⟩

/-- A Get calls the constructor of its key if this is a filter, and no other one. -/
theorem calls_getHandler (made : getHandler registry endpoint = .ok function) :
    ∃ key value calls, endpoint.key = some key ∧ function.body = getBody endpoint key value ∧
      List.Forall₂ (fun filterType (call : FilterCall) =>
        call.Builds registry filterType key.argument?) key.value.filterType?.toList calls ∧
      Calls (handlerScope (ident (translatorName endpoint.rowMessage))) function.body.parts calls := by
  obtain ⟨key, value, present, read, -, body⟩ := of_getHandler made
  obtain ⟨calls, fit, own⟩ := calls_keyExpr (ident (translatorName endpoint.rowMessage)) read
  exact ⟨key, value, calls, present, body, fit, body ▸ calls_getBody own⟩

/-- What a handler makes of its endpoint: the constructor calls of its bindings, and no name from its
module but that of the translator. -/
structure Endpoint.HandledBy (registry : Registry) (endpoint : Endpoint) (function : Function) : Prop where
  list : endpoint.kind = .list → List.Forall₂ (fun binding (call : FilterCall) =>
    call.Builds registry binding.filterType binding.argument?) endpoint.filters function.filterCalls
  get : endpoint.kind = .get → ∃ key, endpoint.key = some key ∧
    List.Forall₂ (fun filterType (call : FilterCall) => call.Builds registry filterType key.argument?)
      key.value.filterType?.toList function.filterCalls
  names : ∀ name ∈ function.names, name ∈ handlerScope (ident (translatorName endpoint.rowMessage))
  translates : ident (translatorName endpoint.rowMessage) ∈ function.names

theorem handledBy_of_handler (distinct : (endpoint.filters.map (·.field)).Nodup)
    (made : handler schema registry around endpoint = .ok function) :
    endpoint.HandledBy registry function := by
  rw [handler] at made
  cases kind : endpoint.kind with
  | list =>
    rw [kind] at made
    obtain ⟨fields, calls, body, fit, own⟩ := calls_listHandler distinct made
    have translates := translator_mem_listBody endpoint fields
    rw [← body] at translates
    rw [← own.calls] at fit
    refine ⟨fun _ => fit, fun other => ?_, own.names, ?_⟩
    · exact absurd (kind.symm.trans other) (by decide)
    · exact List.mem_filterMap.mpr ⟨_, translates, rfl⟩
  | get =>
    rw [kind] at made
    obtain ⟨key, value, calls, present, body, fit, own⟩ := calls_getHandler made
    have translates := translator_mem_getBody endpoint key value
    rw [← body] at translates
    rw [← own.calls] at fit
    refine ⟨fun other => ?_, fun _ => ⟨key, present, fit⟩, own.names, ?_⟩
    · exact absurd (kind.symm.trans other) (by decide)
    · exact List.mem_filterMap.mpr ⟨_, translates, rfl⟩

end Handlers

/-- A translator calls no constructor and no function of its module. -/
theorem calls_translator (message : Message) : Calls scopeNames (translator message).body.parts [] := by
  have columns (fields : List Field) : Calls scopeNames (fieldParts (fields.map fun field =>
      .assign (fieldIdent field.name) (.attempt (.method (.var "row") "get" [] [.text field.name])))) [] := by
    rw [fieldParts_eq, List.flatMap_map]
    apply Calls.flatMap_nil
    intro field _
    constructor <;> simp [scopeNames]
  have rest : Calls scopeNames
      (valueParts (if message.fields.all (·.isColumn) then none else some .defaults)) [] := by
    split
    · exact .nil
    · constructor <;> simp
  have known : "Ok" ∈ scopeNames := by decide
  exact .cons rfl rfl ((Calls.name known).append ((Calls.cons rfl rfl
    ((columns (message.fields.filter (·.isColumn))).append rest)).append .nil))

end QuerySynth
