import QuerySynth.Proofs.Code.Uses
import QuerySynth.Proofs.Endpoint.Sound
import QuerySynth.Proofs.Generate.Success

/-! # What handlers do with the parameters

A List reads the parameters of its filters, that of its page size and one for each other plain field,
and checks its required groups; a Get reads its key and nothing else. So everything that a List accepts
takes effect, except that of several plain parameters for one field only the first is read.
-/

namespace QuerySynth

open Code

section Pieces

theorem uses_parse (param : String) : Uses (Expr.parse param).parts [param] [] :=
  ⟨rfl, rfl⟩

theorem uses_parseList (param : String) : Uses (Expr.parseList param).parts [param] [] :=
  ⟨rfl, rfl⟩

theorem uses_read (key : KeyBinding) : Uses key.read.parts [key.param.rawName] [] :=
  ⟨rfl, rfl⟩

theorem uses_present {value : Expr} {reads : List String} {checks : List RequiredGroup}
    (inner : Uses value.parts reads checks) : Uses (Expr.present value).parts reads checks := by
  rw [Expr.parts, exprParts, exprParts, List.append_nil]
  exact .cons rfl rfl (.cons rfl rfl inner)

theorem uses_scalarInit (binding : ScalarBinding) : Uses (scalarInit binding).parts [binding.param] [] := by
  rw [scalarInit]
  split
  · exact uses_parse _
  · exact .cons rfl rfl ((uses_parseList _).append .nil)
  · exact .cons rfl rfl ((uses_parse _).append .nil)

theorem uses_pageSizeInit (around : Surroundings) (endpoint : Endpoint) (request : Message)
    (field : String) :
    Uses (pageSizeInit around endpoint request field).parts
      ((endpoint.scalars.find? (·.field == field)).toList.map (·.param)) [] := by
  have wrapped {size : Expr} {reads : List String} (plain : Uses size.parts reads []) :
      Uses (if (request.field? field).any (·.wrapper.isSome) then .present size else size).parts
        reads [] := by
    split
    · exact uses_present plain
    · exact plain
  rw [pageSizeInit]
  cases endpoint.scalars.find? (·.field == field) with
  | some binding => exact wrapped (.cons rfl rfl ((uses_parse binding.param).append (.cons rfl rfl .nil)))
  | none => exact wrapped (.cons rfl rfl .nil)

theorem uses_texts (texts : List String) : Uses (exprParts (texts.map .text)) [] [] := by
  induction texts with
  | nil => exact .nil
  | cons text rest ih => exact .cons rfl rfl ih

theorem uses_groupCheck (group : RequiredGroup) : Uses (groupCheck group).parts [] [group] := by
  have args : Uses (exprParts [.text group.name, .reference (.array (group.members.map .text))]) [] [] :=
    .cons rfl rfl (.cons rfl rfl (.cons rfl rfl ((uses_texts group.members).append .nil)))
  refine .cons rfl rfl (.cons_check rfl ?_ (.cons rfl rfl args))
  rw [Expr.check?, mapM_text?]
  rfl

/-- Looking up the operators of a family finds the bindings in their order. -/
theorem filterMap_find?_operator {operators : List Operator} {bindings : List OperatorBinding}
    (distinct : operators.Nodup) (ordered : (bindings.map (·.operator)).Sublist operators) :
    operators.filterMap (fun op => (bindings.find? (·.operator == op)).map (·.param)) =
      bindings.map (·.param) := by
  induction operators generalizing bindings with
  | nil =>
    obtain rfl := List.map_eq_nil_iff.mp (List.sublist_nil.mp ordered)
    rfl
  | cons op rest ih =>
    obtain ⟨fresh, others⟩ := List.nodup_cons.mp distinct
    rcases List.sublist_cons_iff.mp ordered with skipped | ⟨_, same, later⟩
    · have unbound : bindings.find? (·.operator == op) = none := by
        rw [List.find?_eq_none]
        intro binding member found
        exact fresh (eq_of_beq found ▸ skipped.subset (List.mem_map_of_mem member))
      rw [List.filterMap_cons_none (by rw [unbound]; rfl), ih others skipped]
    · obtain ⟨binding, bindings, rfl, rfl, rfl⟩ := List.map_eq_cons_iff.mp same
      have bound : ((binding :: bindings).find? (·.operator == binding.operator)).map (·.param) =
          some binding.param := by
        rw [List.find?_cons, beq_self_eq_true]
        rfl
      rw [List.filterMap_cons, bound, List.map_cons, ← ih others later]
      refine congrArg (binding.param :: ·) ?_
      refine List.filterMap_congr fun op member => ?_
      have different : (binding.operator == op) = false := by
        rw [beq_eq_false_iff_ne]
        rintro rfl
        exact fresh member
      rw [List.find?_cons, different]

end Pieces

section Constructors

variable {registry : Registry} {family : Family}

/-- A call of a constructor reads what its arguments read, in the order of the family. -/
theorem uses_constructorCall {filterType : String} {argument? : Operator → Option Expr} {call : Expr}
    (made : constructorCall registry filterType argument? = .ok call)
    (registered : registry.get? filterType = some family) (read : Operator → Option String)
    (each : ∀ op, Uses ((argument? op).getD .absent).parts (read op).toList []) :
    Uses call.parts (family.operators.filterMap read) [] := by
  obtain ⟨known, found, rfl⟩ := constructorCall_eq_ok_iff.mp made
  obtain rfl := Option.some.inj (registered.symm.trans found)
  have args : Uses (exprParts (family.call argument?).args) (family.operators.filterMap read) [] := by
    rw [exprParts_eq, List.filterMap_eq_flatMap_toList]
    refine Uses.flatMap_reads ?_
    rw [Family.call, List.forall₂_map_right_iff, List.forall₂_same]
    exact fun op _ => each op
  exact .cons rfl rfl (.cons rfl rfl args)

/-- The request field of a filter reads the parameters of its binding. -/
theorem uses_filterInit {request : Message} {binding : FilterBinding} {field : FieldInit}
    (sound : binding.Sound registry request) (made : filterInit registry binding = .ok field) :
    Uses field.parts (binding.operators.map (·.param)) [] := by
  obtain ⟨call, constructed, rest⟩ := bind_eq_ok_iff.mp made
  obtain rfl := Except.ok.inj rest
  obtain ⟨family, registered, ordered⟩ := sound.ordered
  rw [← filterMap_find?_operator family.nodup_operators ordered]
  refine uses_constructorCall constructed registered binding.param? fun op => ?_
  rw [FilterBinding.argument?]
  cases binding.param? op with
  | none => exact .cons rfl rfl .nil
  | some param =>
    rw [Option.map_some, Option.getD_some]
    split
    · exact uses_parseList param
    · exact uses_parse param

/-- The value of a key reads its path parameter, if its family can be asked for equality. -/
theorem uses_keyExpr {key : KeyBinding} {value : Expr}
    (supported : ∀ filterType, key.value = .filter filterType →
      ∃ family, registry.get? filterType = some family ∧ family.supports .eq = true)
    (made : keyExpr registry key = .ok value) : Uses value.parts [key.param.rawName] [] := by
  rw [keyExpr] at made
  cases held : key.value with
  | scalar kind =>
    rw [held] at made
    obtain rfl := Except.ok.inj made
    exact uses_read key
  | filter filterType =>
    rw [held] at made
    obtain ⟨family, registered, supports⟩ := supported filterType held
    have ordered : ([OperatorBinding.mk .eq key.param.rawName].map (·.operator)).Sublist family.operators :=
      List.singleton_sublist.mpr (Family.mem_operators supports)
    have looked := filterMap_find?_operator family.nodup_operators ordered
    rw [List.map_singleton] at looked
    rw [← looked]
    refine uses_constructorCall made registered _ fun op => ?_
    rw [KeyBinding.argument?]
    by_cases eq : op = .eq
    · rw [if_pos eq, eq]
      exact uses_present (uses_read key)
    · have unbound : [OperatorBinding.mk .eq key.param.rawName].find? (·.operator == op) = none := by
        simpa using Ne.symm eq
      rw [if_neg eq, unbound]
      exact .cons rfl rfl .nil

end Constructors

/-- The plain bindings that a List reads: that of its page size, then the first of each other field that
holds no filter. -/
def Endpoint.assigned (endpoint : Endpoint) : List ScalarBinding :=
  (endpoint.pageSizeField.bind fun field => endpoint.scalars.find? (·.field == field)).toList ++
    firstOfEach ScalarBinding.field (endpoint.filters.map (·.field) ++ endpoint.pageSizeField.toList)
      endpoint.scalars

/-- The raw names of the parameters that a List reads, in the order of its request fields. -/
def Endpoint.listReads (endpoint : Endpoint) : List String :=
  endpoint.filters.flatMap (fun binding => binding.operators.map (·.param)) ++
    endpoint.assigned.map (·.param)

section Handlers

variable {schema : Schema} {registry : Registry} {around : Surroundings} {endpoint : Endpoint}
  {request : Message} {function : Function}

theorem uses_listInits {target : Message} {fields : List FieldInit} (sound : endpoint.Sound registry request)
    (made : listInits registry around endpoint target = .ok fields) :
    Uses (fieldParts fields) endpoint.listReads [] := by
  rw [listInits, firstOfEach_eq_self sound.nodup_fields (by simp)] at made
  obtain ⟨inits, constructed, rest⟩ := bind_eq_ok_iff.mp made
  obtain rfl := Except.ok.inj rest
  have filters : Uses (inits.flatMap (·.parts))
      (endpoint.filters.flatMap fun binding => binding.operators.map (·.param)) [] := by
    refine Uses.flatMap_reads ?_
    refine ((List.forall₂_and_left _ _).mpr
      ⟨fun binding bound => bound, forall₂_of_mapM constructed⟩).imp ?_
    rintro binding init ⟨bound, constructed⟩
    exact uses_filterInit (sound.filters binding bound) constructed
  have page : Uses ((endpoint.pageSizeField.toList.map
      (pageSizeInit around endpoint target)).flatMap (·.parts))
      ((endpoint.pageSizeField.bind fun field =>
        endpoint.scalars.find? (·.field == field)).toList.map (·.param)) [] := by
    cases endpoint.pageSizeField with
    | none => exact .nil
    | some field => simpa using uses_pageSizeInit around endpoint target field
  have plain (bindings : List ScalarBinding) :
      Uses ((bindings.map scalarInit).flatMap (·.parts)) (bindings.map (·.param)) [] := by
    rw [List.map_eq_flatMap (f := ScalarBinding.param)]
    refine Uses.flatMap_reads ?_
    rw [List.forall₂_map_right_iff, List.forall₂_same]
    exact fun binding _ => uses_scalarInit binding
  rw [fieldParts_eq, List.flatMap_append, List.flatMap_append, Endpoint.listReads, Endpoint.assigned,
    List.map_append, ← List.append_assoc]
  exact (filters.append page).append (plain _)

theorem uses_requestStatement (endpoint : Endpoint) {fields : List FieldInit} {reads : List String}
    (own : Uses (fieldParts fields) reads []) :
    Uses (requestStatement endpoint fields).parts reads [] := by
  have default : Uses Expr.defaults.parts [] [] := ⟨rfl, rfl⟩
  have record := own.append default
  rw [List.append_nil] at record
  exact .cons rfl rfl record

theorem uses_queryStatement (endpoint : Endpoint) : Uses (queryStatement endpoint).parts [] [] :=
  ⟨rfl, rfl⟩

theorem uses_rowStatements (endpoint : Endpoint) :
    Uses (statementParts (rowStatements endpoint)) [] [] :=
  ⟨rfl, rfl⟩

theorem uses_nextPageStatement (endpoint : Endpoint) (token : String) :
    Uses (nextPageStatement endpoint token).parts [] [] :=
  ⟨rfl, rfl⟩

theorem uses_pageResponse (endpoint : Endpoint) : Uses (pageResponse endpoint).parts [] [] := by
  rw [pageResponse]
  cases endpoint.pageTokenField with
  | none => exact ⟨rfl, rfl⟩
  | some token => exact ⟨rfl, rfl⟩

theorem uses_rowCases (endpoint : Endpoint) (key : KeyBinding) :
    Uses (rowCases endpoint key).parts [] [] :=
  ⟨rfl, rfl⟩

/-- The body of a List reads what its request fields read and checks the required groups. -/
theorem uses_listBody {fields : List FieldInit} {reads : List String}
    (own : Uses (fieldParts fields) reads []) :
    Uses (listBody endpoint fields).parts reads endpoint.requiredGroups := by
  have groups : Uses ((endpoint.requiredGroups.map groupCheck).flatMap (·.parts)) []
      endpoint.requiredGroups := by
    rw [List.flatMap_map]
    exact Uses.flatMap_checks uses_groupCheck _
  have pages : Uses ((endpoint.pageTokenField.toList.map (nextPageStatement endpoint)).flatMap (·.parts))
      [] [] := by
    cases endpoint.pageTokenField with
    | none => exact .nil
    | some token => simpa using uses_nextPageStatement endpoint token
  have exchange := (uses_requestStatement endpoint own).append
    ((uses_queryStatement endpoint).append .nil)
  have whole := (((groups.append exchange).append (uses_rowStatements endpoint)).append pages).append
    (uses_pageResponse endpoint)
  simp only [List.nil_append, List.append_nil] at whole
  rw [listBody, Block.parts, statementParts_eq, List.flatMap_append, List.flatMap_append,
    List.flatMap_append]
  exact whole

/-- A List reads the parameters of its bindings and checks its groups, and nothing else. -/
theorem uses_listHandler (sound : endpoint.Sound registry request)
    (made : listHandler schema registry around endpoint = .ok function) :
    Uses function.body.parts endpoint.listReads endpoint.requiredGroups := by
  obtain ⟨target, fields, initialized, -, body⟩ := of_listHandler made
  rw [body]
  exact uses_listBody (uses_listInits sound initialized)

/-- A Get reads its key, and nothing else; it checks no group. -/
theorem uses_getHandler {key : KeyBinding} (present : endpoint.key = some key)
    (supported : ∀ filterType, key.value = .filter filterType →
      ∃ family, registry.get? filterType = some family ∧ family.supports .eq = true)
    (made : getHandler registry endpoint = .ok function) :
    Uses function.body.parts [key.param.rawName] [] := by
  obtain ⟨other, value, found, read, -, body⟩ := of_getHandler made
  obtain rfl := Option.some.inj (present.symm.trans found)
  have field : Uses (fieldParts [.assign (fieldIdent key.field) value]) [key.param.rawName] [] := by
    simpa using uses_keyExpr supported read
  have exchange := (uses_requestStatement endpoint field).append
    ((uses_queryStatement endpoint).append .nil)
  have whole := exchange.append (uses_rowCases endpoint key)
  simp only [List.append_nil] at whole
  rw [body]
  exact whole

end Handlers

/-- Whether a List assigns its request field from a plain parameter: the first one for the field, if the
field holds no filter or is the page size. -/
structure Endpoint.Assigns (endpoint : Endpoint) (param : Parameter) : Prop where
  first : endpoint.params.find? (fun other =>
    other.location = .query ∧ other.operator = none ∧ other.field = param.field) = some param
  free : param.field ∈ endpoint.filters.map (·.field) → endpoint.pageSizeField = some param.field

/-- What an endpoint accepts takes effect in a function. -/
structure Endpoint.Effective (endpoint : Endpoint) (function : Function) : Prop where
  /-- The function is the handler of the endpoint. -/
  named : function.name = ident endpoint.handlerName
  /-- A List reads every parameter with an operator. -/
  operators : endpoint.kind = .list → ∀ param ∈ endpoint.params, param.operator.isSome →
    param.rawName ∈ function.reads
  /-- A List reads every plain parameter that assigns its field. -/
  plain : endpoint.kind = .list → ∀ param ∈ endpoint.params, endpoint.Assigns param →
    param.rawName ∈ function.reads
  /-- A List checks every required group. -/
  groups : endpoint.kind = .list → ∀ group ∈ endpoint.requiredGroups, group ∈ function.checks
  /-- A Get reads its only path parameter. -/
  key : endpoint.kind = .get → ∃ param, endpoint.params.filter (·.location = .path) = [param] ∧
    param.rawName ∈ function.reads

namespace Endpoint.Sound

variable {registry : Registry} {request : Message} {endpoint : Endpoint} {param : Parameter}

/-- The filters of a List hold every parameter with an operator. -/
theorem mem_listReads_of_operator (sound : endpoint.Sound registry request) (kind : endpoint.kind = .list)
    (member : param ∈ endpoint.params) (operator : param.operator.isSome) :
    param.rawName ∈ endpoint.listReads := by
  obtain ⟨op, operator⟩ := Option.isSome_iff_exists.mp operator
  have use : param.filterUse? = some (param.field, op, param.rawName) := by
    simp [Parameter.filterUse?, sound.location_eq_query kind member, operator]
  have held := sound.operators.mem_iff.mpr (List.mem_filterMap.mpr ⟨param, member, use⟩)
  obtain ⟨binding, bound, holds⟩ := List.mem_flatMap.mp held
  obtain ⟨entry, present, same⟩ := List.mem_map.mp holds
  obtain ⟨-, -, raw⟩ := by simpa using same
  refine List.mem_append_left _ (List.mem_flatMap.mpr ⟨binding, bound, ?_⟩)
  exact List.mem_map.mpr ⟨entry, present, raw⟩

/-- A List reads the parameter that a field is assigned from. -/
theorem mem_listReads_of_assigns (sound : endpoint.Sound registry request)
    (assigns : endpoint.Assigns param) : param.rawName ∈ endpoint.listReads := by
  obtain ⟨scalar, found, field, raw⟩ := sound.find?_scalars assigns.first
  refine List.mem_append_right _ (List.mem_map.mpr ⟨scalar, ?_, raw⟩)
  rw [Endpoint.assigned]
  by_cases page : endpoint.pageSizeField = some param.field
  · refine List.mem_append_left _ ?_
    rw [page, Option.bind_some, found]
    exact List.mem_singleton_self scalar
  · refine List.mem_append_right _ (mem_firstOfEach_iff.mpr ⟨by rwa [field], ?_⟩)
    rw [field, List.mem_append, Option.mem_toList]
    rintro (filter | size)
    · exact page (assigns.free filter)
    · exact page size

end Endpoint.Sound

section Model

variable {schema : Schema} {options : BuildOptions} {around : Surroundings} {endpoint : Endpoint}
  {function : Function}

/-- What a built endpoint accepts takes effect in its handler. -/
theorem effective_of_handler {operation : Rest.Operation} {resource : String} {raws : List RawParameter}
    {findings : List Finding}
    (built : buildEndpoint schema options operation resource raws = .ok (endpoint, findings))
    (made : handler schema options.registry around endpoint = .ok function) :
    endpoint.Effective function := by
  obtain ⟨request, -, -, sound⟩ := sound_of_buildEndpoint built
  rw [handler] at made
  cases kind : endpoint.kind with
  | list =>
    rw [kind] at made
    obtain ⟨-, -, -, name, -⟩ := of_listHandler made
    have uses := uses_listHandler sound made
    have reads : function.reads = endpoint.listReads := uses.reads
    have checks : function.checks = endpoint.requiredGroups := uses.checks
    constructor
    · exact name
    · intro _ param member operator
      rw [reads]
      exact sound.mem_listReads_of_operator kind member operator
    · intro _ param _ assigns
      rw [reads]
      exact sound.mem_listReads_of_assigns assigns
    · intro _ group member
      rwa [checks]
    · intro get
      exact absurd (kind.symm.trans get) (by decide)
  | get =>
    rw [kind] at made
    obtain ⟨-, -, -, -, name, -⟩ := of_getHandler made
    obtain ⟨key, present, paths⟩ := sound.exists_key kind
    have uses := uses_getHandler present
      (fun filterType held => exists_family_of_buildEndpoint built present held) made
    have reads : function.reads = [key.param.rawName] := uses.reads
    have other (list : endpoint.kind = .list) : False := absurd (kind.symm.trans list) (by decide)
    constructor
    · exact name
    · exact fun list => (other list).elim
    · exact fun list => (other list).elim
    · exact fun list => (other list).elim
    · intro _
      refine ⟨key.param, paths, ?_⟩
      rw [reads]
      exact List.mem_singleton_self _

/-- What the endpoints of a model accept takes effect in the handlers that are rendered for them. -/
theorem effective_of_renderFiles {description : Rest.Description} {files : List GeneratedFile}
    (rendered : renderFiles schema options.registry around
      (buildEndpoints description schema options).endpoints = .ok files) :
    ∃ handlers made others, handlerModule schema options.registry around
        (buildEndpoints description schema options).endpoints = .ok handlers ∧
      files = [⟨"filters.rs", (constructorModule around (referencedFilters options.registry
          (buildEndpoints description schema options).endpoints)).render⟩,
        ⟨"handlers.rs", handlers.render⟩,
        ⟨"mod.rs", indexModule.render⟩] ∧
      handlers.functions = made ++ others ∧
      List.Forall₂ Endpoint.Effective (buildEndpoints description schema options).endpoints made := by
  obtain ⟨module, assembled, written⟩ := renderFiles_eq_ok rendered
  obtain ⟨made, others, handled, -, functions⟩ := handlerModule_eq_ok assembled
  refine ⟨module, made, others, assembled, written, functions, ?_⟩
  refine ((List.forall₂_and_left _ _).mpr
    ⟨fun endpoint member => member, forall₂_handlers handled⟩).imp ?_
  rintro endpoint function ⟨member, handled⟩
  obtain ⟨_, _, _, _, built⟩ := exists_buildEndpoint_of_mem_endpoints member
  exact effective_of_handler built handled

end Model

/-- A List of the items of an owner, and a Get of one item. -/
def itemSchema : Schema where
  services := [⟨"ItemService", "items.ItemService",
    [⟨"ListItems", .list, "ListItemsRequest", "ListItemsResponse"⟩,
     ⟨"GetItem", .get, "GetItemsRequest", "GetItemsResponse"⟩]⟩]
  messages := Keyed.ofList [
    ("Item", ⟨"Item", "items.Item", []⟩),
    ("ListItemsRequest", ⟨"ListItemsRequest", "items.ListItemsRequest",
      [⟨"owner_id", 1, .message "StringFilter", false, some "StringFilter", none, none, none⟩,
       ⟨"page_size", 2, .scalar .uint32, false, none, none, none, none⟩]⟩),
    ("ListItemsResponse", ⟨"ListItemsResponse", "items.ListItemsResponse",
      [⟨"items", 1, .message "Item", true, none, none, none, none⟩]⟩),
    ("GetItemsRequest", ⟨"GetItemsRequest", "items.GetItemsRequest",
      [⟨"item_id", 1, .scalar .string, false, none, none, none, none⟩,
       ⟨"owner_id", 2, .message "StringFilter", false, some "StringFilter", none, none, none⟩]⟩),
    ("GetItemsResponse", ⟨"GetItemsResponse", "items.GetItemsResponse",
      [⟨"item", 1, .message "Item", false, none, none, none, none⟩]⟩)]

/-- The description of one operation that asks for the owner and takes more parameters. -/
def ownedDocument (path : String) (params : List Document) : Document :=
  .obj [("info", .obj [("title", .str "Items"), ("version", .str "1")]), ("openapi", .str "3.0.0"),
    ("paths", .obj [(path, .obj [("get", .obj [("parameters", .arr (
      .obj [("in", .str "query"), ("name", .str "owner_id_eq"), ("x-required-group", .str "owner")] ::
        params))])])])]

/-- The List, with two spellings of its page size. -/
def ownedList : Rest.Description :=
  ⟨Rest.strip (ownedDocument "/items" [.obj [("in", .str "query"), ("name", .str "page_size")],
    .obj [("in", .str "query"), ("name", .str "pageSize")]]), Rest.isOpenApi_strip rfl (by cbv), by decide⟩

/-- The Get with its key. -/
def ownedGet : Rest.Description :=
  ⟨Rest.strip (ownedDocument "/items/{item_id}" [.obj [("in", .str "path"), ("name", .str "item_id")]]),
    Rest.isOpenApi_strip rfl (by cbv), by decide⟩

def itemEndpoints (description : Rest.Description) : List Endpoint :=
  (buildEndpoints description itemSchema ownerOptions).endpoints

/-- Whatever is described of the items is generated. -/
theorem exists_files_item (description : Rest.Description) :
    ∃ files, renderFiles itemSchema ownerOptions.registry ownerSurroundings (itemEndpoints description) =
      .ok files := by
  have named : itemSchema.Named := by
    rw [Schema.Named]
    decide
  refine exists_files_of_supplied ⟨rfl, rfl, rfl⟩ fun endpoint member => ?_
  exact supplied_of_mem_endpoints member fun _ => isSome_request_of_mem_endpoints named member

/-- What the List accepts takes effect. -/
theorem effective_ownedList :
    ∃ files handlers made others, renderFiles itemSchema ownerOptions.registry ownerSurroundings
        (itemEndpoints ownedList) = .ok files ∧
      handlerModule itemSchema ownerOptions.registry ownerSurroundings
        (itemEndpoints ownedList) = .ok handlers ∧
      handlers.functions = made ++ others ∧
      List.Forall₂ Endpoint.Effective (itemEndpoints ownedList) made := by
  obtain ⟨files, rendered⟩ := exists_files_item ownedList
  obtain ⟨handlers, made, others, assembled, -, functions, effective⟩ := effective_of_renderFiles rendered
  exact ⟨files, handlers, made, others, rendered, assembled, functions, effective⟩

/-- No function of the Get reads the owner that it accepts or checks the group of the owner, and no
function of the List reads the second spelling of its page size. -/
theorem unread_owned :
    (∃ files handlers, renderFiles itemSchema ownerOptions.registry ownerSurroundings
        (itemEndpoints ownedGet) = .ok files ∧
      handlerModule itemSchema ownerOptions.registry ownerSurroundings
        (itemEndpoints ownedGet) = .ok handlers ∧
      ∃ endpoint ∈ itemEndpoints ownedGet,
        (∃ param ∈ endpoint.params, ∀ function ∈ handlers.functions, param.rawName ∉ function.reads) ∧
          ∃ group ∈ endpoint.requiredGroups, ∀ function ∈ handlers.functions, group ∉ function.checks) ∧
    ∃ files handlers, renderFiles itemSchema ownerOptions.registry ownerSurroundings
        (itemEndpoints ownedList) = .ok files ∧
      handlerModule itemSchema ownerOptions.registry ownerSurroundings
        (itemEndpoints ownedList) = .ok handlers ∧
      ∃ endpoint ∈ itemEndpoints ownedList,
        ∃ param ∈ endpoint.params, ∀ function ∈ handlers.functions, param.rawName ∉ function.reads := by
  have get : ∀ handlers ∈ (handlerModule itemSchema ownerOptions.registry ownerSurroundings
        (itemEndpoints ownedGet)).toOption,
      ∃ endpoint ∈ itemEndpoints ownedGet,
        (∃ param ∈ endpoint.params, ∀ function ∈ handlers.functions, param.rawName ∉ function.reads) ∧
          ∃ group ∈ endpoint.requiredGroups, ∀ function ∈ handlers.functions, group ∉ function.checks := by
    decide +kernel
  have list : ∀ handlers ∈ (handlerModule itemSchema ownerOptions.registry ownerSurroundings
        (itemEndpoints ownedList)).toOption,
      ∃ endpoint ∈ itemEndpoints ownedList,
        ∃ param ∈ endpoint.params, ∀ function ∈ handlers.functions, param.rawName ∉ function.reads := by
    decide +kernel
  constructor
  · obtain ⟨files, rendered⟩ := exists_files_item ownedGet
    obtain ⟨handlers, assembled, -⟩ := renderFiles_eq_ok rendered
    exact ⟨files, handlers, rendered, assembled, get handlers (toOption_eq_some_iff.mpr assembled)⟩
  · obtain ⟨files, rendered⟩ := exists_files_item ownedList
    obtain ⟨handlers, assembled, -⟩ := renderFiles_eq_ok rendered
    exact ⟨files, handlers, rendered, assembled, list handlers (toOption_eq_some_iff.mpr assembled)⟩

end QuerySynth
