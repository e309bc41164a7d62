import QuerySynth.Proofs.Endpoint.Account
import QuerySynth.Proofs.Rest.Collect

/-! # Required groups, exactly

A group stands when no collected parameter that names it was left out and some resolved parameter belongs
to it, by itself or through its request field. Every other group that a parameter or a field mentions has
one warning. Drafts carry what decides this: the names of the parameters that were left out, by group.
-/

namespace QuerySynth

open Rest

/-- The names of the parameters that name a group and were left out. -/
def foreignNames (params resolved : List Parameter) (group : String) : List String :=
  (params.filter fun param => param.requiredGroup = some group ∧ param ∉ resolved).map (·.name)

section Foreign

variable {params resolved : List Parameter} {param : Parameter} {group : String}

theorem foreignNames_eq_nil_iff :
    foreignNames params resolved group = [] ↔
      ∀ param ∈ params, param.requiredGroup = some group → param ∈ resolved := by
  simp [foreignNames, List.filter_eq_nil_iff]

/-- A parameter that is resolved as it is taken leaves the names alone. -/
theorem foreignNames_keep (fresh : param ∉ params) :
    foreignNames (params ++ [param]) (resolved ++ [param]) group = foreignNames params resolved group := by
  have others : (params.filter fun other => other.requiredGroup = some group ∧ other ∉ resolved ++ [param]) =
      params.filter fun other => other.requiredGroup = some group ∧ other ∉ resolved := by
    refine List.filter_congr fun other member => ?_
    have different : other ≠ param := fun same => fresh (same ▸ member)
    simp [different]
  rw [foreignNames, List.filter_append, others, List.filter_cons_of_neg (by simp), List.filter_nil,
    List.append_nil, foreignNames]

/-- A parameter that is left out adds its name to those of its group. -/
theorem foreignNames_drop (unresolved : param ∉ resolved) :
    foreignNames (params ++ [param]) resolved group =
      foreignNames params resolved group ++ if param.requiredGroup = some group then [param.name] else [] := by
  rw [foreignNames, List.filter_append, List.map_append, foreignNames]
  congr 1
  split
  · rename_i named
    simp [named, unresolved]
  · rename_i other
    simp [other]

end Foreign

namespace Draft

/-- A draft resolved some of the taken parameters, and remembers the names of the others by their groups. -/
structure Remembers (taken : List Parameter) (draft : Draft) : Prop where
  resolved : draft.params ⊆ taken
  unresolved : ∀ group, draft.unresolvedGroups.get? group =
    if foreignNames taken draft.params group = [] then none
    else some (foreignNames taken draft.params group)

variable {draft next : Draft} {taken : List Parameter} {param : Parameter}

@[simp] theorem unresolvedGroups_keep (draft : Draft) (param : Parameter) :
    (draft.keep param).unresolvedGroups = draft.unresolvedGroups := rfl

theorem unresolvedGroups_reject (draft : Draft) (param : Parameter) (finding : Finding) :
    (draft.reject param finding).unresolvedGroups = (draft.drop param).unresolvedGroups := by
  rw [reject, drop, drop]
  split <;> rfl

theorem get?_unresolvedGroups_drop (draft : Draft) (param : Parameter) (group : String) :
    (draft.drop param).unresolvedGroups.get? group =
      if param.requiredGroup = some group then
        some ((draft.unresolvedGroups.get? group).getD [] ++ [param.name])
      else draft.unresolvedGroups.get? group := by
  rw [drop]
  cases named : param.requiredGroup with
  | none => simp
  | some other =>
    dsimp only
    rw [Keyed.get?_insert]
    by_cases same : group = other
    · subst same
      rw [if_pos rfl, if_pos rfl]
    · rw [if_neg same, if_neg fun equal => same (Option.some.inj equal).symm]

private theorem remembers_of_kept (remembers : draft.Remembers taken) (fresh : param ∉ taken)
    (params : next.params = draft.params ++ [param])
    (groups : next.unresolvedGroups = draft.unresolvedGroups) : next.Remembers (taken ++ [param]) where
  resolved := by
    rw [params]
    exact List.append_subset.mpr
      ⟨List.Subset.trans remembers.resolved (List.subset_append_left ..), List.subset_append_right ..⟩
  unresolved group := by
    rw [groups, params, foreignNames_keep fresh]
    exact remembers.unresolved group

private theorem remembers_of_dropped (remembers : draft.Remembers taken) (fresh : param ∉ taken)
    (params : next.params = draft.params)
    (groups : next.unresolvedGroups = (draft.drop param).unresolvedGroups) :
    next.Remembers (taken ++ [param]) where
  resolved := by
    rw [params]
    exact List.Subset.trans remembers.resolved (List.subset_append_left ..)
  unresolved group := by
    have unresolved : param ∉ draft.params := fun member => fresh (remembers.resolved member)
    rw [groups, params, foreignNames_drop unresolved, get?_unresolvedGroups_drop, remembers.unresolved group]
    by_cases named : param.requiredGroup = some group
    · by_cases none : foreignNames taken draft.params group = [] <;> simp [named, none]
    · simp [named]

/-- A complete draft of different parameters remembers those it left out. -/
theorem remembers_addAll {registry : Registry} {request : Message} {params : List Parameter}
    (distinct : params.Nodup) (complete : addAll registry request params = .ok draft) :
    draft.Remembers params := by
  refine invariant_addAll (P := fun taken draft => taken.Nodup → draft.Remembers taken) ?_ ?_ complete distinct
  · intro _
    exact ⟨List.nil_subset _, fun group => rfl⟩
  · intro taken draft param next holds step distinct
    obtain ⟨earlier, -, apart⟩ := List.nodup_append.mp distinct
    have remembers := holds earlier
    have fresh : param ∉ taken := fun member => apart param member param List.mem_cons_self rfl
    cases step with
    | key key => exact remembers_of_kept remembers fresh rfl rfl
    | filter op filters => exact remembers_of_kept remembers fresh rfl rfl
    | scalar scalar => exact remembers_of_kept remembers fresh rfl rfl
    | reject finding =>
      exact remembers_of_dropped remembers fresh (params_reject _ _ _) (unresolvedGroups_reject _ _ _)
    | ignore => exact remembers_of_dropped remembers fresh (params_drop _ _) rfl

end Draft

/-- A parameter belongs to a group by itself or through its request field. -/
def Parameter.BelongsTo (request : Message) (group : String) (param : Parameter) : Prop :=
  param.requiredGroup = some group ∨
    ∃ field ∈ request.fields, field.name = param.field ∧ field.requiredGroup = some group

theorem inGroup_iff {request : Message} {group : String} {param : Parameter} :
    inGroup request group param = true ↔ param.BelongsTo request group := by
  simp [inGroup, Parameter.BelongsTo, and_comm]

theorem mem_groupMembers {request : Message} {params : List Parameter} {group raw : String} :
    raw ∈ groupMembers request params group ↔
      ∃ param ∈ params, param.rawName = raw ∧ param.BelongsTo request group := by
  rw [groupMembers, mem_sortedNames, List.mem_map]
  simp only [List.mem_filter, inGroup_iff]
  constructor
  · rintro ⟨param, ⟨member, belongs⟩, named⟩
    exact ⟨param, member, named, belongs⟩
  · rintro ⟨param, member, named, belongs⟩
    exact ⟨param, ⟨member, belongs⟩, named⟩

section Stands

variable (request : Message) (params : List Parameter) (unresolved : Keyed (List String))

/-- No parameter of the group was left out, and a resolved one belongs to it. -/
def groupStands (group : String) : Bool :=
  (unresolved.get? group).isNone && !(groupMembers request params group).isEmpty

def droppedGroup (group : String) : Finding :=
  match unresolved.get? group with
  | some foreign => .foreignMembers group foreign request.name
  | none => .emptyGroup group

theorem checkGroup_eq (group : String) :
    checkGroup request params unresolved group =
      if groupStands request params unresolved group then .ok ⟨group, groupMembers request params group⟩
      else .error (droppedGroup request unresolved group) := by
  rw [checkGroup, groupStands, droppedGroup]
  cases unresolved.get? group with
  | some foreign => rfl
  | none => cases groupMembers request params group <;> rfl

/-- The groups that stand are kept with their members, and the others are reported. -/
theorem requiredGroups_eq :
    requiredGroups request params unresolved =
      (((groupNames request params unresolved).filter (groupStands request params unresolved)).map
          fun group => ⟨group, groupMembers request params group⟩,
        ((groupNames request params unresolved).filter (!groupStands request params unresolved ·)).map
          (droppedGroup request unresolved)) := by
  rw [requiredGroups]
  generalize groupNames request params unresolved = names
  induction names with
  | nil => rfl
  | cons group rest ih =>
    rw [Prod.mk.injEq] at ih ⊢
    cases stands : groupStands request params unresolved group <;>
      simp [checkGroup_eq, stands, ih]

end Stands

/-- The flattened parameters of a path that a request serves. -/
def collectedParams (description : Description) (schema : Schema) (options : BuildOptions) (path : String)
    (request : Message) : List Parameter :=
  flattenAll schema options.registry request (collect description.document path "get").1

theorem nodup_collectedParams (description : Description) (schema : Schema) (options : BuildOptions)
    (path : String) (request : Message) :
    (collectedParams description schema options path request).Nodup := by
  have places : (collectedParams description schema options path request).map
        (fun param => (param.rawName, param.location)) =
      (collect description.document path "get").1.map placeOf := by
    rw [collectedParams, flattenAll, List.map_map]
    rfl
  exact List.Nodup.of_map _ (places ▸ nodup_collect description.document path "get")

/-- A parameter or a request field mentions a group. -/
def Mentions (request : Message) (collected : List Parameter) (group : String) : Prop :=
  (∃ param ∈ collected, param.requiredGroup = some group) ∨
    ∃ field ∈ request.fields, field.requiredGroup = some group

/-- The warning about a group that does not stand: it has parameters that were left out, or no members. -/
def groupWarning (request : Message) (collected resolved : List Parameter) (group : String) : Finding :=
  match foreignNames collected resolved group with
  | [] => .emptyGroup group
  | foreign => .foreignMembers group foreign request.name

/-- The required groups of an endpoint are what its request and the collected parameters say, and the
reports at its place say why every other group is not one of them. -/
structure Endpoint.GroupsExact (endpoint : Endpoint) (request : Message) (collected : List Parameter)
    (diagnostics : List Diagnostic) : Prop where
  /-- The names of the groups increase. -/
  increasing : (endpoint.requiredGroups.map (·.name)).Pairwise (· < ·)
  /-- A group is present when its parameters are resolved and it has a member. -/
  present : ∀ group, group ∈ endpoint.requiredGroups.map (·.name) ↔
    (∀ param ∈ collected, param.requiredGroup = some group → param ∈ endpoint.params) ∧
      ∃ param ∈ endpoint.params, param.BelongsTo request group
  /-- Its members are the raw names of the resolved parameters that belong to it. -/
  members : ∀ group ∈ endpoint.requiredGroups, ∀ raw, raw ∈ group.members ↔
    ∃ param ∈ endpoint.params, param.rawName = raw ∧ param.BelongsTo request group.name
  /-- The members of a group increase. -/
  sorted : ∀ group ∈ endpoint.requiredGroups, group.members.Pairwise (· < ·)
  /-- Headers and cookies are not resolved. -/
  carried : ∀ param ∈ endpoint.params, param.location ≠ .header ∧ param.location ≠ .cookie
  /-- Every other mentioned group has one warning. -/
  reported : ∃ dropped : List String, dropped.Pairwise (· < ·) ∧
    (∀ group, group ∈ dropped ↔
      Mentions request collected group ∧ group ∉ endpoint.requiredGroups.map (·.name)) ∧
    diagnostics.filter (fun d => d.location = endpoint.location ∧ d.kind = .invalidRequiredGroup) =
      dropped.map fun group =>
        ⟨endpoint.location, .warning, .invalidRequiredGroup,
          (groupWarning request collected endpoint.params group).message⟩

section Complete

variable {request : Message} {draft : Draft} {collected : List Parameter}

/-- The groups that a complete draft knows are those mentioned. -/
theorem mem_groupNames_iff (remembers : draft.Remembers collected) {group : String} :
    group ∈ groupNames request draft.params draft.unresolvedGroups ↔ Mentions request collected group := by
  have absent : group ∈ draft.unresolvedGroups.keys ↔
      ∃ param ∈ collected, param.requiredGroup = some group ∧ param ∉ draft.params := by
    have found := remembers.unresolved group
    have nil := @foreignNames_eq_nil_iff collected draft.params group
    rw [← not_iff_not, ← Keyed.get?_eq_none_iff, found, ite_eq_left_iff]
    simp [nil]
  rw [groupNames, mem_sortedNames, List.mem_append, List.mem_append, List.mem_filterMap, Message.groups,
    List.mem_filterMap, absent, Mentions]
  constructor
  · rintro ((⟨param, member, named⟩ | field) | ⟨param, member, named, -⟩)
    · exact .inl ⟨param, remembers.resolved member, named⟩
    · exact .inr field
    · exact .inl ⟨param, member, named⟩
  · rintro (⟨param, member, named⟩ | field)
    · by_cases resolved : param ∈ draft.params
      · exact .inl (.inl ⟨param, resolved, named⟩)
      · exact .inr ⟨param, member, named, resolved⟩
    · exact .inl (.inr field)

theorem groupStands_iff (remembers : draft.Remembers collected) {group : String} :
    groupStands request draft.params draft.unresolvedGroups group = true ↔
      (∀ param ∈ collected, param.requiredGroup = some group → param ∈ draft.params) ∧
        ∃ param ∈ draft.params, param.BelongsTo request group := by
  have resolved : (draft.unresolvedGroups.get? group).isNone = true ↔
      ∀ param ∈ collected, param.requiredGroup = some group → param ∈ draft.params := by
    rw [remembers.unresolved group, ← foreignNames_eq_nil_iff]
    split <;> simp [*]
  have inhabited : (groupMembers request draft.params group).isEmpty = false ↔
      ∃ param ∈ draft.params, param.BelongsTo request group := by
    rw [List.isEmpty_eq_false_iff_exists_mem]
    simp only [mem_groupMembers]
    constructor
    · rintro ⟨raw, param, member, -, belongs⟩
      exact ⟨param, member, belongs⟩
    · rintro ⟨param, member, belongs⟩
      exact ⟨param.rawName, param, member, rfl, belongs⟩
  rw [groupStands, Bool.and_eq_true, Bool.not_eq_true', resolved, inhabited]

/-- A group with a resolved member is mentioned. -/
theorem Parameter.BelongsTo.mentions {group : String} {param : Parameter} (member : param ∈ collected)
    (belongs : param.BelongsTo request group) : Mentions request collected group := by
  rcases belongs with named | ⟨field, inside, -, named⟩
  · exact .inl ⟨param, member, named⟩
  · exact .inr ⟨field, inside, named⟩

theorem droppedGroup_eq (remembers : draft.Remembers collected) (group : String) :
    droppedGroup request draft.unresolvedGroups group =
      groupWarning request collected draft.params group := by
  rw [droppedGroup, groupWarning, remembers.unresolved group]
  split
  · split <;> simp_all
  · split <;> simp_all

theorem report_groupWarning (resolved : List Parameter) (group place : String) :
    (groupWarning request collected resolved group).report place =
      ⟨place, .warning, .invalidRequiredGroup, (groupWarning request collected resolved group).message⟩ := by
  rw [groupWarning]
  split <;> rfl

/-- The endpoint of a complete draft has exact groups when the reports are those about its groups. -/
theorem groupsExact_assemble (remembers : draft.Remembers collected) {options : BuildOptions}
    {operation : Operation} {resource : String} {exchange : Exchange} {diagnostics : List Diagnostic}
    {endpoint : Endpoint} (assembled : (assemble options operation resource exchange draft).1 = endpoint)
    (sound : draft.Sound options.registry exchange.request)
    (reports : diagnostics.filter (fun d => d.location = endpoint.location ∧
        d.kind = .invalidRequiredGroup) =
      (requiredGroups exchange.request draft.params draft.unresolvedGroups).2.map
        (·.report endpoint.location)) :
    endpoint.GroupsExact exchange.request collected diagnostics := by
  have params : endpoint.params = draft.params := by rw [← assembled]; rfl
  have groups : endpoint.requiredGroups =
      ((groupNames exchange.request draft.params draft.unresolvedGroups).filter
        (groupStands exchange.request draft.params draft.unresolvedGroups)).map
          fun group => ⟨group, groupMembers exchange.request draft.params group⟩ := by
    rw [← assembled]
    exact congrArg Prod.fst (requiredGroups_eq ..)
  have names : endpoint.requiredGroups.map (·.name) =
      (groupNames exchange.request draft.params draft.unresolvedGroups).filter
        (groupStands exchange.request draft.params draft.unresolvedGroups) := by
    rw [groups, List.map_map]
    exact List.map_id _
  have ofMember {group : RequiredGroup} (member : group ∈ endpoint.requiredGroups) :
      group.members = groupMembers exchange.request draft.params group.name := by
    rw [groups] at member
    obtain ⟨name, -, rfl⟩ := List.mem_map.mp member
    rfl
  have present (group : String) : group ∈ endpoint.requiredGroups.map (·.name) ↔
      (∀ param ∈ collected, param.requiredGroup = some group → param ∈ draft.params) ∧
        ∃ param ∈ draft.params, param.BelongsTo exchange.request group := by
    rw [names, List.mem_filter, mem_groupNames_iff remembers, groupStands_iff remembers]
    refine ⟨And.right, fun stands => ⟨?_, stands⟩⟩
    obtain ⟨-, param, member, belongs⟩ := stands
    exact belongs.mentions (remembers.resolved member)
  refine ⟨?_, ?_, ?_, ?_, ?_, ?_⟩
  · rw [names]
    exact (pairwise_sortedNames _).filter _
  · rw [params]
    exact present
  · intro group member raw
    rw [ofMember member, params]
    exact mem_groupMembers
  · intro group member
    rw [ofMember member]
    exact pairwise_sortedNames _
  · intro param member
    rw [params] at member
    rcases sound.carried param member with path | query
    · simp [path]
    · simp [query]
  · refine ⟨(groupNames exchange.request draft.params draft.unresolvedGroups).filter
      (!groupStands exchange.request draft.params draft.unresolvedGroups ·), ?_, ?_, ?_⟩
    · exact (pairwise_sortedNames _).filter _
    · intro group
      rw [names, List.mem_filter, List.mem_filter, mem_groupNames_iff remembers]
      cases groupStands exchange.request draft.params draft.unresolvedGroups group <;> simp
    · rw [reports, requiredGroups_eq, params, List.map_map]
      refine List.map_congr_left fun group _ => ?_
      rw [Function.comp_apply, droppedGroup_eq remembers, report_groupWarning]

end Complete

section Model

variable {description : Description} {schema : Schema} {options : BuildOptions} {endpoint : Endpoint}

/-- All reports at the place of an endpoint are those of its operation. -/
theorem diagnostics_of_mem_endpoints {operation : Operation} (listed : operation ∈ description.operations)
    (present : (buildOperation description schema options operation).endpoint = some endpoint)
    (member : endpoint ∈ (buildEndpoints description schema options).endpoints) :
    (buildEndpoints description schema options).diagnostics.filter (·.location = endpoint.location) =
      (buildOperation description schema options operation).diagnostics := by
  obtain ⟨isGet, -, place⟩ := location_of_endpoint present
  have sorted := filter_sorted_endpoints schema options listed
  rw [present, Option.toList_some] at sorted
  rw [place, filter_diagnostics_of_get schema options listed isGet]
  rcases dropDuplicates_of_single [] sorted with ⟨-, reported⟩ | ⟨none, -⟩
  · rw [reported, List.append_nil]
  · have chosen : endpoint ∈ (buildEndpoints description schema options).endpoints.filter
        (·.location = operation.location) := List.mem_filter.mpr ⟨member, decide_eq_true place⟩
    rw [buildEndpoints, none] at chosen
    simp at chosen

/-- Among the findings of an operation those about its groups are told by their kind. -/
theorem filter_report_groups {entries params groups : List Finding} (place : String)
    (ofEntries : ∀ finding ∈ entries, finding.kind = .unresolvedReference)
    (ofParams : ∀ finding ∈ params, finding.kind ∈ parameterKinds)
    (ofGroups : ∀ finding ∈ groups, finding.kind = .invalidRequiredGroup) :
    ((entries ++ (params ++ groups)).map (·.report place)).filter (·.kind = .invalidRequiredGroup) =
      groups.map (·.report place) := by
  have noEntry : entries.filter (·.kind = .invalidRequiredGroup) = [] := by
    refine List.filter_eq_nil_iff.mpr fun finding member => ?_
    rw [ofEntries finding member]
    decide
  have noParam : params.filter (·.kind = .invalidRequiredGroup) = [] := by
    refine List.filter_eq_nil_iff.mpr fun finding member same => ?_
    have known := ofParams finding member
    rw [of_decide_eq_true same] at known
    exact absurd known (by decide)
  have all : groups.filter (·.kind = .invalidRequiredGroup) = groups :=
    List.filter_eq_self.mpr fun finding member => decide_eq_true (ofGroups finding member)
  have onFindings : (fun d : Diagnostic => decide (d.kind = .invalidRequiredGroup)) ∘
      (fun finding : Finding => finding.report place) =
        fun finding => decide (finding.kind = .invalidRequiredGroup) := rfl
  rw [List.filter_map, onFindings, List.filter_append, List.filter_append, noEntry, noParam, all,
    List.nil_append, List.nil_append]

end Model

/-- The required groups of every endpoint are exactly those that its parameters and its request mention,
as far as they stand, and each of the others has one warning. -/
theorem groupsExact_of_mem_endpoints (description : Description) (schema : Schema) (options : BuildOptions)
    (endpoint : Endpoint) (member : endpoint ∈ (buildEndpoints description schema options).endpoints) :
    ∃ request, schema.request? endpoint.resource endpoint.kind = some request ∧
      endpoint.GroupsExact request (collectedParams description schema options endpoint.path request)
        (buildEndpoints description schema options).diagnostics := by
  obtain ⟨operation, listed, present⟩ := exists_operation_of_mem_endpoints member
  have reports := diagnostics_of_mem_endpoints listed present member
  obtain ⟨isGet, path, place⟩ := location_of_endpoint present
  obtain ⟨-, resource, findings, serves, built⟩ := endpoint_buildOperation_eq_some_iff.mp present
  have found := diagnostics_of_buildEndpoint isGet serves built
  obtain ⟨exchange, draft, exchanged, -, complete, assembled⟩ := buildEndpoint_eq_ok_iff.mp built
  obtain ⟨kind, request⟩ := request?_of_findExchange exchanged
  have follows := Draft.follows_addAll complete
  rw [isGet, ← path] at complete
  have remembers := Draft.remembers_addAll
    (nodup_collectedParams description schema options endpoint.path exchange.request) complete
  obtain rfl : draft.findings ++
      (requiredGroups exchange.request draft.params draft.unresolvedGroups).2 = findings :=
    congrArg Prod.snd assembled
  have resources : endpoint.resource = resource ∧ endpoint.kind = exchange.kind := by
    obtain rfl : (assemble options operation resource exchange draft).1 = endpoint := by rw [assembled]
    exact ⟨rfl, rfl⟩
  refine ⟨exchange.request, by rw [resources.1, resources.2, kind, request],
    groupsExact_assemble remembers (by rw [assembled]) follows.sound ?_⟩
  have params : ∀ finding ∈ draft.findings, finding.kind ∈ parameterKinds := by
    rw [follows.findings]
    exact fun _ => kind_of_mem_paramFindings
  rw [← filter_report_groups endpoint.location (fun _ => kind_of_collect) params
    fun _ => kind_of_requiredGroups, place, ← found, ← reports, place, List.filter_filter]
  refine List.filter_congr fun d _ => ?_
  rw [Bool.decide_and, Bool.and_comm]

/-- A List of items whose owner is in the group `scope`; no parameter is about their state. -/
def groupSchema : Schema where
  services := ownerSchema.services
  messages := ownerSchema.messages.insert "ListItemsRequest"
    ⟨"ListItemsRequest", "items.ListItemsRequest",
      [⟨"owner_id", 1, .message "StringFilter", false, some "StringFilter", none, none, some "scope"⟩,
       ⟨"slot", 2, .message "UInt32Filter", false, some "UInt32Filter", none, none, none⟩,
       ⟨"state", 3, .message "StringFilter", false, some "StringFilter", none, none, some "state"⟩]⟩

/-- A description of that List. The slot is put in the group `scope` as well, and a header in another. -/
def groupDescription : Description :=
  ⟨strip (.obj [("info", .obj [("title", .str "Items"), ("version", .str "1")]), ("openapi", .str "3.0.0"),
    ("paths", .obj [("/items", .obj [("get", .obj [("parameters", .arr [
      .obj [("in", .str "query"), ("name", .str "slot.gte"), ("x-required-group", .str "scope")],
      .obj [("in", .str "query"), ("name", .str "ownerId.eq")],
      .obj [("in", .str "header"), ("name", .str "Token"), ("x-required-group", .str "access")]])])])])]),
    isOpenApi_strip rfl (by cbv), by decide⟩

/-- One group stands, with a member from each side; the other two are reported. -/
theorem groupsExact_groupDescription :
    ∃ endpoint ∈ (buildEndpoints groupDescription groupSchema ownerOptions).endpoints,
      endpoint.requiredGroups = [⟨"scope", ["ownerId.eq", "slot.gte"]⟩] ∧
      (buildEndpoints groupDescription groupSchema ownerOptions).diagnostics.map (·.message) =
        ["required group 'access' dropped: members token do not belong to 'ListItemsRequest'",
          "required group 'state' has no members"] ∧
      ∃ request, groupSchema.request? endpoint.resource endpoint.kind = some request ∧
        endpoint.GroupsExact request
          (collectedParams groupDescription groupSchema ownerOptions endpoint.path request)
          (buildEndpoints groupDescription groupSchema ownerOptions).diagnostics := by
  have built : ((buildEndpoints groupDescription groupSchema ownerOptions).endpoints.any fun endpoint =>
      endpoint.requiredGroups = [⟨"scope", ["ownerId.eq", "slot.gte"]⟩]) = true := by decide +kernel
  obtain ⟨endpoint, member, groups⟩ := List.any_eq_true.mp built
  exact ⟨endpoint, member, of_decide_eq_true groups, by decide +kernel,
    groupsExact_of_mem_endpoints groupDescription groupSchema ownerOptions endpoint member⟩

end QuerySynth
