import QuerySynth.Proofs.Endpoint.Sound

/-! # The fate of every parameter

Each flattened parameter of an operation is kept, reported once, or ignored; which of these depends on
the registry, the request and the parameters before it. A complete draft keeps and reports exactly
what these fates say, in the order of the parameters.
-/

namespace QuerySynth

/-- What becomes of a parameter. -/
inductive Fate where
  | kept
  | reported (finding : Finding)
  | ignored

namespace Fate

def isKept : Fate → Bool
  | kept => true
  | _ => false

def finding? : Fate → Option Finding
  | reported finding => some finding
  | _ => none

end Fate

/-- Whether a parameter filters a field by an operator. -/
def Parameter.filters (param : Parameter) (field : String) (op : Operator) : Bool :=
  param.location = .query ∧ param.field = field ∧ param.operator = some op

/-- What becomes of a parameter after some earlier ones. A path parameter is kept, as an operation has
no endpoint when it fits no field; of several filters of one field by one operator the first is kept. -/
def fate (registry : Registry) (request : Message) (earlier : List Parameter) (param : Parameter) :
    Fate :=
  match param.location with
  | .path => .kept
  | .query =>
    match param.operator with
    | some op =>
      match filterTarget registry request param op with
      | .error finding => .reported finding
      | .ok (field, _) =>
        if earlier.any (·.filters param.field op) then .reported (.boundTwice op field.name) else .kept
    | none =>
      match resolveScalar request param with
      | .error finding => .reported finding
      | .ok _ => .kept
  | .header | .cookie => .ignored

/-- Parameters, each with what becomes of it after the ones before. -/
def fates (registry : Registry) (request : Message) (earlier : List Parameter) :
    List Parameter → List (Parameter × Fate)
  | [] => []
  | param :: rest =>
    (param, fate registry request earlier param) :: fates registry request (earlier ++ [param]) rest

section Lists

variable (registry : Registry) (request : Message)

theorem map_fst_fates (earlier params : List Parameter) :
    (fates registry request earlier params).map (·.1) = params := by
  induction params generalizing earlier with
  | nil => rfl
  | cons param rest ih => rw [fates, List.map_cons, ih]

theorem fates_append (earlier first second : List Parameter) :
    fates registry request earlier (first ++ second) =
      fates registry request earlier first ++ fates registry request (earlier ++ first) second := by
  induction first generalizing earlier with
  | nil => rw [List.nil_append, List.append_nil]; rfl
  | cons param rest ih =>
    rw [List.cons_append, fates, fates, ih, List.append_assoc]
    rfl

end Lists

def keptParams (decided : List (Parameter × Fate)) : List Parameter :=
  (decided.filter (·.2.isKept)).map (·.1)

def paramFindings (decided : List (Parameter × Fate)) : List Finding :=
  decided.filterMap (·.2.finding?)

theorem keptParams_append (first second : List (Parameter × Fate)) :
    keptParams (first ++ second) = keptParams first ++ keptParams second := by
  simp [keptParams]

theorem paramFindings_append (first second : List (Parameter × Fate)) :
    paramFindings (first ++ second) = paramFindings first ++ paramFindings second := by
  simp [paramFindings]

/-- A draft did with the parameters what their fates say, and every filter that fits its field is kept
or stands behind one that is. -/
structure Draft.Follows (registry : Registry) (request : Message) (taken : List Parameter)
    (draft : Draft) : Prop where
  sound : draft.Sound registry request
  params : draft.params = keptParams (fates registry request [] taken)
  findings : draft.findings = paramFindings (fates registry request [] taken)
  covered : ∀ param ∈ taken, ∀ op result, param.location = .query → param.operator = some op →
    filterTarget registry request param op = .ok result →
      ∃ kept ∈ draft.params, kept.filters param.field op = true

namespace Draft

variable {registry : Registry} {request : Message} {draft : Draft} {taken : List Parameter}

/-- A field has an operator when a kept parameter filters the field by it. -/
theorem isSome_param?_iff (sound : draft.Sound registry request) (field : String) (op : Operator) :
    ((draft.filters.get? field).bind (·.param? op)).isSome ↔
      ∃ kept ∈ draft.params, kept.filters field op = true := by
  have used : (∃ param, (field, op, param) ∈ draft.filters.flatMap (·.2.uses)) ↔
      ∃ kept ∈ draft.params, kept.filters field op = true := by
    simp only [sound.operators.mem_iff, List.mem_filterMap]
    constructor
    · rintro ⟨raw, param, member, use⟩
      refine ⟨param, member, ?_⟩
      rw [Parameter.filterUse?] at use
      split at use
      · rename_i other location operator
        obtain ⟨rfl, rfl, -⟩ := by simpa using use
        simp [Parameter.filters, location, operator]
      · simp at use
    · rintro ⟨param, member, filters⟩
      simp only [Parameter.filters, decide_eq_true_eq] at filters
      obtain ⟨location, rfl, operator⟩ := filters
      exact ⟨param.rawName, param, member, by simp [Parameter.filterUse?, location, operator]⟩
  rw [← used]
  constructor
  · intro bound
    cases found : draft.filters.get? field with
    | none => simp [found] at bound
    | some binding =>
      have stored := Keyed.mem_of_get? found
      rw [found, Option.bind_some, Option.isSome_iff_ne_none, ne_eq, FilterBinding.param?_eq_none_iff,
        Classical.not_not] at bound
      obtain ⟨entry, member, rfl⟩ := List.mem_map.mp bound
      refine ⟨entry.param, List.mem_flatMap.mpr ⟨(field, binding), stored, ?_⟩⟩
      refine List.mem_map.mpr ⟨entry, member, ?_⟩
      rw [sound.named _ stored]
  · rintro ⟨raw, use⟩
    obtain ⟨⟨key, binding⟩, stored, use⟩ := List.mem_flatMap.mp use
    obtain ⟨entry, member, same⟩ := List.mem_map.mp use
    obtain ⟨rfl, rfl, -⟩ := by simpa using same
    have named : binding.field = key := sound.named _ stored
    rw [named, (Keyed.get?_eq_some_iff sound.sorted).mpr stored, Option.bind_some,
      Option.isSome_iff_ne_none, ne_eq, FilterBinding.param?_eq_none_iff, Classical.not_not]
    exact List.mem_map_of_mem member

/-- A field has the operator of a fitting parameter when an earlier parameter filters it likewise. -/
private theorem isSome_param?_iff_any (follows : draft.Follows registry request taken) {param : Parameter}
    {op : Operator} {field : Field} {filterType : String} {family : Family}
    (target : filterTarget registry request param op = .ok (field, filterType, family)) :
    ((draft.filters.get? field.name).bind (·.param? op)).isSome ↔
      taken.any (·.filters param.field op) = true := by
  obtain ⟨present, typed, registered, supported⟩ := filterTarget_eq_ok_iff.mp target
  rw [isSome_param?_iff follows.sound, Message.name_of_field? present, List.any_eq_true]
  constructor
  · rintro ⟨kept, member, filters⟩
    rw [follows.params, keptParams] at member
    obtain ⟨decided, chosen, rfl⟩ := List.mem_map.mp member
    refine ⟨decided.1, ?_, filters⟩
    rw [← map_fst_fates registry request [] taken]
    exact List.mem_map_of_mem (List.mem_filter.mp chosen).1
  · rintro ⟨other, member, filters⟩
    simp only [Parameter.filters, decide_eq_true_eq] at filters
    obtain ⟨location, same, operator⟩ := filters
    rw [← same]
    refine follows.covered other member op (field, filterType, family) location operator ?_
    exact filterTarget_eq_ok_iff.mpr ⟨by rw [same, present], typed, registered, supported⟩

/-- A filter that resolves is the first one of its field and operator. -/
private theorem fate_of_resolveFilter_ok (follows : draft.Follows registry request taken) {param : Parameter}
    {op : Operator} {filters : Keyed FilterBinding} (location : param.location = .query)
    (operator : param.operator = some op)
    (resolved : resolveFilter registry request param op draft.filters = .ok filters) :
    fate registry request taken param = .kept := by
  obtain ⟨field, filterType, family, target, fresh, rfl⟩ := resolveFilter_eq_ok_iff.mp resolved
  have free : ¬ taken.any (·.filters param.field op) = true := by
    rw [← isSome_param?_iff_any follows target]
    cases found : draft.filters.get? field.name with
    | none => simp
    | some binding => simpa [found] using fresh
  simp only [fate, location, operator, target, if_neg free]

/-- A filter that does not resolve is reported with the reason. When it fits its field, a filter that is kept
stands before it. -/
private theorem fate_of_resolveFilter_error (follows : draft.Follows registry request taken)
    {param : Parameter} {op : Operator} {finding : Finding} (location : param.location = .query)
    (operator : param.operator = some op)
    (refused : resolveFilter registry request param op draft.filters = .error finding) :
    fate registry request taken param = .reported finding ∧
      ∀ result, filterTarget registry request param op = .ok result →
        ∃ kept ∈ draft.params, kept.filters param.field op = true := by
  rcases resolveFilter_eq_error_iff.mp refused with unfit | ⟨field, filterType, family, target, bound, rfl⟩
  · refine ⟨by simp only [fate, location, operator, unfit], ?_⟩
    intro result fits
    rw [unfit] at fits
    cases fits
  · have repeated := (isSome_param?_iff_any follows target).mp bound
    refine ⟨by simp only [fate, location, operator, target, if_pos repeated], ?_⟩
    intro result _
    rw [← Message.name_of_field? (filterTarget_eq_ok_iff.mp target).1]
    exact (isSome_param?_iff follows.sound field.name op).mp bound

section Steps

variable {next : Draft} {param : Parameter} (follows : draft.Follows registry request taken)
  (sound : next.Sound registry request)

private theorem fates_snoc (registry : Registry) (request : Message) (taken : List Parameter)
    (param : Parameter) :
    fates registry request [] (taken ++ [param]) =
      fates registry request [] taken ++ [(param, fate registry request taken param)] := by
  rw [fates_append, List.nil_append]
  rfl

include follows sound

/-- A step keeps and reports what the fate of its parameter says. A fitting filter is kept, or stands behind one
that is. -/
private theorem follows_snoc
    (params : next.params = draft.params ++ keptParams [(param, fate registry request taken param)])
    (findings : next.findings = draft.findings ++ paramFindings [(param, fate registry request taken param)])
    (behind : ∀ op result, param.location = .query → param.operator = some op →
      filterTarget registry request param op = .ok result →
        ∃ kept ∈ next.params, kept.filters param.field op = true) :
    next.Follows registry request (taken ++ [param]) where
  sound := sound
  params := by rw [params, fates_snoc, keptParams_append, follows.params]
  findings := by rw [findings, fates_snoc, paramFindings_append, follows.findings]
  covered := by
    intro other member op result location operator target
    rcases List.mem_append.mp member with old | new
    · obtain ⟨kept, present, filters⟩ := follows.covered other old op result location operator target
      exact ⟨kept, params ▸ List.mem_append_left _ present, filters⟩
    · obtain rfl := List.mem_singleton.mp new
      exact behind op result location operator target

private theorem follows_of_kept (decided : fate registry request taken param = .kept)
    (params : next.params = draft.params ++ [param]) (findings : next.findings = draft.findings) :
    next.Follows registry request (taken ++ [param]) := by
  refine follows_snoc follows sound ?_ ?_ ?_
  · rw [params, decided]
    rfl
  · rw [findings, decided]
    exact (List.append_nil _).symm
  · intro op result location operator _
    exact ⟨param, by simp [params], by simp [Parameter.filters, location, operator]⟩

private theorem follows_of_reported {finding : Finding}
    (decided : fate registry request taken param = .reported finding)
    (params : next.params = draft.params) (findings : next.findings = draft.findings ++ [finding])
    (behind : ∀ op result, param.operator = some op → filterTarget registry request param op = .ok result →
      ∃ kept ∈ draft.params, kept.filters param.field op = true) :
    next.Follows registry request (taken ++ [param]) := by
  refine follows_snoc follows sound ?_ ?_ ?_
  · rw [params, decided]
    exact (List.append_nil _).symm
  · rw [findings, decided]
    rfl
  · intro op result _ operator target
    rw [params]
    exact behind op result operator target

private theorem follows_of_ignored (decided : fate registry request taken param = .ignored)
    (elsewhere : param.location ≠ .query)
    (params : next.params = draft.params) (findings : next.findings = draft.findings) :
    next.Follows registry request (taken ++ [param]) := by
  refine follows_snoc follows sound ?_ ?_ ?_
  · rw [params, decided]
    exact (List.append_nil _).symm
  · rw [findings, decided]
    exact (List.append_nil _).symm
  · intro op result location
    exact absurd location elsewhere

end Steps

/-- One step does what the fate of its parameter says. -/
theorem follows_step (follows : draft.Follows registry request taken) {param : Parameter} {next : Draft}
    (step : Step registry request draft param next) :
    next.Follows registry request (taken ++ [param]) := by
  have sound := sound_step follows.sound step
  cases step with
  | key key location resolved =>
    have decided : fate registry request taken param = .kept := by rw [fate, location]
    exact follows_of_kept follows sound decided (params_keep _ param) (findings_keep _ param)
  | filter op filters location operator resolved =>
    have decided := fate_of_resolveFilter_ok follows location operator resolved
    exact follows_of_kept follows sound decided (params_keep _ param) (findings_keep _ param)
  | scalar scalar location operator resolved =>
    have decided : fate registry request taken param = .kept := by
      simp only [fate, location, operator, resolved]
    exact follows_of_kept follows sound decided (params_keep _ param) (findings_keep _ param)
  | reject finding location failed =>
    have params := params_reject draft param finding
    have findings := findings_reject draft param finding
    rcases failed with ⟨op, operator, refused⟩ | ⟨operator, refused⟩
    · obtain ⟨decided, behind⟩ := fate_of_resolveFilter_error follows location operator refused
      refine follows_of_reported follows sound decided params findings ?_
      intro other result same target
      obtain rfl : op = other := Option.some.inj (operator.symm.trans same)
      exact behind result target
    · have decided : fate registry request taken param = .reported finding := by
        simp only [fate, location, operator, refused]
      refine follows_of_reported follows sound decided params findings ?_
      intro op result same
      rw [operator] at same
      cases same
  | ignore location =>
    have decided : fate registry request taken param = .ignored := by
      rcases location with header | cookie
      · rw [fate, header]
      · rw [fate, cookie]
    have elsewhere : param.location ≠ .query := by
      rcases location with header | cookie
      · rw [header]; decide
      · rw [cookie]; decide
    exact follows_of_ignored follows sound decided elsewhere (params_drop _ param) (findings_drop _ param)

/-- A complete draft did what the fates of the parameters say. -/
theorem follows_addAll {params : List Parameter} (complete : addAll registry request params = .ok draft) :
    draft.Follows registry request params := by
  refine invariant_addAll (P := Follows registry request) ?_ ?_ complete
  · exact {
      sound := sound_empty
      params := rfl
      findings := rfl
      covered := by simp }
  · intro taken draft param next follows step
    exact follows_step follows step

end Draft

end QuerySynth
