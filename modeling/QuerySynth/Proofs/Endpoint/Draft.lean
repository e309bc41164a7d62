import QuerySynth.Proofs.Endpoint.Binding

/-! # Drafts

Taking one parameter into a draft can do five things, which `Draft.Step` lists with all that decides
between them. A property that every step keeps holds of every complete draft, so each invariant of the
bindings is a case analysis over the steps.
-/

namespace QuerySynth

/-- What taking a parameter can do to a draft. -/
inductive Draft.Step (registry : Registry) (request : Message) (draft : Draft) (param : Parameter) :
    Draft → Prop where
  /-- A path parameter becomes the key. -/
  | key (key : KeyBinding) (location : param.location = .path)
      (resolved : resolveKey registry request param = .ok key) :
      Step registry request draft param ({ draft with key := some key }.keep param)
  /-- A query parameter with an operator is bound to a filter. -/
  | filter (op : Operator) (filters : Keyed FilterBinding) (location : param.location = .query)
      (operator : param.operator = some op)
      (resolved : resolveFilter registry request param op draft.filters = .ok filters) :
      Step registry request draft param ({ draft with filters }.keep param)
  /-- A query parameter without operator is bound to a plain field. -/
  | scalar (scalar : ScalarBinding) (location : param.location = .query)
      (operator : param.operator = none) (resolved : resolveScalar request param = .ok scalar) :
      Step registry request draft param
        ({ draft with scalars := draft.scalars ++ [scalar] }.keep param)
  /-- A query parameter that fits no field is reported. -/
  | reject (finding : Finding) (location : param.location = .query)
      (failed : (∃ op, param.operator = some op ∧
          resolveFilter registry request param op draft.filters = .error finding) ∨
        param.operator = none ∧ resolveScalar request param = .error finding) :
      Step registry request draft param (draft.reject param finding)
  /-- Headers and cookies are ignored. -/
  | ignore (location : param.location = .header ∨ param.location = .cookie) :
      Step registry request draft param (draft.drop param)

namespace Draft

variable {registry : Registry} {request : Message}

theorem step_of_add {draft next : Draft} {param : Parameter}
    (taken : add registry request draft param = .ok next) : Step registry request draft param next := by
  rw [add] at taken
  cases location : param.location with
  | path =>
    simp only [location] at taken
    cases resolved : resolveKey registry request param with
    | error finding => simp [resolved] at taken
    | ok key =>
      simp only [resolved, Except.ok.injEq] at taken
      exact taken ▸ .key key location resolved
  | query =>
    simp only [location] at taken
    cases operator : param.operator with
    | some op =>
      simp only [operator] at taken
      cases resolved : resolveFilter registry request param op draft.filters with
      | error finding =>
        simp only [resolved, Except.ok.injEq] at taken
        exact taken ▸ .reject finding location (.inl ⟨op, operator, resolved⟩)
      | ok filters =>
        simp only [resolved, Except.ok.injEq] at taken
        exact taken ▸ .filter op filters location operator resolved
    | none =>
      simp only [operator] at taken
      cases resolved : resolveScalar request param with
      | error finding =>
        simp only [resolved, Except.ok.injEq] at taken
        exact taken ▸ .reject finding location (.inr ⟨operator, resolved⟩)
      | ok scalar =>
        simp only [resolved, Except.ok.injEq] at taken
        exact taken ▸ .scalar scalar location operator resolved
  | header =>
    simp only [location, Except.ok.injEq] at taken
    exact taken ▸ .ignore (.inl location)
  | cookie =>
    simp only [location, Except.ok.injEq] at taken
    exact taken ▸ .ignore (.inr location)

/-- The whole run: what holds of the empty draft and is kept by every step holds of the complete draft.
The property may speak of the parameters that were taken. -/
theorem invariant_addAll {P : List Parameter → Draft → Prop} (start : P [] {})
    (step : ∀ taken draft param next, P taken draft → Step registry request draft param next →
      P (taken ++ [param]) next)
    {params : List Parameter} {draft : Draft} (complete : addAll registry request params = .ok draft) :
    P params draft := by
  have run (params taken : List Parameter) (draft final : Draft) (holds : P taken draft)
      (complete : params.foldlM (add registry request) draft = .ok final) : P (taken ++ params) final := by
    induction params generalizing taken draft with
    | nil =>
      obtain rfl := Except.ok.inj complete
      rwa [List.append_nil]
    | cons param rest ih =>
      rw [List.foldlM_cons] at complete
      cases added : add registry request draft param with
      | error findings => simp [added, bind, Except.bind] at complete
      | ok next =>
        rw [added] at complete
        have later := ih (taken ++ [param]) next (step _ _ _ _ holds (step_of_add added)) complete
        rwa [List.append_assoc] at later
  exact run params [] {} draft start complete

section Fields

variable (draft : Draft) (param : Parameter) (finding : Finding)

@[simp] theorem params_keep : (draft.keep param).params = draft.params ++ [param] := rfl
@[simp] theorem filters_keep : (draft.keep param).filters = draft.filters := rfl
@[simp] theorem scalars_keep : (draft.keep param).scalars = draft.scalars := rfl
@[simp] theorem key_keep : (draft.keep param).key = draft.key := rfl
@[simp] theorem findings_keep : (draft.keep param).findings = draft.findings := rfl

@[simp] theorem params_drop : (draft.drop param).params = draft.params := by
  rw [drop]; split <;> rfl
@[simp] theorem filters_drop : (draft.drop param).filters = draft.filters := by
  rw [drop]; split <;> rfl
@[simp] theorem scalars_drop : (draft.drop param).scalars = draft.scalars := by
  rw [drop]; split <;> rfl
@[simp] theorem key_drop : (draft.drop param).key = draft.key := by
  rw [drop]; split <;> rfl
@[simp] theorem findings_drop : (draft.drop param).findings = draft.findings := by
  rw [drop]; split <;> rfl

@[simp] theorem params_reject : (draft.reject param finding).params = draft.params :=
  params_drop _ param
@[simp] theorem filters_reject : (draft.reject param finding).filters = draft.filters :=
  filters_drop _ param
@[simp] theorem scalars_reject : (draft.reject param finding).scalars = draft.scalars :=
  scalars_drop _ param
@[simp] theorem key_reject : (draft.reject param finding).key = draft.key :=
  key_drop _ param
@[simp] theorem findings_reject : (draft.reject param finding).findings = draft.findings ++ [finding] :=
  findings_drop _ param

end Fields

end Draft

/-- A filter binding that fits the request: its family is that of its field, and its operators are some
of the family's, in the order of the family and without repetition. -/
structure FilterBinding.Sound (registry : Registry) (request : Message) (binding : FilterBinding) :
    Prop where
  typed : ∃ field, request.field? binding.field = some field ∧ field.filterType = some binding.filterType
  bound : binding.operators ≠ []
  ordered : ∃ family, registry.get? binding.filterType = some family ∧
    (binding.operators.map (·.operator)).Sublist family.operators
  distinct : (binding.operators.map (·.operator)).Nodup

/-- A binding stays sound when an operator of its family is added that it does not have. -/
theorem FilterBinding.sound_bind {registry : Registry} {request : Message} {binding : FilterBinding}
    {field : Field} {family : Family} {op : Operator} {param : String}
    (present : request.field? binding.field = some field)
    (typed : field.filterType = some binding.filterType)
    (registered : registry.get? binding.filterType = some family)
    (ordered : (binding.operators.map (·.operator)).Sublist family.operators)
    (supported : family.supports op = true) (fresh : binding.param? op = none) :
    (binding.bind family op param).Sound registry request := by
  have extended : ((binding.bind family op param).operators.map (·.operator)).Sublist family.operators :=
    sublist_bind ordered (Family.mem_operators supported) (param?_eq_none_iff.mp fresh)
  refine ⟨⟨field, present, typed⟩, ?_, ⟨family, registered, extended⟩,
    extended.nodup family.nodup_operators⟩
  intro empty
  have grown := (@perm_bind binding family op param).length_eq
  rw [empty, List.length_append] at grown
  simp at grown

/-- The field, operator and raw name of a query parameter with an operator. -/
def Parameter.filterUse? (param : Parameter) : Option (String × Operator × String) :=
  match param.location, param.operator with
  | .query, some op => some (param.field, op, param.rawName)
  | _, _ => none

/-- The field and raw name of a query parameter without operator. -/
def Parameter.plainUse? (param : Parameter) : Option (String × String) :=
  match param.location, param.operator with
  | .query, none => some (param.field, param.rawName)
  | _, _ => none

/-- The fields, operators and raw names that a filter binding holds. -/
def FilterBinding.uses (binding : FilterBinding) : List (String × Operator × String) :=
  binding.operators.map fun bound => (binding.field, bound.operator, bound.param)

theorem FilterBinding.perm_uses_bind {binding : FilterBinding} {family : Family} {op : Operator}
    {param : String} :
    (binding.bind family op param).uses.Perm (binding.uses ++ [(binding.field, op, param)]) := by
  have mapped := (@perm_bind binding family op param).map fun bound =>
    (binding.field, bound.operator, bound.param)
  rwa [List.map_append] at mapped

/-- The bindings of a draft account for its parameters. -/
structure Draft.Sound (registry : Registry) (request : Message) (draft : Draft) : Prop where
  sorted : Keyed.Sorted draft.filters
  named : ∀ entry ∈ draft.filters, entry.2.field = entry.1
  filters : ∀ entry ∈ draft.filters, entry.2.Sound registry request
  operators : (draft.filters.flatMap (·.2.uses)).Perm (draft.params.filterMap (·.filterUse?))
  scalars : draft.scalars.map (fun scalar => (scalar.field, scalar.param)) =
    draft.params.filterMap (·.plainUse?)
  plain : ∀ scalar ∈ draft.scalars, (request.field? scalar.field).isSome
  carried : ∀ param ∈ draft.params, param.location = .path ∨ param.location = .query
  key : (draft.params.filter (·.location = .path)).getLast? = draft.key.map (·.param)

namespace Draft

variable {registry : Registry} {request : Message} {draft : Draft} {param : Parameter}

/-- The binding that a filter parameter extends: that of its field, or an empty one. -/
private theorem extended_sound (sound : draft.Sound registry request) {field : Field} {filterType : String}
    {family : Family} {op : Operator}
    (target : filterTarget registry request param op = .ok (field, filterType, family)) :
    let old := (Keyed.get? draft.filters field.name).getD ⟨field.name, filterType, []⟩
    old.field = field.name ∧ old.filterType = filterType ∧
      (old.operators.map (·.operator)).Sublist family.operators := by
  intro old
  obtain ⟨present, typed, registered, -⟩ := filterTarget_eq_ok_iff.mp target
  cases found : Keyed.get? draft.filters field.name with
  | none =>
    have empty : old = ⟨field.name, filterType, []⟩ := by simp only [old, found, Option.getD_none]
    rw [empty]
    exact ⟨rfl, rfl, List.nil_sublist _⟩
  | some binding =>
    have same : old = binding := by simp only [old, found, Option.getD_some]
    have member := Keyed.mem_of_get? found
    have named : binding.field = field.name := sound.named _ member
    obtain ⟨⟨other, stored, otherTyped⟩, -, ⟨known, otherRegistered, ordered⟩, -⟩ :=
      sound.filters _ member
    rw [named, Message.name_of_field? present, present] at stored
    obtain rfl := Option.some.inj stored
    obtain rfl : filterType = binding.filterType := Option.some.inj (typed.symm.trans otherTyped)
    obtain rfl : family = known := Option.some.inj (registered.symm.trans otherRegistered)
    rw [same]
    exact ⟨named, rfl, ordered⟩

/-- The extended binding holds the uses of the old one, if there is any, and the new one. -/
private theorem extended_uses (sound : draft.Sound registry request) {field : Field} {filterType : String}
    {family : Family} {op : Operator}
    (target : filterTarget registry request param op = .ok (field, filterType, family)) :
    (((Keyed.get? draft.filters field.name).getD ⟨field.name, filterType, []⟩).bind family op
        param.rawName).uses.Perm
      (((Keyed.get? draft.filters field.name).elim [] fun old => old.uses) ++
        [(param.field, op, param.rawName)]) := by
  obtain ⟨oldField, -, -⟩ := extended_sound sound target
  have name := Message.name_of_field? (filterTarget_eq_ok_iff.mp target).1
  have uses := @FilterBinding.perm_uses_bind
    ((Keyed.get? draft.filters field.name).getD ⟨field.name, filterType, []⟩) family op param.rawName
  rw [oldField, name] at uses
  rw [name]
  cases found : Keyed.get? draft.filters param.field with
  | none => simpa [found, FilterBinding.uses] using uses
  | some old => simpa [found] using uses

/-- Soundness looks at the bindings and the parameters only. -/
theorem Sound.congr (sound : draft.Sound registry request) {next : Draft}
    (params : next.params = draft.params) (filters : next.filters = draft.filters)
    (scalars : next.scalars = draft.scalars) (key : next.key = draft.key) :
    next.Sound registry request where
  sorted := filters ▸ sound.sorted
  named := filters ▸ sound.named
  filters := filters ▸ sound.filters
  operators := by rw [filters, params]; exact sound.operators
  scalars := by rw [scalars, params]; exact sound.scalars
  plain := scalars ▸ sound.plain
  carried := params ▸ sound.carried
  key := by rw [params, key]; exact sound.key

private theorem sound_key (sound : draft.Sound registry request) {key : KeyBinding}
    (location : param.location = .path) (bound : key.param = param) :
    ({ draft with key := some key }.keep param).Sound registry request := by
  have noFilterUse : param.filterUse? = none := by simp [Parameter.filterUse?, location]
  have noPlainUse : param.plainUse? = none := by simp [Parameter.plainUse?, location]
  exact {
    sorted := sound.sorted
    named := sound.named
    filters := sound.filters
    operators := by simpa [noFilterUse] using sound.operators
    scalars := by simpa [noPlainUse] using sound.scalars
    plain := sound.plain
    carried := by simpa [or_imp, forall_and, location] using sound.carried
    key := by simp [location, bound] }

private theorem sound_filter (sound : draft.Sound registry request) {op : Operator}
    {filters : Keyed FilterBinding} (location : param.location = .query)
    (operator : param.operator = some op)
    (resolved : resolveFilter registry request param op draft.filters = .ok filters) :
    ({ draft with filters }.keep param).Sound registry request := by
  obtain ⟨field, filterType, family, target, fresh, rfl⟩ := resolveFilter_eq_ok_iff.mp resolved
  obtain ⟨present, typed, registered, supported⟩ := filterTarget_eq_ok_iff.mp target
  obtain ⟨oldField, oldType, ordered⟩ := extended_sound sound target
  have name := Message.name_of_field? present
  have use : param.filterUse? = some (param.field, op, param.rawName) := by
    simp [Parameter.filterUse?, location, operator]
  have noPlainUse : param.plainUse? = none := by simp [Parameter.plainUse?, operator]
  have extended : (((Keyed.get? draft.filters field.name).getD ⟨field.name, filterType, []⟩).bind family op
      param.rawName).Sound registry request :=
    FilterBinding.sound_bind (by rw [oldField, name, present]) (by rw [typed, oldType])
      (by rw [oldType, registered]) ordered supported fresh
  exact {
    sorted := Keyed.sorted_insert _ _ sound.sorted
    named := by
      intro entry member
      rcases Keyed.mem_insert member with rfl | old
      · exact oldField
      · exact sound.named entry old
    filters := by
      intro entry member
      rcases Keyed.mem_insert member with rfl | old
      · exact extended
      · exact sound.filters entry old
    operators := by
      rw [params_keep, List.filterMap_append, List.filterMap_cons_some use]
      exact (Keyed.flatMap_insert sound.sorted (·.2.uses) (extended_uses sound target)).trans
        (sound.operators.append_right _)
    scalars := by simpa [noPlainUse] using sound.scalars
    plain := sound.plain
    carried := by simpa [or_imp, forall_and, location] using sound.carried
    key := by simpa [location] using sound.key }

private theorem sound_scalar (sound : draft.Sound registry request) {scalar : ScalarBinding}
    (location : param.location = .query) (operator : param.operator = none)
    (resolved : resolveScalar request param = .ok scalar) :
    ({ draft with scalars := draft.scalars ++ [scalar] }.keep param).Sound registry request := by
  obtain ⟨field, raw, known⟩ := of_resolveScalar resolved
  have noFilterUse : param.filterUse? = none := by simp [Parameter.filterUse?, operator]
  have entry : param.plainUse? = some (param.field, param.rawName) := by
    simp [Parameter.plainUse?, location, operator]
  exact {
    sorted := sound.sorted
    named := sound.named
    filters := sound.filters
    operators := by simpa [noFilterUse] using sound.operators
    scalars := by simp [entry, field, raw, sound.scalars]
    plain := by simpa [or_imp, forall_and, known] using sound.plain
    carried := by simpa [or_imp, forall_and, location] using sound.carried
    key := by simpa [location] using sound.key }

/-- One step keeps the bindings sound. -/
theorem sound_step (sound : draft.Sound registry request) {next : Draft}
    (step : Step registry request draft param next) : next.Sound registry request := by
  cases step with
  | key key location resolved => exact sound_key sound location (param_of_resolveKey resolved)
  | filter op filters location operator resolved => exact sound_filter sound location operator resolved
  | scalar scalar location operator resolved => exact sound_scalar sound location operator resolved
  | reject finding location failed =>
    exact sound.congr (params_reject _ _ _) (filters_reject _ _ _) (scalars_reject _ _ _) (key_reject _ _ _)
  | ignore location =>
    exact sound.congr (params_drop _ _) (filters_drop _ _) (scalars_drop _ _) (key_drop _ _)

end Draft

end QuerySynth
