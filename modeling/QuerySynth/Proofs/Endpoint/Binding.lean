import Mathlib.Data.List.Sort
import QuerySynth.Endpoint.Binding
import QuerySynth.Proofs.Keyed

/-! # Bindings of parameters

What it takes to bind a parameter, and what a binding of a filter looks like afterwards: its operators
are some of the operators of its family, in the order of the family and without repetition.
-/

namespace QuerySynth

theorem Family.nodup_operators (family : Family) : family.operators.Nodup := by
  obtain ⟨kind, nullable, map⟩ := family
  cases kind <;> cases nullable <;> cases map <;> decide

theorem Family.mem_operators {family : Family} {op : Operator} (supported : family.supports op = true) :
    op ∈ family.operators :=
  List.contains_iff_mem.mp supported

section Order

variable {α : Type} [DecidableEq α]

theorem pairwise_idxOf {all : List α} (nodup : all.Nodup) :
    all.Pairwise fun a b => all.idxOf a < all.idxOf b := by
  rw [List.pairwise_iff_getElem]
  intro i j hi hj less
  rwa [nodup.idxOf_getElem, nodup.idxOf_getElem]

/-- Elements that stand in the order of a list are a part of the list. -/
theorem sublist_of_pairwise_idxOf {all chosen : List α} (nodup : all.Nodup) (subset : chosen ⊆ all)
    (increasing : chosen.Pairwise fun a b => all.idxOf a < all.idxOf b) : chosen.Sublist all := by
  have antisymm : Std.Antisymm fun a b => all.idxOf a < all.idxOf b :=
    ⟨fun a b below above => absurd above (Nat.lt_asymm below)⟩
  have distinct : chosen.Nodup := by
    refine increasing.imp ?_
    rintro a _ less rfl
    exact Nat.lt_irrefl _ less
  exact List.sublist_of_subperm_of_pairwise (List.subperm_of_subset distinct subset) increasing
    (pairwise_idxOf nodup)

end Order

namespace FilterBinding

variable {binding : FilterBinding} {family : Family} {op : Operator} {param : String}

theorem perm_bind :
    (binding.bind family op param).operators.Perm (binding.operators ++ [⟨op, param⟩]) :=
  List.mergeSort_perm _ _

theorem param?_eq_none_iff : binding.param? op = none ↔ op ∉ binding.operators.map (·.operator) := by
  simp only [param?, Option.map_eq_none_iff, List.find?_eq_none, beq_iff_eq, List.mem_map, not_exists,
    not_and]

private theorem pairwise_bind :
    ((binding.bind family op param).operators.map (·.operator)).Pairwise fun a b =>
      family.operators.idxOf a ≤ family.operators.idxOf b := by
  rw [List.pairwise_map]
  refine (List.pairwise_mergeSort ?_ ?_ _).imp ?_
  · intro a b c
    simp only [decide_eq_true_eq]
    exact Nat.le_trans
  · intro a b
    simp only [Bool.or_eq_true, decide_eq_true_eq]
    exact Nat.le_total _ _
  · intro a b below
    exact of_decide_eq_true below

/-- One more operator keeps the operators a part of their family. -/
theorem sublist_bind (ordered : (binding.operators.map (·.operator)).Sublist family.operators)
    (supported : op ∈ family.operators) (fresh : op ∉ binding.operators.map (·.operator)) :
    ((binding.bind family op param).operators.map (·.operator)).Sublist family.operators := by
  have perm : ((binding.bind family op param).operators.map (·.operator)).Perm
      (binding.operators.map (·.operator) ++ [op]) := by
    simpa using (@perm_bind binding family op param).map (·.operator)
  have subset : (binding.bind family op param).operators.map (·.operator) ⊆ family.operators := by
    intro other member
    rcases List.mem_append.mp (perm.mem_iff.mp member) with old | new
    · exact ordered.subset old
    · rwa [List.mem_singleton.mp new]
  have distinct : ((binding.bind family op param).operators.map (·.operator)).Nodup := by
    rw [perm.nodup_iff, List.nodup_append]
    refine ⟨ordered.nodup family.nodup_operators, List.nodup_singleton _, ?_⟩
    rintro a member _ new rfl
    exact fresh (List.mem_singleton.mp new ▸ member)
  refine sublist_of_pairwise_idxOf family.nodup_operators subset ?_
  refine (List.Pairwise.and pairwise_bind distinct).imp_of_mem ?_
  intro a b hasA hasB ⟨below, different⟩
  exact Nat.lt_of_le_of_ne below fun same => different ((List.idxOf_inj (subset hasA)).mp same)

end FilterBinding

theorem Message.name_of_field? {request : Message} {name : String} {field : Field}
    (found : request.field? name = some field) : field.name = name := by
  simpa using List.find?_some found

/-- The family of a filter parameter is that of its field, and supports its operator. -/
theorem filterTarget_eq_ok_iff {registry : Registry} {request : Message} {param : Parameter}
    {op : Operator} {field : Field} {filterType : String} {family : Family} :
    filterTarget registry request param op = .ok (field, filterType, family) ↔
      request.field? param.field = some field ∧ field.filterType = some filterType ∧
        registry.get? filterType = some family ∧ family.supports op = true := by
  rw [filterTarget]
  constructor
  · intro target
    split at target
    · simp at target
    · rename_i found present
      split at target
      · split at target
        · split at target <;> simp at target
        · simp at target
      · rename_i filter typed
        split at target
        · simp at target
        · rename_i known registered
          split at target
          · rename_i supported
            simp only [Except.ok.injEq, Prod.mk.injEq] at target
            obtain ⟨rfl, rfl, rfl⟩ := target
            exact ⟨present, typed, registered, supported⟩
          · simp at target
  · rintro ⟨present, typed, registered, supported⟩
    simp [present, typed, registered, supported]

/-- A filter parameter is bound to the binding of its field, which does not have its operator yet. -/
theorem resolveFilter_eq_ok_iff {registry : Registry} {request : Message} {param : Parameter}
    {op : Operator} {filters next : Keyed FilterBinding} :
    resolveFilter registry request param op filters = .ok next ↔
      ∃ field filterType family,
        filterTarget registry request param op = .ok (field, filterType, family) ∧
        ((filters.get? field.name).getD ⟨field.name, filterType, []⟩).param? op = none ∧
        next = filters.insert field.name
          (((filters.get? field.name).getD ⟨field.name, filterType, []⟩).bind family op param.rawName) := by
  rw [resolveFilter]
  cases target : filterTarget registry request param op with
  | error finding => simp
  | ok result =>
    obtain ⟨field, filterType, family⟩ := result
    cases bound : ((filters.get? field.name).getD ⟨field.name, filterType, []⟩).param? op with
    | some param => simp [bound]
    | none =>
      simp only [bound, Option.isSome_none, Bool.false_eq_true, if_false, Except.ok.injEq]
      constructor
      · rintro rfl
        exact ⟨field, filterType, family, rfl, bound, rfl⟩
      · rintro ⟨_, _, _, same, -, rfl⟩
        obtain ⟨rfl, rfl, rfl⟩ := by simpa using same
        rfl

/-- A filter parameter is refused for its field, or because its field has the operator already. -/
theorem resolveFilter_eq_error_iff {registry : Registry} {request : Message} {param : Parameter}
    {op : Operator} {filters : Keyed FilterBinding} {finding : Finding} :
    resolveFilter registry request param op filters = .error finding ↔
      filterTarget registry request param op = .error finding ∨
        ∃ field filterType family,
          filterTarget registry request param op = .ok (field, filterType, family) ∧
          ((filters.get? field.name).bind (·.param? op)).isSome ∧ finding = .boundTwice op field.name := by
  rw [resolveFilter]
  cases target : filterTarget registry request param op with
  | error other => simp
  | ok result =>
    obtain ⟨field, filterType, family⟩ := result
    have same : (((filters.get? field.name).getD ⟨field.name, filterType, []⟩).param? op).isSome =
        ((filters.get? field.name).bind (·.param? op)).isSome := by
      cases filters.get? field.name <;> rfl
    simp only [same, reduceCtorEq, false_or]
    split
    · rename_i bound
      constructor
      · intro refused
        exact ⟨field, filterType, family, rfl, bound, (Except.error.inj refused).symm⟩
      · rintro ⟨_, _, _, taken, -, rfl⟩
        obtain ⟨rfl, -, -⟩ := by simpa using taken
        rfl
    · rename_i free
      simp only [reduceCtorEq, false_iff]
      rintro ⟨_, _, _, taken, bound, -⟩
      obtain ⟨rfl, -, -⟩ := by simpa using taken
      exact free bound

/-- A parameter is a key when its field is a filter that can be asked for equality, or a plain scalar. -/
theorem resolveKey_eq_ok {registry : Registry} {request : Message} {param : Parameter} {key : KeyBinding}
    (resolved : resolveKey registry request param = .ok key) :
    ∃ field, request.field? param.field = some field ∧
      ((∃ filterType, field.filterType = some filterType ∧
          (registry.get? filterType).any (·.supports .eq) = true ∧
          key = ⟨param, field.name, .filter filterType⟩) ∨
        ∃ kind, field.filterType = none ∧ field.scalar? = some kind ∧ field.repeated = false ∧
          key = ⟨param, field.name, .scalar kind⟩) := by
  rw [resolveKey] at resolved
  split at resolved
  · simp at resolved
  · rename_i field present
    refine ⟨field, present, ?_⟩
    split at resolved
    · rename_i filterType typed
      split at resolved
      · rename_i supported
        exact .inl ⟨filterType, typed, supported, (Except.ok.inj resolved).symm⟩
      · simp at resolved
    · rename_i kind untyped scalar
      split at resolved
      · simp at resolved
      · rename_i single
        exact .inr ⟨kind, untyped, scalar, by simpa using single, (Except.ok.inj resolved).symm⟩
    · simp at resolved

theorem param_of_resolveKey {registry : Registry} {request : Message} {param : Parameter}
    {key : KeyBinding} (resolved : resolveKey registry request param = .ok key) : key.param = param := by
  obtain ⟨field, -, ⟨filterType, -, -, rfl⟩ | ⟨kind, -, -, -, rfl⟩⟩ := resolveKey_eq_ok resolved
  · rfl
  · rfl

/-- The family of a key that is a filter can be asked for equality. -/
theorem exists_family_of_resolveKey {registry : Registry} {request : Message} {param : Parameter}
    {key : KeyBinding} (resolved : resolveKey registry request param = .ok key) {filterType : String}
    (held : key.value = .filter filterType) :
    ∃ family, registry.get? filterType = some family ∧ family.supports .eq = true := by
  obtain ⟨field, -, ⟨known, -, supported, rfl⟩ | ⟨kind, -, -, -, rfl⟩⟩ := resolveKey_eq_ok resolved
  · obtain rfl := KeyValue.filter.inj held
    exact (Option.any_eq_true _ _).mp supported
  · cases held

/-- A plain parameter is bound to the request field of its name. -/
theorem of_resolveScalar {request : Message} {param : Parameter} {scalar : ScalarBinding}
    (resolved : resolveScalar request param = .ok scalar) :
    scalar.field = param.field ∧ scalar.param = param.rawName ∧
      (request.field? scalar.field).isSome := by
  rw [resolveScalar] at resolved
  split at resolved
  · simp at resolved
  · rename_i field found
    have name := Message.name_of_field? found
    split at resolved
    · rw [← Except.ok.inj resolved]
      exact ⟨name, rfl, by rw [name, found]; rfl⟩
    · rw [← Except.ok.inj resolved]
      exact ⟨name, rfl, by rw [name, found]; rfl⟩
    · simp at resolved

end QuerySynth
