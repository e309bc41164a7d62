import Mathlib.Data.List.Pairwise
import Mathlib.Data.List.Perm.Basic
import QuerySynth.Proofs.Keyed
import QuerySynth.Schema.Basic

/-! # Merging schema models

A merged model has the services that the later model leaves and those of the later model, by name. Services
of one name keep their order, so services in order are known from those of each name: all laws of merging
are laws of these. Well-formed models have them with merging as the product and the empty model as the unit,
and merging a model with itself changes nothing.
-/

namespace QuerySynth

namespace Schema

/-- The names of the services do not decrease. -/
def InOrder (services : List Service) : Prop :=
  services.Pairwise fun a b => a.name ≤ b.name

instance (services : List Service) : Decidable (InOrder services) :=
  inferInstanceAs (Decidable (services.Pairwise fun a b => a.name ≤ b.name))

private theorem trans_precedes (a b c : Service) (below : decide (a.name ≤ b.name) = true)
    (above : decide (b.name ≤ c.name) = true) : decide (a.name ≤ c.name) = true :=
  decide_eq_true (String.le_trans (of_decide_eq_true below) (of_decide_eq_true above))

private theorem total_precedes (a b : Service) :
    (decide (a.name ≤ b.name) || decide (b.name ≤ a.name)) = true := by
  rw [Bool.or_eq_true, decide_eq_true_iff, decide_eq_true_iff]
  exact String.le_total _ _

theorem inOrder_sortServices (services : List Service) : InOrder (sortServices services) :=
  (List.pairwise_mergeSort trans_precedes total_precedes services).imp of_decide_eq_true

theorem sortServices_of_inOrder {services : List Service} (inOrder : InOrder services) :
    sortServices services = services :=
  List.mergeSort_of_pairwise (inOrder.imp decide_eq_true)

theorem perm_sortServices (services : List Service) : (sortServices services).Perm services :=
  List.mergeSort_perm _ _

/-- Services of one name keep their order. -/
theorem filter_name_sortServices (name : String) (services : List Service) :
    (sortServices services).filter (·.name = name) = services.filter (·.name = name) := by
  have alike : ∀ a ∈ services.filter (·.name = name), ∀ b ∈ services.filter (·.name = name),
      decide (a.name ≤ b.name) = true := by
    intro a inA b inB
    rw [of_decide_eq_true (List.mem_filter.mp inA).2, of_decide_eq_true (List.mem_filter.mp inB).2]
    exact decide_eq_true (String.le_refl name)
  have stable : (services.filter (·.name = name)).Sublist (sortServices services) :=
    List.sublist_mergeSort trans_precedes total_precedes (List.pairwise_of_forall_mem_list alike)
      List.filter_sublist
  have inside := stable.filter (·.name = name)
  rw [List.filter_filter, funext fun service => Bool.and_self _] at inside
  exact (inside.eq_of_length ((perm_sortServices services).filter _).length_eq.symm).symm

/-- Services in order are known from those of each name. -/
theorem eq_of_inOrder {first second : List Service} (inOrder : InOrder first) (inOrder' : InOrder second)
    (same : ∀ name, first.filter (·.name = name) = second.filter (·.name = name)) : first = second := by
  -- Either head has a service of its name in the other list, so neither name is before the other.
  have member {a : Service} {rest other : List Service}
      (same : (a :: rest).filter (·.name = a.name) = other.filter (·.name = a.name)) : a ∈ other := by
    have inside : a ∈ (a :: rest).filter (·.name = a.name) := by simp
    rw [same] at inside
    exact (List.mem_filter.mp inside).1
  have le_of_mem {a b : Service} {rest : List Service} (inOrder : InOrder (a :: rest)) (present : b ∈ a :: rest) :
      a.name ≤ b.name := by
    rcases List.mem_cons.mp present with rfl | later
    · exact String.le_refl _
    · exact (List.pairwise_cons.mp inOrder).1 b later
  induction first generalizing second with
  | nil =>
    cases second with
    | nil => rfl
    | cons b rest' => exact absurd (member (same b.name).symm) List.not_mem_nil
  | cons a rest ih =>
    cases second with
    | nil => exact absurd (member (same a.name)) List.not_mem_nil
    | cons b rest' =>
      have named : a.name = b.name := String.le_antisymm
        (le_of_mem inOrder (member (same b.name).symm)) (le_of_mem inOrder' (member (same a.name)))
      have heads : a = b := by
        have chosen := same a.name
        rw [List.filter_cons_of_pos (by simp), List.filter_cons_of_pos (by simp [named])] at chosen
        exact (List.cons.inj chosen).1
      subst heads
      congr 1
      refine ih (List.pairwise_cons.mp inOrder).2 (List.pairwise_cons.mp inOrder').2 fun name => ?_
      have chosen := same name
      rw [List.filter_cons, List.filter_cons] at chosen
      split at chosen
      · exact (List.cons.inj chosen).2
      · exact chosen

/-- The services that a later model leaves: those whose full names it does not have. -/
def unreplaced (services later : List Service) : List Service :=
  services.filter fun service => service.fullName ∉ later.map (·.fullName)

/-- Putting different services one after the other replaces those of the same full names. -/
theorem foldl_putService {later : List Service} (distinct : (later.map (·.fullName)).Nodup)
    (services : List Service) : later.foldl putService services = unreplaced services later ++ later := by
  induction later generalizing services with
  | nil => simp [unreplaced]
  | cons service rest ih =>
    obtain ⟨fresh, distinct⟩ := List.nodup_cons.mp distinct
    have stays : unreplaced [service] rest = [service] := by simpa [unreplaced] using fresh
    have left : unreplaced (services.filter (·.fullName != service.fullName)) rest =
        unreplaced services (service :: rest) := by
      rw [unreplaced, List.filter_filter, unreplaced]
      refine List.filter_congr fun other _ => ?_
      rw [Bool.eq_iff_iff]
      simp [and_comm]
    rw [List.foldl_cons, ih distinct, putService, unreplaced, List.filter_append]
    change unreplaced _ rest ++ unreplaced [service] rest ++ rest = _
    rw [left, stays, List.append_assoc]
    rfl

theorem unreplaced_self (services : List Service) : unreplaced services services = [] := by
  rw [unreplaced, List.filter_eq_nil_iff]
  intro service member
  simpa using ⟨service, member, rfl⟩

theorem filter_name_unreplaced (name : String) (services later : List Service) :
    (unreplaced services later).filter (·.name = name) = unreplaced (services.filter (·.name = name)) later := by
  rw [unreplaced, List.filter_filter, unreplaced, List.filter_filter]
  refine List.filter_congr fun service _ => Bool.and_comm _ _

/-- A model as the loader makes them: its services are in order and have different full names, and its tables
are sorted. -/
structure WellFormed (schema : Schema) : Prop where
  inOrder : InOrder schema.services
  distinct : (schema.services.map (·.fullName)).Nodup
  messages : schema.messages.Sorted
  wrappers : schema.wrappers.Sorted

theorem wellFormed_iff {schema : Schema} :
    schema.WellFormed ↔ InOrder schema.services ∧ (schema.services.map (·.fullName)).Nodup ∧
      schema.messages.Sorted ∧ schema.wrappers.Sorted :=
  ⟨fun ⟨inOrder, distinct, messages, wrappers⟩ => ⟨inOrder, distinct, messages, wrappers⟩,
    fun ⟨inOrder, distinct, messages, wrappers⟩ => ⟨inOrder, distinct, messages, wrappers⟩⟩

instance : DecidablePred WellFormed := fun _ => decidable_of_iff _ wellFormed_iff.symm

variable {first second third schema : Schema}

theorem wellFormed_empty : WellFormed empty :=
  ⟨List.Pairwise.nil, List.nodup_nil, Keyed.sorted_nil, Keyed.sorted_nil⟩

theorem services_merge (distinct : (second.services.map (·.fullName)).Nodup) :
    (first.merge second).services =
      sortServices (unreplaced first.services second.services ++ second.services) := by
  rw [merge, foldl_putService distinct]

theorem filter_name_merge (distinct : (second.services.map (·.fullName)).Nodup) (name : String) :
    (first.merge second).services.filter (·.name = name) =
      unreplaced (first.services.filter (·.name = name)) second.services ++
        second.services.filter (·.name = name) := by
  rw [services_merge distinct, filter_name_sortServices, List.filter_append, filter_name_unreplaced]

theorem mem_fullNames_merge (distinct : (second.services.map (·.fullName)).Nodup) {name : String} :
    name ∈ (first.merge second).services.map (·.fullName) ↔
      name ∈ first.services.map (·.fullName) ∨ name ∈ second.services.map (·.fullName) := by
  rw [services_merge distinct, ((perm_sortServices _).map _).mem_iff, List.map_append, List.mem_append]
  refine ⟨Or.imp_left fun member => ?_, fun member => ?_⟩
  · obtain ⟨service, kept, rfl⟩ := List.mem_map.mp member
    exact List.mem_map_of_mem (List.mem_of_mem_filter kept)
  · by_cases replaced : name ∈ second.services.map (·.fullName)
    · exact .inr replaced
    · obtain ⟨service, present, rfl⟩ := List.mem_map.mp (member.resolve_right replaced)
      exact .inl (List.mem_map_of_mem (List.mem_filter.mpr ⟨present, decide_eq_true replaced⟩))

theorem WellFormed.merge (wellFormed : first.WellFormed) (wellFormed' : second.WellFormed) :
    (first.merge second).WellFormed := by
  refine ⟨inOrder_sortServices _, ?_, Keyed.sorted_insertAll _ wellFormed.messages,
    Keyed.sorted_insertAll _ wellFormed.wrappers⟩
  rw [services_merge wellFormed'.distinct, ((perm_sortServices _).map _).nodup_iff, List.map_append,
    List.nodup_append]
  refine ⟨wellFormed.distinct.sublist (List.filter_sublist.map _), wellFormed'.distinct, ?_⟩
  rintro name left _ present rfl
  obtain ⟨service, kept, rfl⟩ := List.mem_map.mp left
  exact of_decide_eq_true (List.mem_filter.mp kept).2 present

private theorem eq_of_parts (services : first.services = second.services)
    (messages : first.messages = second.messages) (wrappers : first.wrappers = second.wrappers) :
    first = second := by
  cases first
  cases second
  cases services
  cases messages
  cases wrappers
  rfl

theorem merge_assoc (wellFormed : first.WellFormed) (wellFormed' : second.WellFormed)
    (wellFormed'' : third.WellFormed) : (first.merge second).merge third = first.merge (second.merge third) := by
  have services : ((first.merge second).merge third).services = (first.merge (second.merge third)).services := by
    refine eq_of_inOrder (inOrder_sortServices _) (inOrder_sortServices _) fun name => ?_
    have left (services : List Service) :
        unreplaced (unreplaced services second.services) third.services =
          unreplaced services (second.merge third).services := by
      rw [unreplaced, unreplaced, List.filter_filter, unreplaced]
      refine List.filter_congr fun service _ => ?_
      simp only [mem_fullNames_merge wellFormed''.distinct, not_or, Bool.decide_and, Bool.and_comm]
    rw [filter_name_merge wellFormed''.distinct, filter_name_merge (wellFormed'.merge wellFormed'').distinct,
      filter_name_merge wellFormed'.distinct, filter_name_merge wellFormed''.distinct, ← left]
    simp only [unreplaced, List.filter_append, List.append_assoc]
  have messages : ((first.merge second).merge third).messages = (first.merge (second.merge third)).messages :=
    Keyed.insertAll_assoc wellFormed.messages wellFormed'.messages wellFormed''.messages
  have wrappers : ((first.merge second).merge third).wrappers = (first.merge (second.merge third)).wrappers :=
    Keyed.insertAll_assoc wellFormed.wrappers wellFormed'.wrappers wellFormed''.wrappers
  exact eq_of_parts services messages wrappers

theorem empty_merge (wellFormed : schema.WellFormed) : empty.merge schema = schema := by
  refine eq_of_parts ?_ (Keyed.ofList_of_sorted wellFormed.messages) (Keyed.ofList_of_sorted wellFormed.wrappers)
  rw [services_merge wellFormed.distinct]
  exact sortServices_of_inOrder wellFormed.inOrder

theorem merge_empty (wellFormed : schema.WellFormed) : schema.merge empty = schema :=
  eq_of_parts (sortServices_of_inOrder wellFormed.inOrder) rfl rfl

theorem merge_self (wellFormed : schema.WellFormed) : schema.merge schema = schema := by
  refine eq_of_parts ?_ (Keyed.insertAll_self wellFormed.messages) (Keyed.insertAll_self wellFormed.wrappers)
  rw [services_merge wellFormed.distinct, unreplaced_self]
  exact sortServices_of_inOrder wellFormed.inOrder

/-- All models together, each later than those before it. -/
def mergeAll (schemas : List Schema) : Schema :=
  schemas.foldl merge empty

theorem wellFormed_mergeAll {schemas : List Schema} (each : ∀ schema ∈ schemas, schema.WellFormed) :
    (mergeAll schemas).WellFormed := by
  suffices run : ∀ start : Schema, start.WellFormed → (schemas.foldl merge start).WellFormed from
    run empty wellFormed_empty
  induction schemas with
  | nil => exact fun _ wellFormed => wellFormed
  | cons schema rest ih =>
    obtain ⟨first, later⟩ := List.forall_mem_cons.mp each
    exact fun start wellFormed => ih later _ (wellFormed.merge first)

/-- Models that come later can be merged among themselves first. -/
theorem foldl_merge (wellFormed : schema.WellFormed) {schemas : List Schema}
    (each : ∀ later ∈ schemas, later.WellFormed) : schemas.foldl merge schema = schema.merge (mergeAll schemas) := by
  induction schemas generalizing schema with
  | nil => exact (merge_empty wellFormed).symm
  | cons next rest ih =>
    obtain ⟨first, later⟩ := List.forall_mem_cons.mp each
    have start : mergeAll (next :: rest) = next.merge (mergeAll rest) := by
      rw [mergeAll, List.foldl_cons, empty_merge first, ih first later]
    rw [List.foldl_cons, ih (wellFormed.merge first) later, start,
      merge_assoc wellFormed first (wellFormed_mergeAll later)]

/-- Groups of models can be merged one by one. -/
theorem mergeAll_flatten {groups : List (List Schema)}
    (each : ∀ group ∈ groups, ∀ schema ∈ group, schema.WellFormed) :
    mergeAll groups.flatten = mergeAll (groups.map mergeAll) := by
  induction groups with
  | nil => rfl
  | cons group rest ih =>
    obtain ⟨first, later⟩ := List.forall_mem_cons.mp each
    have others : ∀ schema ∈ rest.map mergeAll, schema.WellFormed := by
      rw [List.forall_mem_map]
      exact fun group member => wellFormed_mergeAll (later group member)
    have flat : ∀ schema ∈ rest.flatten, schema.WellFormed := by
      intro schema member
      obtain ⟨group, inRest, inGroup⟩ := List.mem_flatten.mp member
      exact later group inRest schema inGroup
    have whole := wellFormed_mergeAll first
    calc mergeAll (group :: rest).flatten
      _ = rest.flatten.foldl merge (mergeAll group) := by
        rw [mergeAll, List.flatten_cons, List.foldl_append, mergeAll]
      _ = (mergeAll group).merge (mergeAll (rest.map mergeAll)) := by rw [foldl_merge whole flat, ih later]
      _ = (rest.map mergeAll).foldl merge (empty.merge (mergeAll group)) := by
        rw [empty_merge whole, foldl_merge whole others]
      _ = mergeAll ((group :: rest).map mergeAll) := rfl

end Schema

end QuerySynth
