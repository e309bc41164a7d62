import QuerySynth.Proofs.Rest.Paths

/-! # The operations of a description

An operation is determined by its path and method, and so by the place that reports give it. It comes
once, except under `trace`, which is iterated twice.
-/

namespace QuerySynth.Rest

theorem upper_injective {first second : String} (member : first ∈ iteratedMethods)
    (member' : second ∈ iteratedMethods)
    (same : first.toList.map Char.toUpper = second.toList.map Char.toUpper) : first = second := by
  have table : ∀ first ∈ iteratedMethods, ∀ second ∈ iteratedMethods,
      first.toList.map Char.toUpper = second.toList.map Char.toUpper → first = second := by decide
  exact table first member second member' same

theorem blank_notMem_verb {method : String} (member : method ∈ iteratedMethods) :
    ' ' ∉ method.toList.map Char.toUpper := by
  revert method
  decide

/-- The place of a report names one method and one path. -/
theorem eq_of_location_eq {a b : Operation} (iterated : a.method ∈ iteratedMethods)
    (iterated' : b.method ∈ iteratedMethods) (same : a.location = b.location) :
    a.method = b.method ∧ a.path = b.path := by
  have texts := congrArg String.toList same
  simp only [Operation.location, Operation.verb, String.toList_append, String.toList_ofList] at texts
  have blank : " ".toList = [' '] := rfl
  rw [blank, List.append_assoc, List.append_assoc, List.singleton_append, List.singleton_append] at texts
  have word {verb rest : List Char} (plain : ' ' ∉ verb) :
      (verb ++ ' ' :: rest).takeWhile (· != ' ') = verb := by
    rw [List.takeWhile_append_of_pos]
    · simp
    · intro c member
      simpa using ne_of_mem_of_not_mem member plain
  have verbs := congrArg (List.takeWhile (· != ' ')) texts
  rw [word (blank_notMem_verb iterated), word (blank_notMem_verb iterated')] at verbs
  rw [verbs] at texts
  have paths := (List.cons.inj (List.append_cancel_left texts)).2
  exact ⟨upper_injective iterated iterated' verbs, String.toList_inj.mp paths⟩

def iterations (method : String) : Nat :=
  if method = "trace" then 2 else 1

theorem filter_iteratedMethods {method : String} (member : method ∈ iteratedMethods) :
    iteratedMethods.filter (· = method) = List.replicate (iterations method) method := by
  revert method
  decide

theorem operation?_eq_some {path method : String} {value : Document} {operation : Operation}
    (made : operation? path method value = some operation) :
    operation.path = path ∧ operation.method = method := by
  rw [operation?] at made
  split at made
  · simp at made
  · obtain rfl := Option.some.inj made
    exact ⟨rfl, rfl⟩

theorem filter_itemOperations {path : String} {item : Document} {operation : Operation}
    (member : operation ∈ itemOperations path item) :
    (itemOperations path item).filter (fun other => other.path = operation.path ∧
        other.method = operation.method) =
      List.replicate (iterations operation.method) operation := by
  obtain ⟨method, iterated, made⟩ := List.mem_filterMap.mp member
  obtain ⟨value, present, built⟩ := Option.bind_eq_some_iff.mp made
  obtain ⟨rfl, rfl⟩ := operation?_eq_some built
  have chosen : (itemOperations operation.path item).filter (fun other => other.path = operation.path ∧
        other.method = operation.method) =
      (iteratedMethods.filter (· = operation.method)).filterMap fun method =>
        (item.get? method).bind (operation? operation.path method) := by
    rw [itemOperations, List.filter_filterMap, List.filterMap_filter]
    apply List.filterMap_congr
    intro method _
    cases found : (item.get? method).bind (operation? operation.path method) with
    | none => simp
    | some other =>
      obtain ⟨value, -, built⟩ := Option.bind_eq_some_iff.mp found
      obtain ⟨path, name⟩ := operation?_eq_some built
      simp only [Option.filter_some, path, name, true_and, decide_eq_true_eq]
  rw [chosen, filter_iteratedMethods iterated]
  exact List.filterMap_replicate_of_some made

/-- Among items of different paths only one contributes the operations of a path. -/
private theorem filter_operationsOf {items : Keyed Document} (distinct : (Keyed.keys items).Nodup)
    {path : String} {item : Document} (member : (path, item) ∈ items) (keep : Operation → Bool)
    (ofPath : ∀ operation, keep operation = true → operation.path = path) :
    (operationsOf items).filter keep = (itemOperations path item).filter keep := by
  have elsewhere {other : String} (different : other ≠ path) (item : Document) :
      (itemOperations other item).filter keep = [] := by
    rw [List.filter_eq_nil_iff]
    intro operation made kept
    obtain ⟨method, -, made⟩ := List.mem_filterMap.mp made
    obtain ⟨value, -, built⟩ := Option.bind_eq_some_iff.mp made
    exact different ((operation?_eq_some built).1.symm.trans (ofPath operation kept))
  induction items with
  | nil => simp at member
  | cons head rest ih =>
    obtain ⟨other, otherItem⟩ := head
    obtain ⟨fresh, distinct⟩ := List.nodup_cons.mp distinct
    rw [operationsOf, List.flatMap_cons, List.filter_append]
    rcases List.mem_cons.mp member with same | later
    · obtain ⟨rfl, rfl⟩ := Prod.mk.inj same
      have nothing : (operationsOf rest).filter keep = [] := by
        rw [operationsOf, List.filter_flatMap, List.flatMap_eq_nil_iff]
        rintro ⟨other, otherItem⟩ present
        refine elsewhere ?_ otherItem
        rintro rfl
        exact fresh (List.mem_map.mpr ⟨_, present, rfl⟩)
      exact (congrArg _ nothing).trans (List.append_nil _)
    · have different : other ≠ path := by
        rintro rfl
        exact fresh (List.mem_map.mpr ⟨_, later, rfl⟩)
      rw [elsewhere different, List.nil_append]
      exact ih distinct later

/-- An operation comes as often as its method is iterated. -/
theorem filter_operations {description : Description} {operation : Operation}
    (member : operation ∈ description.operations) :
    description.operations.filter (fun other => other.path = operation.path ∧
        other.method = operation.method) =
      List.replicate (iterations operation.method) operation := by
  obtain ⟨⟨path, item⟩, present, inside⟩ := List.mem_flatMap.mp member
  have path_eq : operation.path = path := by
    obtain ⟨method, -, made⟩ := List.mem_filterMap.mp inside
    obtain ⟨value, -, built⟩ := Option.bind_eq_some_iff.mp made
    exact (operation?_eq_some built).1
  have distinct : (Keyed.keys (pathItems description.document)).Nodup := by
    refine (Keyed.pairwise_keys description.sorted).imp ?_
    rintro a _ less rfl
    exact String.lt_irrefl a less
  rw [Description.operations, filter_operationsOf distinct present, filter_itemOperations inside]
  intro other chosen
  rw [← path_eq]
  exact (of_decide_eq_true chosen).1

/-- Only the operation itself is reported at its place. -/
theorem filter_location_operations {description : Description} {operation : Operation}
    (member : operation ∈ description.operations) :
    description.operations.filter (·.location = operation.location) =
      List.replicate (iterations operation.method) operation := by
  rw [← filter_operations member]
  apply List.filter_congr
  intro other present
  rw [decide_eq_decide]
  constructor
  · intro same
    obtain ⟨method, path⟩ := eq_of_location_eq (mem_iteratedMethods present) (mem_iteratedMethods member) same
    exact ⟨path, method⟩
  · rintro ⟨path, method⟩
    rw [Operation.location, Operation.location, Operation.verb, Operation.verb, path, method]

end QuerySynth.Rest
