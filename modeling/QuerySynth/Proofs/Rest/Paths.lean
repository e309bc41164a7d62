import QuerySynth.Rest.Collect
import QuerySynth.Rest.Description
import QuerySynth.Proofs.Parameter.Flatten

/-! # Path items under transformations

Operations and parameter entries are read off the path items of a document. Removing unknown members
from path items keeps both, and a normal form keeps the operations and rewrites the entries one by one.
-/

namespace QuerySynth.Rest

theorem get?_get?_paths (document : Document) (path : String) :
    (document.get? "paths").bind (·.get? path) = (pathItems document).get? path := by
  rw [pathItems]
  cases document.get? "paths" with
  | none => rfl
  | some paths => cases paths <;> rfl

theorem parameterEntries_eq (document : Document) (path method : String) :
    parameterEntries document path method =
      entriesOf ((pathItems document).get? path) ++
        entriesOf (((pathItems document).get? path).bind (·.get? method)) := by
  rw [parameterEntries, get?_get?_paths]

/-- Path items that have the same operations have them in the same order. -/
theorem operationsOf_map {change : String → Document → Document}
    (same : ∀ path item, itemOperations path (change path item) = itemOperations path item)
    (items : Keyed Document) :
    operationsOf (items.map fun (path, item) => (path, change path item)) = operationsOf items := by
  simp only [operationsOf, List.flatMap_map, same]

theorem pathItems_strip (document : Document) :
    pathItems (strip document) = (pathItems document).map fun (path, item) => (path, stripItem item) := by
  rw [pathItems, strip, Document.get?_mapMember, if_pos rfl, pathItems]
  cases document.get? "paths" with
  | none => rfl
  | some paths => cases paths <;> rfl

theorem get?_stripItem (key : String) (known : isItemKey key = true) (item : Document) :
    (stripItem item).get? key = item.get? key := by
  cases item with
  | obj members =>
    have found := Keyed.get?_filter isItemKey members key
    rwa [if_pos known] at found
  | _ => rfl

theorem isItemKey_of_mem {method : String} (member : method ∈ iteratedMethods) :
    isItemKey method = true := by
  revert method
  decide

theorem itemOperations_stripItem (path : String) (item : Document) :
    itemOperations path (stripItem item) = itemOperations path item := by
  apply List.filterMap_congr
  intro method member
  rw [get?_stripItem _ (isItemKey_of_mem member)]

theorem operationsOf_strip (document : Document) :
    operationsOf (pathItems (strip document)) = operationsOf (pathItems document) := by
  rw [pathItems_strip]
  exact operationsOf_map itemOperations_stripItem _

/-- Removing unknown members keeps the parameter entries of every operation. -/
theorem parameterEntries_strip (document : Document) (path : String) {method : String}
    (member : method ∈ iteratedMethods) :
    parameterEntries (strip document) path method = parameterEntries document path method := by
  have found : (pathItems (strip document)).get? path =
      ((pathItems document).get? path).map stripItem := by
    rw [pathItems_strip]
    exact Keyed.get?_map (fun _ => stripItem) _ path
  rw [parameterEntries_eq, parameterEntries_eq, found]
  cases (pathItems document).get? path with
  | none => rfl
  | some item =>
    simp only [Option.map_some, Option.bind_some, entriesOf, get?_stripItem _ (isItemKey_of_mem member),
      get?_stripItem "parameters" (by decide)]

theorem mem_iteratedMethods {items : Keyed Document} {operation : Operation}
    (member : operation ∈ operationsOf items) : operation.method ∈ iteratedMethods := by
  obtain ⟨⟨path, item⟩, -, inItem⟩ := List.mem_flatMap.mp member
  obtain ⟨method, iterated, made⟩ := List.mem_filterMap.mp inItem
  obtain ⟨value, -, made⟩ := Option.bind_eq_some_iff.mp made
  rw [operation?] at made
  split at made
  · simp at made
  · obtain rfl := Option.some.inj made
    exact iterated

end QuerySynth.Rest
