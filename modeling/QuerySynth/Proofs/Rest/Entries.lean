import QuerySynth.Proofs.Rest.Components
import QuerySynth.Proofs.Rest.Normalize

/-! # The parameter entries of a document

A normal form rewrites the entries of the parameter lists of a document and its component parameters,
each in a context of its own. The report adds up what is counted for these entries, and an ordered
document stays as it is exactly when each of them does.
-/

namespace QuerySynth.Rest

namespace Tally

theorem add_def (first second : Tally) :
    first + second = ⟨first.renamed + second.renamed, first.coerced + second.coerced⟩ := rfl

theorem zero_add (tally : Tally) : {} + tally = tally := by
  simp [add_def]

theorem add_zero (tally : Tally) : tally + {} = tally := rfl

theorem add_assoc (first second third : Tally) : first + second + third = first + (second + third) := by
  simp [add_def, Nat.add_assoc]

theorem add_eq_zero_iff {first second : Tally} : first + second = {} ↔ first = {} ∧ second = {} := by
  cases first
  cases second
  simp only [add_def, Tally.mk.injEq, Nat.add_eq_zero_iff, and_and_and_comm]

theorem sum_cons (head : Tally) (rest : List Tally) : Tally.sum (head :: rest) = head + Tally.sum rest := by
  have run (start : Tally) : rest.foldl (· + ·) start = start + Tally.sum rest := by
    rw [Tally.sum]
    induction rest generalizing start with
    | nil => exact (add_zero start).symm
    | cons next rest ih => rw [List.foldl_cons, List.foldl_cons, ih, ih ({} + next), zero_add, add_assoc]
  rw [Tally.sum, List.foldl_cons, zero_add, run]

theorem sum_append (first second : List Tally) :
    Tally.sum (first ++ second) = Tally.sum first + Tally.sum second := by
  induction first with
  | nil => exact (zero_add _).symm
  | cons head rest ih => rw [List.cons_append, sum_cons, sum_cons, ih, add_assoc]

/-- The sum of the sums of lists is the sum of all their members. -/
theorem sum_map_sum {α : Type} (f : α → List Tally) (items : List α) :
    Tally.sum (items.map fun item => Tally.sum (f item)) = Tally.sum (items.flatMap f) := by
  induction items with
  | nil => rfl
  | cons head rest ih => rw [List.map_cons, sum_cons, ih, List.flatMap_cons, sum_append]

/-- Nothing is counted in all exactly when nothing is counted in any part. -/
theorem sum_eq_zero_iff {tallies : List Tally} : Tally.sum tallies = {} ↔ ∀ tally ∈ tallies, tally = {} := by
  induction tallies with
  | nil => exact ⟨fun _ _ member => absurd member List.not_mem_nil, fun _ => rfl⟩
  | cons head rest ih => rw [sum_cons, add_eq_zero_iff, ih, List.forall_mem_cons]

end Tally

def listEntries (list : Option Document) : List Document :=
  (list.bind Document.items?).getD []

theorem entriesOf_some (holder : Document) :
    entriesOf (some holder) = listEntries (holder.get? "parameters") := rfl

/-- A parameter entry and the context in which it is flattened. -/
abbrev Entry := FlattenContext × Document

def Entry.tally (entry : Entry) : Tally :=
  parameterTally entry.1 entry.2

/-- An entry that a normal form leaves as it is. -/
def Entry.Kept (entry : Entry) : Prop :=
  normalizeParameter entry.1 entry.2 = entry.2

namespace NormalizeScope

variable (scope : NormalizeScope)

/-- The entries under one member of a path item. -/
def memberEntries (path : String) (item : Document) (key : String) (value : Document) : List Entry :=
  if operationKeys.contains key then
    (listEntries (value.get? "parameters")).map (scope.operationContext path item value, ·)
  else if key = "parameters" then (listEntries (some value)).map (scope.plainContext, ·)
  else []

def itemEntries (path : String) (item : Document) : List Entry :=
  (item.members?.getD []).flatMap fun (key, value) => scope.memberEntries path item key value

/-- The parameter entries of a document, those of its path items first. -/
def entries (document : Document) : List Entry :=
  ((pathItems document).flatMap fun (path, item) => scope.itemEntries path item) ++
    (componentParameters document).map fun (_, entry) => (scope.plainContext, entry)

theorem listTally_eq (ctx : FlattenContext) (list : Option Document) :
    listTally ctx list = Tally.sum (((listEntries list).map (ctx, ·)).map Entry.tally) := by
  rcases list with _ | list
  · rfl
  · cases list with
    | arr items =>
      rw [listTally, List.map_map]
      rfl
    | _ => rfl

theorem memberTally_eq (path : String) (item : Document) (key : String) (value : Document) :
    scope.memberTally path item key value =
      Tally.sum ((scope.memberEntries path item key value).map Entry.tally) := by
  rw [memberTally, memberEntries]
  split
  · exact listTally_eq _ _
  · split
    · exact listTally_eq _ _
    · rfl

theorem itemTally_eq (path : String) (item : Document) :
    scope.itemTally path item = Tally.sum ((scope.itemEntries path item).map Entry.tally) := by
  cases item with
  | obj members =>
    simp only [itemTally, memberTally_eq, Tally.sum_map_sum, itemEntries, Document.members?,
      Option.getD_some, List.map_flatMap]
  | _ => rfl

/-- The report counts what is counted for each entry. -/
theorem tally_eq_sum_entries (document : Document) :
    scope.tally document = Tally.sum ((scope.entries document).map Entry.tally) := by
  rw [entries, List.map_append, Tally.sum_append, List.map_flatMap, ← Tally.sum_map_sum, List.map_map]
  simp only [tally, itemTally_eq]
  rfl

/-- Nothing is counted exactly when nothing is counted for any entry. -/
theorem tally_eq_zero_iff (document : Document) :
    scope.tally document = {} ↔ ∀ entry ∈ scope.entries document, entry.tally = {} := by
  rw [tally_eq_sum_entries, Tally.sum_eq_zero_iff, List.forall_mem_map]

theorem normalizeList_eq_self_iff (ctx : FlattenContext) (list : Document) :
    normalizeList ctx list = list ↔ ∀ entry ∈ (listEntries (some list)).map (ctx, ·), Entry.Kept entry := by
  rw [List.forall_mem_map]
  cases list with
  | arr items =>
    have each : items.map (normalizeParameter ctx) = items.map id ↔
        ∀ entry ∈ items, normalizeParameter ctx entry = id entry := List.map_inj_left
    rw [List.map_id] at each
    rwa [normalizeList, Document.arr.injEq]
  | _ => exact iff_of_true rfl (by simp [listEntries, Document.items?])

theorem normalizeMember_eq_self_iff (path : String) (item : Document) (key : String) {value : Document}
    (ordered : value.Ordered) : scope.normalizeMember path item key value = value ↔
      ∀ entry ∈ scope.memberEntries path item key value, entry.Kept := by
  rw [normalizeMember, memberEntries]
  split
  · rw [Document.mapMember_eq_self_iff ordered]
    cases present : value.get? "parameters" with
    | none => simp [listEntries]
    | some list => simpa using normalizeList_eq_self_iff _ list
  · split
    · exact normalizeList_eq_self_iff _ value
    · simp

theorem normalizeItem_eq_self_iff (path : String) {item : Document} (ordered : item.Ordered) :
    scope.normalizeItem path item = item ↔ ∀ entry ∈ scope.itemEntries path item, entry.Kept := by
  cases item with
  | obj members =>
    have each := Keyed.map_eq_self_iff (scope.normalizeMember path (.obj members)) members
    rw [normalizeItem, Document.obj.injEq, each, itemEntries, List.forall_mem_flatMap]
    refine forall₂_congr fun entry member => ?_
    exact scope.normalizeMember_eq_self_iff path _ _ ((Document.ordered_obj.mp ordered).2 entry member)
  | _ => exact iff_of_true rfl (by simp [itemEntries, Document.members?])

theorem normalizePaths_eq_self_iff {paths : Document} (ordered : paths.Ordered) :
    scope.normalizePaths paths = paths ↔
      ∀ entry ∈ (paths.members?.getD []).flatMap fun (path, item) => scope.itemEntries path item,
        entry.Kept := by
  cases paths with
  | obj paths =>
    have each := Keyed.map_eq_self_iff scope.normalizeItem paths
    rw [normalizePaths, Document.obj.injEq, each, List.forall_mem_flatMap]
    refine forall₂_congr fun item member => ?_
    exact scope.normalizeItem_eq_self_iff item.1 ((Document.ordered_obj.mp ordered).2 item member)
  | _ => exact iff_of_true rfl (by simp [Document.members?])

theorem normalizeComponents_eq_self_iff (parameters : Document) :
    scope.normalizeComponents parameters = parameters ↔
      ∀ entry ∈ (parameters.members?.getD []).map fun (_, entry) => (scope.plainContext, entry),
        Entry.Kept entry := by
  cases parameters with
  | obj parameters =>
    have each := Keyed.map_eq_self_iff (fun _ => normalizeParameter scope.plainContext) parameters
    rw [normalizeComponents, Document.obj.injEq, each, List.forall_mem_map]
    rfl
  | _ => exact iff_of_true rfl (by simp [Document.members?])

theorem componentParameters_normalizeParameters (document : Document) :
    componentMembers "parameters" (scope.normalizeParameters document) =
      (componentParameters document).map fun (name, entry) =>
        (name, normalizeParameter scope.plainContext entry) := by
  rw [componentMembers, normalizeParameters, Document.get?_mapMember, if_pos rfl, Document.get?_mapMember,
    if_neg (by decide), componentParameters, componentMembers]
  cases document.get? "components" with
  | none => rfl
  | some components =>
    rw [Option.map_some, Option.bind_some, Option.bind_some, Document.get?_mapMember, if_pos rfl]
    cases components.get? "parameters" with
    | none => rfl
    | some parameters => cases parameters <;> rfl

/-- The parameters of an ordered document are in normal form exactly when each entry stays. -/
theorem normalizeParameters_eq_self_iff {document : Document} (ordered : document.Ordered) :
    scope.normalizeParameters document = document ↔ ∀ entry ∈ scope.entries document, entry.Kept := by
  rw [normalizeParameters, Document.mapMember_mapMember_eq_self_iff (by decide) ordered,
    Document.mapMember_eq_self_iff ordered, Document.mapMember_eq_self_iff ordered, entries,
    List.forall_mem_append]
  refine and_congr ?_ ?_
  · rw [pathItems]
    cases present : document.get? "paths" with
    | none => simp
    | some paths => simpa using scope.normalizePaths_eq_self_iff (ordered.get? present)
  · rw [componentParameters, componentMembers]
    cases present : document.get? "components" with
    | none => simp
    | some components =>
      simp only [Option.some.injEq, forall_eq', Option.bind_some]
      rw [Document.mapMember_eq_self_iff (ordered.get? present)]
      cases components.get? "parameters" with
      | none => simp
      | some parameters => simpa using scope.normalizeComponents_eq_self_iff parameters

end NormalizeScope

end QuerySynth.Rest
