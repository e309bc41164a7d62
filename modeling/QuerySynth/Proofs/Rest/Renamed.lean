import QuerySynth.Proofs.Name.Marks
import QuerySynth.Proofs.Rest.Schemas

/-! # The schemas after all renamings

A schema moves at most once, because only the old names are looked at and each of them once. So the table
of the renamings says where every schema is at the end: different schemas are under different names, and
nothing else is in the table.
-/

namespace QuerySynth.Rest

/-- The name that a schema has after the renamings. -/
def newName (renames : Keyed String) (name : String) : String :=
  (renames.get? name).getD name

theorem newName_nil (name : String) : newName [] name = name := rfl

theorem newName_insert (renames : Keyed String) (name target other : String) :
    newName (renames.insert name target) other = if other = name then target else newName renames other := by
  rw [newName, Keyed.get?_insert]
  split <;> rfl

/-- A reference to a schema is one to its new name. -/
theorem followRename_schemaReference (renames : Keyed String) (name : String) :
    followRename renames (schemaReference ++ name) = schemaReference ++ newName renames name := by
  rw [followRename, String.toList_append, Text.dropStem?_append, Option.bind_some, String.ofList_toList, newName]
  cases renames.get? name <;> rfl

/-- The renamings tell where the schemas are. -/
structure Tracked (schemas : Keyed Document) (state : Keyed Document × Keyed String) : Prop where
  /-- Every schema is under its new name. -/
  found : ∀ name ∈ schemas.keys, state.1.get? (newName state.2 name) = schemas.get? name
  /-- Nothing else is in the table. -/
  origin : ∀ key ∈ state.1.keys, ∃ name ∈ schemas.keys, newName state.2 name = key
  /-- Different schemas have different new names. -/
  injective : ∀ name ∈ schemas.keys, ∀ other ∈ schemas.keys,
    newName state.2 name = newName state.2 other → name = other
  /-- A schema moves to its canonical name only. -/
  canonical : ∀ name, newName state.2 name = name ∨ newName state.2 name = canonicalName name

variable {schemas : Keyed Document} {state : Keyed Document × Keyed String} {name key : String}

theorem tracked_start (schemas : Keyed Document) : Tracked schemas (schemas, []) where
  found _ _ := rfl
  origin key member := ⟨key, member, rfl⟩
  injective _ _ _ _ same := same
  canonical _ := .inl rfl

/-- A schema under its new name is in the table. -/
theorem Tracked.mem_keys (tracked : Tracked schemas state) (member : name ∈ schemas.keys) :
    newName state.2 name ∈ state.1.keys := by
  rw [Keyed.mem_keys_iff, tracked.found name member]
  exact Keyed.mem_keys_iff.mp member

/-- A schema that has not moved yet can move, and the renamings tell so. -/
theorem tracked_renameSchema (member : name ∈ schemas.keys) (stays : state.2.get? name = none)
    (tracked : Tracked schemas state) : Tracked schemas (renameSchema state name) := by
  rcases renameSchema_cases state name with ⟨same, -⟩ | ⟨body, moves, present, moved⟩
  · rwa [same]
  have own : newName state.2 name = name := by rw [newName, stays, Option.getD_none]
  -- Nobody else is at the old name or at the new one.
  have elsewhere {other : String} (known : other ∈ schemas.keys) (different : other ≠ name) :
      newName state.2 other ≠ name ∧ newName state.2 other ≠ canonicalName name := by
    constructor
    · intro same
      exact different (tracked.injective other known name member (same.trans own.symm))
    · intro same
      exact moves (.inr (.inr (same ▸ tracked.mem_keys known)))
  rw [moved]
  refine ⟨?_, ?_, ?_, ?_⟩
  · intro other known
    rw [newName_insert]
    by_cases same : other = name
    · rw [if_pos same, Keyed.get?_insert_self, same, ← tracked.found name member, own, present]
    · obtain ⟨notOld, notNew⟩ := elsewhere known same
      rw [if_neg same, Keyed.get?_insert_of_ne notNew, Keyed.get?_erase, if_neg notOld, tracked.found other known]
  · intro key arrived
    rcases mem_keys_move.mp arrived with rfl | ⟨other, old⟩
    · exact ⟨name, member, by rw [newName_insert, if_pos rfl]⟩
    · obtain ⟨source, known, rfl⟩ := tracked.origin key old
      have different : source ≠ name := by
        rintro rfl
        exact other own
      exact ⟨source, known, by rw [newName_insert, if_neg different]⟩
  · intro first known second known' same
    rw [newName_insert, newName_insert] at same
    by_cases isFirst : first = name <;> by_cases isSecond : second = name
    · rw [isFirst, isSecond]
    · rw [if_pos isFirst, if_neg isSecond] at same
      exact absurd same.symm (elsewhere known' isSecond).2
    · rw [if_neg isFirst, if_pos isSecond] at same
      exact absurd same (elsewhere known isFirst).2
    · rw [if_neg isFirst, if_neg isSecond] at same
      exact tracked.injective first known second known' same
  · intro other
    rw [newName_insert]
    by_cases same : other = name
    · rw [if_pos same, same]
      exact .inr rfl
    · rw [if_neg same]
      exact tracked.canonical other

/-- A renaming is noted under the name of its schema only. -/
theorem get?_snd_renameSchema_of_ne (different : key ≠ name) :
    (renameSchema state name).2.get? key = state.2.get? key := by
  rcases renameSchema_cases state name with ⟨same, -⟩ | ⟨body, -, -, moved⟩
  · rw [same]
  · rw [moved]
    exact Keyed.get?_insert_of_ne different _ _

theorem tracked_foldl_renameSchema {names : List String} (distinct : names.Nodup)
    (known : ∀ name ∈ names, name ∈ schemas.keys) (stay : ∀ name ∈ names, state.2.get? name = none)
    (tracked : Tracked schemas state) : Tracked schemas (names.foldl renameSchema state) := by
  induction names generalizing state with
  | nil => exact tracked
  | cons name rest ih =>
    obtain ⟨fresh, distinct⟩ := List.nodup_cons.mp distinct
    obtain ⟨member, later⟩ := List.forall_mem_cons.mp known
    obtain ⟨stays, others⟩ := List.forall_mem_cons.mp stay
    rw [List.foldl_cons]
    refine ih distinct later ?_ (tracked_renameSchema member stays tracked)
    intro other inRest
    have different : other ≠ name := by
      rintro rfl
      exact fresh inRest
    rw [get?_snd_renameSchema_of_ne different, others other inRest]

theorem tracked_renameSchemas (sorted : schemas.Sorted) : Tracked schemas (renameSchemas schemas) := by
  have distinct := nodup_of_pairwise_lt (Keyed.pairwise_keys sorted)
  exact tracked_foldl_renameSchema distinct (fun _ member => member) (fun _ _ => rfl) (tracked_start schemas)

/-- The table holds the schemas under their new names, and nothing else. -/
theorem get?_renameSchemas_eq_some_iff (sorted : schemas.Sorted) {body : Document} :
    (renameSchemas schemas).1.get? key = some body ↔
      ∃ name, newName (renameSchemas schemas).2 name = key ∧ schemas.get? name = some body := by
  have tracked := tracked_renameSchemas sorted
  constructor
  · intro found
    obtain ⟨name, known, rfl⟩ := tracked.origin key (Keyed.mem_keys_iff.mpr ⟨body, found⟩)
    exact ⟨name, rfl, by rw [← tracked.found name known, found]⟩
  · rintro ⟨name, rfl, found⟩
    rw [tracked.found name (Keyed.mem_keys_iff.mpr ⟨body, found⟩), found]

/-- The new name of a schema has the marks of its name only. -/
theorem mem_of_mem_newName (sorted : schemas.Sorted) {mark : Char} (isMark : mark ∈ Text.pointerMarks)
    (inside : mark ∈ (newName (renameSchemas schemas).2 name).toList) : mark ∈ name.toList := by
  rcases (tracked_renameSchemas sorted).canonical name with same | same
  · rwa [same] at inside
  · rw [same] at inside
    exact mem_of_mem_canonicalName isMark inside

/-- A name that is canonical already stays. -/
theorem newName_of_canonical (sorted : schemas.Sorted) (canonical : canonicalName name = name) :
    newName (renameSchemas schemas).2 name = name := by
  rcases (tracked_renameSchemas sorted).canonical name with same | same
  · exact same
  · rw [same, canonical]

end QuerySynth.Rest
