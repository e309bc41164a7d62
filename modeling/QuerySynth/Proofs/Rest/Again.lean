import QuerySynth.Proofs.Rest.Ordered
import QuerySynth.Proofs.Rest.Report

/-! # A second pass over a document

The entries of a normal form are those of its document in normal form, and they are flattened in the same
contexts. So a second pass leaves every parameter whose name is ASCII. It leaves the document exactly
when no schema has a free canonical name left, which holds where canonical names are canonical again.
-/

namespace QuerySynth.Rest

/-- A parameter object whose normal form is read as a path parameter when the object is, and whose name
is ASCII. -/
structure Repeatable (document : Document) : Prop where
  ascii : ∀ raw, inlineParameter? document = some raw → ∀ c ∈ raw.name.toList, Text.IsAscii c
  /-- A path parameter is told by the text of its location. -/
  told : ∀ raw, inlineParameter? document = some raw → raw.location = .path →
    document.textAt? "in" = some "path"

section Entries

variable (renames : Keyed String) (ctx : FlattenContext) {document : Document}

/-- An entry in normal form tells a path parameter as before. -/
theorem textAt?_in_normalEntry (repeatable : Repeatable document) :
    ((normalEntry renames ctx document).textAt? "in" == some "path") =
      (document.textAt? "in" == some "path") := by
  rw [normalEntry, textAt?_renameReferences renames "in" (by decide)]
  cases inline : inlineParameter? document with
  | none => rw [normalizeParameter_of_not_inline inline]
  | some raw =>
    rw [normalizeParameter_of_inline inline, RawParameter.textAt?_in_toDocument, location_flattened]
    have read := (inlineParameter?_eq_some_iff.mp inline).2
    by_cases path : raw.location = .path
    · rw [repeatable.told raw inline path, path]
      rfl
    · have word : raw.location.word ≠ "path" := fun same => path (Location.word_eq_path_iff.mp same)
      have other : document.textAt? "in" ≠ some "path" := fun text =>
        word (RawParameter.textAt?_in_of_ofDocument read text).symm
      rw [beq_eq_false_iff_ne.mpr other, beq_eq_false_iff_ne.mpr (by simpa using word)]

/-- A second pass leaves an entry in normal form. -/
theorem normalizeParameter_normalEntry (repeatable : Repeatable document) :
    normalizeParameter ctx (normalEntry renames ctx document) = normalEntry renames ctx document := by
  rw [normalEntry, normalizeParameter_renameReferences,
    normalizeParameter_normalizeParameter ctx repeatable.ascii]

theorem normalizeParameter_renameMember (key : String) (repeatable : Repeatable document) :
    normalizeParameter ctx (renameMember renames key (normalizeParameter ctx document)) =
      renameMember renames key (normalizeParameter ctx document) := by
  rcases renameMember_eq_or renames key (normalizeParameter ctx document) with ⟨_, _, -, same⟩ | same
  · rw [same]
    rfl
  · rw [same]
    exact normalizeParameter_normalEntry renames ctx repeatable

theorem any_map_normalEntry {entries : List Document} (repeatable : ∀ entry ∈ entries, Repeatable entry) :
    ((entries.map (normalEntry renames ctx)).any fun entry => entry.textAt? "in" == some "path") =
      entries.any fun entry => entry.textAt? "in" == some "path" := by
  induction entries with
  | nil => rfl
  | cons entry rest ih =>
    obtain ⟨first, later⟩ := List.forall_mem_cons.mp repeatable
    rw [List.map_cons, List.any_cons, List.any_cons, textAt?_in_normalEntry renames ctx first, ih later]

end Entries

section Items

variable (scope : NormalizeScope) (renames : Keyed String) {document : Document} {path key : String}
  {members : Keyed Document}

theorem mem_entries_of_member (listed : (path, Document.obj members) ∈ pathItems document)
    {value : Document} (stored : (key, value) ∈ members) {entry : Entry}
    (member : entry ∈ scope.memberEntries path (.obj members) key value) :
    entry ∈ scope.entries document := by
  have inItem : entry ∈ scope.itemEntries path (.obj members) := List.mem_flatMap.mpr ⟨_, stored, member⟩
  exact List.mem_append_left _ (List.mem_flatMap.mpr ⟨_, listed, inItem⟩)

theorem mem_entries_of_item (listed : (path, Document.obj members) ∈ pathItems document) {entry : Document}
    (member : entry ∈ entriesOf (some (Document.obj members))) :
    (scope.plainContext, entry) ∈ scope.entries document := by
  cases present : (Document.obj members).get? "parameters" with
  | none => simp [entriesOf, present] at member
  | some list =>
    have noOperation : ¬operationKeys.contains "parameters" = true := by decide
    refine mem_entries_of_member scope listed (Keyed.mem_of_get? present) ?_
    rw [NormalizeScope.memberEntries, if_neg noOperation, if_pos rfl]
    refine List.mem_map_of_mem ?_
    rwa [entriesOf, Option.bind_some, present] at member

theorem mem_entries_of_operation (listed : (path, Document.obj members) ∈ pathItems document)
    {operation entry : Document} (stored : (key, operation) ∈ members)
    (isOperation : operationKeys.contains key = true) (member : entry ∈ entriesOf (some operation)) :
    (scope.operationContext path (.obj members) operation, entry) ∈ scope.entries document := by
  refine mem_entries_of_member scope listed stored ?_
  rw [NormalizeScope.memberEntries, if_pos isOperation]
  exact List.mem_map_of_mem member

theorem renameMember_obj (key : String) (members : List (String × Document)) :
    renameMember renames key (.obj members) = renameReferences renames (.obj members) := by
  unfold renameMember
  split
  · rename_i found
    cases found
  · rfl

theorem members?_renameMember (key : String) {value : Document} (none : value.members? = none) :
    (renameMember renames key value).members? = .none := by
  rcases renameMember_eq_or renames key value with ⟨_, _, -, same⟩ | same
  · rw [same]
    rfl
  · rw [same]
    cases value with
    | obj members => simp [Document.members?] at none
    | arr items => rw [renameReferences_arr]; rfl
    | _ => rfl

theorem normalItem_obj (path : String) (members : Keyed Document) :
    normalItem scope renames path (.obj members) = .obj (members.map fun (key, value) =>
      (key, renameMember renames key (scope.normalizeMember path (.obj members) key value))) := by
  rw [normalItem, NormalizeScope.normalizeItem, renameMember_obj, renameReferences_obj, List.map_map]
  rfl

/-- An operation in normal form is flattened with the descriptions of the operation. -/
theorem operationContext_normalItem (path : String) {item operation : Document} (ctx : FlattenContext)
    (item_repeatable : ∀ entry ∈ entriesOf (some item), Repeatable entry)
    (operation_repeatable : ∀ entry ∈ entriesOf (some operation), Repeatable entry) :
    scope.operationContext path (normalItem scope renames path item)
        (renameReferences renames (operation.mapMember "parameters" (normalizeList ctx))) =
      scope.operationContext path item operation := by
  have kind : entryKind ((entriesOf (some item)).map (normalEntry renames scope.plainContext) ++
      (entriesOf (some operation)).map (normalEntry renames ctx)) =
        entryKind (entriesOf (some item) ++ entriesOf (some operation)) := by
    rw [entryKind, entryKind, List.any_append, List.any_append, any_map_normalEntry _ _ item_repeatable,
      any_map_normalEntry _ _ operation_repeatable]
  rw [operationContext_eq, operationContext_eq scope path item, entriesOf_normalItem,
    entriesOf_normalOperation, entryContext, kind, entryContext]

/-- The entries under a member in normal form are those under the member, in normal form and in their
contexts. -/
theorem memberEntries_normalItem (listed : (path, Document.obj members) ∈ pathItems document)
    (repeatable : ∀ entry ∈ scope.entries document, Repeatable entry.2) {value : Document}
    (stored : (key, value) ∈ members) :
    scope.memberEntries path (normalItem scope renames path (.obj members)) key
        (renameMember renames key (scope.normalizeMember path (.obj members) key value)) =
      (scope.memberEntries path (.obj members) key value).map fun entry =>
        (entry.1, normalEntry renames entry.1 entry.2) := by
  rw [NormalizeScope.memberEntries, NormalizeScope.normalizeMember, NormalizeScope.memberEntries]
  split
  · rename_i isOperation
    have plain : key ≠ "$ref" := by
      rintro rfl
      revert isOperation
      decide
    have context := operationContext_normalItem scope renames path
      (scope.operationContext path (.obj members) value)
      (fun entry inside => repeatable _ (mem_entries_of_item scope listed inside))
      (fun entry inside => repeatable _ (mem_entries_of_operation scope listed stored isOperation inside))
    have entries := entriesOf_normalOperation renames (scope.operationContext path (.obj members) value) value
    rw [renameMember_of_ne renames plain, context, ← entriesOf_some, ← entriesOf_some, entries,
      List.map_map, List.map_map]
    rfl
  · split
    · rename_i isParameters
      subst isParameters
      rw [renameMember_of_ne renames (by decide), listEntries, Option.bind_some, items?_normalizeList,
        listEntries, Option.bind_some, List.map_map]
      cases value.items? with
      | none => rfl
      | some items => simp
    · rfl

/-- The entries of a path item in normal form are those of the path item. -/
theorem itemEntries_normalItem {item : Document} (listed : (path, item) ∈ pathItems document)
    (repeatable : ∀ entry ∈ scope.entries document, Repeatable entry.2) :
    scope.itemEntries path (normalItem scope renames path item) =
      (scope.itemEntries path item).map fun entry => (entry.1, normalEntry renames entry.1 entry.2) := by
  cases item with
  | obj members =>
    have table : (normalItem scope renames path (.obj members)).members?.getD [] =
        members.map fun (key, value) =>
          (key, renameMember renames key (scope.normalizeMember path (.obj members) key value)) := by
      rw [normalItem_obj]
      rfl
    rw [NormalizeScope.itemEntries, table, List.flatMap_map, NormalizeScope.itemEntries, List.map_flatMap]
    apply List.flatMap_congr
    rintro ⟨key, value⟩ stored
    exact memberEntries_normalItem scope renames listed repeatable stored
  | _ =>
    rw [NormalizeScope.itemEntries, normalItem, members?_renameMember renames path (by rfl)]
    rfl

end Items

section Documents

variable (document : Document) (schema : Schema) (registry : Registry) (basePath : Option String)

theorem scopeOf_normalizeDocument :
    scopeOf (normalizeDocument document schema registry basePath).1 schema registry basePath =
      scopeOf document schema registry basePath := by
  rw [scopeOf, documentBasePath_normalizeDocument, scopeOf]

variable {document schema registry basePath}

/-- A second pass leaves every entry of a normal form. -/
theorem kept_of_mem_entries_normalizeDocument
    (repeatable : ∀ entry ∈ (scopeOf document schema registry basePath).entries document, Repeatable entry.2) :
    ∀ entry ∈ (scopeOf document schema registry basePath).entries
      (normalizeDocument document schema registry basePath).1, entry.Kept := by
  intro entry member
  rw [NormalizeScope.entries] at member
  rcases List.mem_append.mp member with inPaths | inComponents
  · rw [pathItems_normalizeDocument, List.flatMap_map] at inPaths
    obtain ⟨⟨path, item⟩, listed, inside⟩ := List.mem_flatMap.mp inPaths
    dsimp only at inside
    rw [itemEntries_normalItem _ _ listed repeatable] at inside
    obtain ⟨old, present, rfl⟩ := List.mem_map.mp inside
    have known : old ∈ (scopeOf document schema registry basePath).entries document :=
      List.mem_append_left _ (List.mem_flatMap.mpr ⟨_, listed, present⟩)
    exact normalizeParameter_normalEntry _ _ (repeatable old known)
  · obtain ⟨⟨name, entry⟩, listed, rfl⟩ := List.mem_map.mp inComponents
    rw [componentParameters_normalizeDocument] at listed
    obtain ⟨⟨name, old⟩, present, same⟩ := List.mem_map.mp listed
    obtain ⟨rfl, rfl⟩ := Prod.mk.inj same
    have known : ((scopeOf document schema registry basePath).plainContext, old) ∈
        (scopeOf document schema registry basePath).entries document :=
      List.mem_append_right _ (List.mem_map.mpr ⟨_, present, rfl⟩)
    exact normalizeParameter_renameMember _ _ name (repeatable _ known)

/-- A second pass has nothing to do but rename schemas. -/
theorem normalizeDocument_again (ordered : document.Ordered)
    (repeatable : ∀ entry ∈ (scopeOf document schema registry basePath).entries document, Repeatable entry.2) :
    normalizeDocument (normalizeDocument document schema registry basePath).1 schema registry basePath =
      ((canonicalizeSchemas (normalizeDocument document schema registry basePath).1).1,
        ⟨0, 0, (canonicalizeSchemas (normalizeDocument document schema registry basePath).1).2⟩) := by
  have kept := kept_of_mem_entries_normalizeDocument repeatable
  have same := (NormalizeScope.normalizeParameters_eq_self_iff _
    (ordered_normalizeDocument ordered schema registry basePath)).mpr kept
  have none : (scopeOf document schema registry basePath).tally
      (normalizeDocument document schema registry basePath).1 = {} := by
    rw [NormalizeScope.tally_eq_zero_iff]
    intro entry member
    exact (entry.kept_iff.mp (kept entry member)).1
  rw [normalizeDocument_eq, scopeOf_normalizeDocument, same, none]

/-- A second pass leaves the normal form exactly when none of its schemas has a free canonical name. That
is so when the canonical names of the document's schemas are canonical again. -/
theorem normalizeDocument_normalizeDocument (ordered : document.Ordered)
    (repeatable : ∀ entry ∈ (scopeOf document schema registry basePath).entries document, Repeatable entry.2) :
    (normalizeDocument (normalizeDocument document schema registry basePath).1 schema registry basePath =
        ((normalizeDocument document schema registry basePath).1, ⟨0, 0, []⟩) ↔
      ∀ name ∈ Keyed.keys (componentSchemas (normalizeDocument document schema registry basePath).1),
        KeepsName (componentSchemas (normalizeDocument document schema registry basePath).1) name) ∧
    ((∀ name ∈ Keyed.keys (componentSchemas document),
        canonicalName (canonicalName name) = canonicalName name) →
      normalizeDocument (normalizeDocument document schema registry basePath).1 schema registry basePath =
        ((normalizeDocument document schema registry basePath).1, ⟨0, 0, []⟩)) := by
  have again := normalizeDocument_again ordered repeatable
  have keys := keys_componentSchemas_normalizeDocument document schema registry basePath
  generalize (normalizeDocument document schema registry basePath).1 = once at again keys ⊢
  have stays : normalizeDocument once schema registry basePath = (once, ⟨0, 0, []⟩) ↔
      ∀ name ∈ Keyed.keys (componentSchemas once), KeepsName (componentSchemas once) name := by
    rw [← renameSchemas_eq_nil_iff, ← snd_canonicalizeSchemas, again]
    constructor
    · intro same
      exact congrArg (·.2.renamedSchemas) same
    · intro none
      rw [canonicalizeSchemas_of_nil none]
  refine ⟨stays, fun canonical => stays.mpr ?_⟩
  intro name member
  rw [keys] at member
  rw [KeepsName, keys]
  exact keepsName_renameSchemas canonical name member

end Documents

/-- A document with one component parameter and one component schema. -/
def slotDataDocument : Document :=
  .obj [("components", .obj [
    ("parameters", .obj [("Slot", .obj [("in", .str "query"), ("name", .str "slot.eq")])]),
    ("schemas", .obj [("slot_data", .obj [])])])]

/-- The first pass renames the parameter and the schema, the second one nothing. -/
theorem normalizeDocument_normalizeDocument_slotData :
    slotDataDocument.Ordered ∧
      (normalizeDocument slotDataDocument .empty .standard none).2 = ⟨1, 0, [("slot_data", "SlotData")]⟩ ∧
      (∀ entry ∈ (scopeOf slotDataDocument .empty .standard none).entries slotDataDocument,
        Repeatable entry.2) ∧
      normalizeDocument (normalizeDocument slotDataDocument .empty .standard none).1 .empty .standard none =
        ((normalizeDocument slotDataDocument .empty .standard none).1, ⟨0, 0, []⟩) := by
  have ordered : slotDataDocument.Ordered := by decide
  have repeatable : ∀ entry ∈ (scopeOf slotDataDocument .empty .standard none).entries slotDataDocument,
      Repeatable entry.2 := by
    intro entry member
    obtain rfl : entry = ((scopeOf slotDataDocument .empty .standard none).plainContext,
        .obj [("in", .str "query"), ("name", .str "slot.eq")]) := List.mem_singleton.mp member
    have read : inlineParameter? (.obj [("in", .str "query"), ("name", .str "slot.eq")]) =
        some { name := "slot.eq", location := .query } := rfl
    refine ⟨?_, ?_⟩
    · intro raw inline
      rw [read, Option.some.injEq] at inline
      subst inline
      simp [Text.IsAscii]
    · intro raw inline path
      rw [read, Option.some.injEq] at inline
      subst inline
      cases path
  have canonical : ∀ name ∈ Keyed.keys (componentSchemas slotDataDocument),
      canonicalName (canonicalName name) = canonicalName name := by
    decide +kernel
  exact ⟨ordered, by decide +kernel, repeatable,
    (normalizeDocument_normalizeDocument ordered repeatable).2 canonical⟩

/-- A document with one component schema, whose name has words of one letter. -/
def letterDocument : Document :=
  .obj [("components", .obj [("schemas", .obj [("a_b", .obj [])])])]

/-- That schema gets one canonical name in the first pass and another one in the second. -/
theorem renamedSchemas_letterDocument :
    letterDocument.Ordered ∧ (∀ name ∈ Keyed.keys (componentSchemas letterDocument),
        ∀ c ∈ name.toList, Text.IsAscii c) ∧
      (normalizeDocument letterDocument .empty .standard none).2 = ⟨0, 0, [("a_b", "AB")]⟩ ∧
      (normalizeDocument (normalizeDocument letterDocument .empty .standard none).1 .empty .standard none).2 =
        ⟨0, 0, [("AB", "Ab")]⟩ := by
  refine ⟨by decide, ?_, by decide +kernel, by decide +kernel⟩
  intro name member
  obtain rfl : name = "a_b" := List.mem_singleton.mp member
  simp [Text.IsAscii]

end QuerySynth.Rest
