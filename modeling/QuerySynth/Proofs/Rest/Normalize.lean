import Mathlib.Data.List.Forall2
import QuerySynth.Proofs.Parameter.Normal
import QuerySynth.Proofs.Rest.Paths

/-! # What a normal form keeps

A normal form has the operations and the servers of its document. Its parameter entries are those of
the document, each in normal form and with references that follow the renamed schemas.
-/

namespace QuerySynth.Rest

def normalEntry (renames : Keyed String) (ctx : FlattenContext) (entry : Document) : Document :=
  renameReferences renames (normalizeParameter ctx entry)

/-- An entry in normal form is read as its flattened parameter, whose references follow. -/
theorem inlineParameter?_normalEntry (renames : Keyed String) (ctx : FlattenContext) {entry : Document}
    {raw : RawParameter} (inline : inlineParameter? entry = some raw) :
    inlineParameter? (normalEntry renames ctx entry) = some ((flattened ctx raw).renameReferences renames) := by
  rw [normalEntry, inlineParameter?_renameReferences, inlineParameter?_normalizeParameter ctx inline, Option.map_some]

section Items

variable (scope : NormalizeScope) (renames : Keyed String)

theorem get?_normalizeItem (path key : String) (item : Document) :
    (scope.normalizeItem path item).get? key =
      (item.get? key).map (scope.normalizeMember path item key) := by
  cases item with
  | obj members => exact Keyed.get?_map (scope.normalizeMember path (.obj members)) members key
  | _ => rfl

def normalItem (path : String) (item : Document) : Document :=
  renameMember renames path (scope.normalizeItem path item)

theorem get?_normalItem (path key : String) (item : Document) :
    (normalItem scope renames path item).get? key =
      (item.get? key).map fun value =>
        renameMember renames key (scope.normalizeMember path item key value) := by
  rw [normalItem, get?_renameMember, get?_normalizeItem, Option.map_map]
  rfl

theorem normalizeMember_of_mem {method : String} (member : method ∈ iteratedMethods) (path : String)
    (item operation : Document) :
    scope.normalizeMember path item method operation =
      operation.mapMember "parameters" (normalizeList (scope.operationContext path item operation)) := by
  have isOperation : operationKeys.contains method = true := by
    revert method
    decide
  rw [NormalizeScope.normalizeMember, if_pos isOperation]

theorem ne_reference_of_mem {method : String} (member : method ∈ iteratedMethods) : method ≠ "$ref" := by
  rintro rfl
  revert member
  decide

theorem get?_method_normalItem {method : String} (member : method ∈ iteratedMethods) (path : String)
    (item : Document) :
    (normalItem scope renames path item).get? method =
      (item.get? method).map fun operation =>
        renameReferences renames (operation.mapMember "parameters"
          (normalizeList (scope.operationContext path item operation))) := by
  rw [get?_normalItem]
  congr 1
  funext operation
  rw [renameMember_of_ne renames (ne_reference_of_mem member), normalizeMember_of_mem scope member]

theorem itemOperations_normalItem (path : String) (item : Document) :
    itemOperations path (normalItem scope renames path item) = itemOperations path item := by
  apply List.filterMap_congr
  intro method member
  rw [get?_method_normalItem scope renames member]
  cases item.get? method with
  | none => rfl
  | some operation =>
    have isNull (change : Document → Document) :
        (renameReferences renames (operation.mapMember "parameters" change)).isNull = operation.isNull := by
      rw [isNull_renameReferences]
      cases operation <;> rfl
    simp only [Option.map_some, Option.bind_some, operation?, isNull,
      textAt?_renameReferences renames "operationId" (by decide),
      Document.textAt?_mapMember (show "operationId" ≠ "parameters" by decide)]

theorem items?_normalizeList (ctx : FlattenContext) (list : Document) :
    (renameReferences renames (normalizeList ctx list)).items? =
      list.items?.map (List.map (normalEntry renames ctx)) := by
  cases list with
  | arr items =>
    rw [normalizeList, renameReferences_arr, Document.items?, List.map_map]
    rfl
  | _ => rw [items?_renameReferences]; rfl

/-- Entries of a holder whose parameter list is in normal form. -/
private theorem entriesOf_of_get? {holder change : Option Document} {ctx : FlattenContext}
    (list : change.bind (·.get? "parameters") =
      (holder.bind (·.get? "parameters")).map fun list => renameReferences renames (normalizeList ctx list)) :
    entriesOf change = (entriesOf holder).map (normalEntry renames ctx) := by
  rw [entriesOf, list, entriesOf]
  cases holder.bind (·.get? "parameters") with
  | none => rfl
  | some list =>
    simp only [Option.map_some, Option.bind_some, items?_normalizeList]
    cases list.items? <;> rfl

theorem entriesOf_normalItem (path : String) (item : Document) :
    entriesOf (some (normalItem scope renames path item)) =
      (entriesOf (some item)).map (normalEntry renames scope.plainContext) := by
  apply entriesOf_of_get?
  have plain : renameMember renames "parameters" = renameReferences renames :=
    funext (renameMember_of_ne renames (by decide))
  simp only [Option.bind_some, get?_normalItem, plain]
  rfl

theorem entriesOf_normalOperation (ctx : FlattenContext) (operation : Document) :
    entriesOf (some (renameReferences renames (operation.mapMember "parameters" (normalizeList ctx)))) =
      (entriesOf (some operation)).map (normalEntry renames ctx) := by
  apply entriesOf_of_get?
  simp only [Option.bind_some, get?_renameReferences_of_ne renames "parameters" (by decide),
    Document.get?_mapMember, if_true, Option.map_map]
  rfl

theorem entriesOf_method_normalItem {method : String} (member : method ∈ iteratedMethods)
    (path : String) (item operation : Document) (present : item.get? method = some operation) :
    entriesOf ((normalItem scope renames path item).get? method) =
      (entriesOf (some operation)).map
        (normalEntry renames (scope.operationContext path item operation)) := by
  rw [get?_method_normalItem scope renames member, present]
  exact entriesOf_normalOperation renames _ operation

end Items

theorem get?_canonicalizeSchemas {key : String} (other : key ≠ "components") (document : Document) :
    (canonicalizeSchemas document).1.get? key =
      (document.get? key).map (renameMember (canonicalizeSchemas document).2 key) := by
  rcases renamed : renameSchemas (componentSchemas document) with ⟨schemas, renames⟩
  have unchanged : renameMember [] key = id := funext (renameMember_nil key)
  simp only [canonicalizeSchemas, renamed]
  split
  · rw [unchanged, Option.map_id]
    rfl
  · rw [get?_renameReferences, Document.get?_mapMember, if_neg other]

section Documents

variable (document : Document) (schema : Schema) (registry : Registry) (basePath : Option String)

/-- What the normal form of a document depends on. -/
def scopeOf : NormalizeScope :=
  ⟨registry, schema, basePath.getD (documentBasePath document)⟩

def renamesOf : Keyed String :=
  (normalizeDocument document schema registry basePath).2.renamedSchemas

theorem get?_normalizeDocument {key : String} (other : key ≠ "components") :
    (normalizeDocument document schema registry basePath).1.get? key =
      (((scopeOf document schema registry basePath).normalizeParameters document).get? key).map
        (renameMember (renamesOf document schema registry basePath) key) :=
  get?_canonicalizeSchemas other _

theorem pathItems_normalizeDocument :
    pathItems (normalizeDocument document schema registry basePath).1 =
      (pathItems document).map fun (path, item) =>
        (path, normalItem (scopeOf document schema registry basePath)
          (renamesOf document schema registry basePath) path item) := by
  rw [pathItems, get?_normalizeDocument document schema registry basePath (by decide),
    NormalizeScope.normalizeParameters, Document.get?_mapMember, if_neg (by decide),
    Document.get?_mapMember, if_pos rfl, pathItems]
  cases document.get? "paths" with
  | none => rfl
  | some paths =>
    simp only [Option.map_some, Option.bind_some, renameMember_of_ne _ (show "paths" ≠ "$ref" by decide)]
    cases paths with
    | obj items =>
      rw [NormalizeScope.normalizePaths, renameReferences_obj]
      simp only [Document.members?, Option.getD_some, List.map_map]
      rfl
    | arr items => simp only [NormalizeScope.normalizePaths, renameReferences_arr]; rfl
    | _ => rfl

theorem operationsOf_normalizeDocument :
    operationsOf (pathItems (normalizeDocument document schema registry basePath).1) =
      operationsOf (pathItems document) := by
  rw [pathItems_normalizeDocument]
  exact operationsOf_map (itemOperations_normalItem _ _) _

end Documents

/-- The kind of an operation, as all its parameter entries tell. -/
def entryKind (entries : List Document) : MethodKind :=
  if entries.any fun entry => entry.textAt? "in" == some "path" then .get else .list

theorem entryKind_eq_get_iff {entries : List Document} :
    entryKind entries = .get ↔ ∃ entry ∈ entries, entry.textAt? "in" = some "path" := by
  rw [entryKind]
  simp only [ite_eq_left_iff, reduceCtorEq, imp_false, Decidable.not_not, List.any_eq_true, beq_iff_eq]

/-- Flattening with the descriptions of the request that serves an operation with some entries. -/
def entryContext (scope : NormalizeScope) (path : String) (entries : List Document) : FlattenContext :=
  let request := (resource? path scope.basePath).bind fun resource =>
    scope.schema.request? resource (entryKind entries)
  { scope.plainContext with descriptions := (request.map Message.descriptions).getD [] }

theorem operationKind_eq (item operation : Document) :
    NormalizeScope.operationKind item operation =
      entryKind (entriesOf (some item) ++ entriesOf (some operation)) := by
  rw [NormalizeScope.operationKind, entryKind, List.any_append]
  rfl

theorem operationContext_eq (scope : NormalizeScope) (path : String) (item operation : Document) :
    scope.operationContext path item operation =
      entryContext scope path (entriesOf (some item) ++ entriesOf (some operation)) := by
  rw [NormalizeScope.operationContext, operationKind_eq, entryContext]

/-- The parameter entries of a normal form are those of its document in normal form, each with the
descriptions of its operation or without any. -/
theorem parameterEntries_normalizeDocument (document : Document) (schema : Schema) (registry : Registry)
    (basePath : Option String) (path : String) {method : String} (member : method ∈ iteratedMethods) :
    List.Forall₂
      (fun entry entry' => ∃ written ∈ [(scopeOf document schema registry basePath).plainContext,
          entryContext (scopeOf document schema registry basePath) path
            (parameterEntries document path method)],
        entry' = normalEntry (renamesOf document schema registry basePath) written entry)
      (parameterEntries document path method)
      (parameterEntries (normalizeDocument document schema registry basePath).1 path method) := by
  have found : (pathItems (normalizeDocument document schema registry basePath).1).get? path =
      ((pathItems document).get? path).map
        (normalItem (scopeOf document schema registry basePath)
          (renamesOf document schema registry basePath) path) := by
    rw [pathItems_normalizeDocument]
    exact Keyed.get?_map _ _ path
  rw [parameterEntries_eq, parameterEntries_eq, found]
  cases (pathItems document).get? path with
  | none => exact .nil
  | some item =>
    rw [Option.map_some, Option.bind_some, Option.bind_some, entriesOf_normalItem]
    refine List.rel_append ?_ ?_
    · rw [List.forall₂_map_right_iff, List.forall₂_same]
      intro entry _
      exact ⟨_, List.mem_cons_self, rfl⟩
    · cases present : item.get? method with
      | none =>
        rw [get?_method_normalItem _ _ member, present]
        exact .nil
      | some operation =>
        rw [entriesOf_method_normalItem _ _ member path item operation present, operationContext_eq,
          List.forall₂_map_right_iff, List.forall₂_same]
        intro entry _
        exact ⟨_, List.mem_cons_of_mem _ List.mem_cons_self, rfl⟩

end QuerySynth.Rest
