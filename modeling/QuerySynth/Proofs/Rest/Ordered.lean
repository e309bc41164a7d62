import QuerySynth.Proofs.Parameter.Normal
import QuerySynth.Proofs.Rest.Schemas

/-! # Normal forms are ordered

The normal form of a document whose objects are sorted tables has sorted tables again: parameter objects
are written in key order, renamed schemas go to their place, and references change no key.
-/

namespace QuerySynth

open Rest

section References

variable (renames : Keyed String)

mutual

theorem isOrdered_renameReferences (document : Document) (ordered : document.isOrdered = true) :
    (renameReferences renames document).isOrdered = true := by
  cases document with
  | arr items =>
    rw [Document.isOrdered] at ordered
    rw [renameReferences, Document.isOrdered]
    exact areOrdered_renameInItems items ordered
  | obj members =>
    rw [Document.isOrdered, Bool.and_eq_true] at ordered
    rw [renameReferences, Document.isOrdered, Bool.and_eq_true, renameInMembers_eq_map]
    refine ⟨?_, ?_⟩
    · rw [decide_eq_true_iff] at ordered ⊢
      exact Keyed.sorted_map (renameMember renames) ordered.1
    · rw [← renameInMembers_eq_map]
      exact haveOrdered_renameInMembers members ordered.2
  | _ => exact ordered

theorem areOrdered_renameInItems (items : List Document) (ordered : Document.areOrdered items = true) :
    Document.areOrdered (renameInItems renames items) = true := by
  cases items with
  | nil => rfl
  | cons item rest =>
    rw [Document.areOrdered, Bool.and_eq_true] at ordered
    rw [renameInItems, Document.areOrdered, Bool.and_eq_true]
    exact ⟨isOrdered_renameReferences item ordered.1, areOrdered_renameInItems rest ordered.2⟩

theorem haveOrdered_renameInMembers (members : List (String × Document))
    (ordered : Document.haveOrdered members = true) :
    Document.haveOrdered (renameInMembers renames members) = true := by
  match members with
  | [] => rfl
  | (key, value) :: rest =>
    rw [Document.haveOrdered, Bool.and_eq_true] at ordered
    rw [renameInMembers_cons, Document.haveOrdered, Bool.and_eq_true]
    refine ⟨?_, haveOrdered_renameInMembers rest ordered.2⟩
    unfold renameMember
    split
    · rfl
    · exact isOrdered_renameReferences _ ordered.1

end

end References

theorem Document.Ordered.renameReferences {document : Document} (ordered : document.Ordered)
    (renames : Keyed String) : (renameReferences renames document).Ordered :=
  ⟨isOrdered_renameReferences renames document ordered.isOrdered⟩

namespace RawParameter

variable {raw : RawParameter} {document : Document}

theorem ordered_toDocument (extra : (Document.obj raw.extra).Ordered) (schema : raw.schema.Ordered) :
    raw.toDocument.Ordered := by
  apply extra.insertAll
  have text (text : String) : (Document.str text).Ordered := Document.ordered_str text
  have flag : (Document.bool true).Ordered := ⟨rfl⟩
  intro entry member
  simp only [List.mem_append, List.mem_cons, List.not_mem_nil, or_false, List.mem_map] at member
  rcases member with ((((rfl | rfl) | ⟨_, -, rfl⟩) | listed) | listed) | ⟨_, -, rfl⟩
  · exact text _
  · exact text _
  · exact text _
  · split at listed
    · rw [List.mem_singleton.mp listed]
      exact flag
    · exact absurd listed List.not_mem_nil
  · split at listed
    · exact absurd listed List.not_mem_nil
    · rw [List.mem_singleton.mp listed]
      exact schema
  · exact text _

theorem ordered_of_ofDocument (read : ofDocument document = .ok raw) (ordered : document.Ordered) :
    (Document.obj raw.extra).Ordered ∧ raw.schema.Ordered := by
  obtain ⟨members, rfl, extra, -⟩ := of_ofDocument read
  constructor
  · rw [extra]
    exact ordered.filter _
  · rw [schema_of_ofDocument read]
    cases present : (Document.obj members).get? "schema" with
    | none => exact ⟨rfl⟩
    | some schema => exact ordered.get? present

theorem ordered_declareType (wrapper : WrapperKind) {schema : Document} (ordered : schema.Ordered) :
    (schema.declareType wrapper).Ordered := by
  cases schema with
  | obj members =>
    rw [Document.declareType]
    rcases wrapper.declaredType with ⟨type, format⟩
    have typed := ordered.insert "type" (Document.ordered_str type)
    cases format with
    | none => exact typed.filter fun entry => entry.1 != "format"
    | some format => exact typed.insert "format" (Document.ordered_str format)
  | _ => exact ordered

theorem ordered_correctedSchema (ctx : FlattenContext) (field : String) (op : Option Operator)
    {schema : Document} (ordered : schema.Ordered) : (correctedSchema ctx field op schema).Ordered := by
  rw [correctedSchema]
  split
  · exact ordered
  · split
    · rename_i wrapper _
      rw [Document.applyWrapper]
      split
      · exact ordered.mapMember "items" fun _ => ordered_declareType wrapper
      · split
        · exact ordered
        · exact ordered_declareType wrapper ordered
    · exact ordered

theorem ordered_listShape (op : Option Operator) {schema : Document} (ordered : schema.Ordered) :
    (listShape op schema).1.Ordered := by
  rw [listShape]
  split
  · split
    · rename_i coerced
      rw [Document.eq_listSchema_of_coerceList? coerced]
      rename_i element
      cases element <;> decide
    · exact ordered
  · exact ordered

end RawParameter

/-- The normal form of a parameter object is ordered. -/
theorem ordered_normalizeParameter (ctx : FlattenContext) {document : Document} (ordered : document.Ordered) :
    (normalizeParameter ctx document).Ordered := by
  cases inline : inlineParameter? document with
  | none => rwa [normalizeParameter_of_not_inline inline]
  | some raw =>
    obtain ⟨extra, schema⟩ :=
      RawParameter.ordered_of_ofDocument (inlineParameter?_eq_some_iff.mp inline).2 ordered
    rw [normalizeParameter_of_inline inline]
    apply RawParameter.ordered_toDocument
    · rwa [extra_flattened]
    · rw [schema_flattened, (RawParameter.flatten_eq ctx raw).1]
      exact RawParameter.ordered_listShape _ (RawParameter.ordered_correctedSchema ctx _ _ schema)

namespace Rest

theorem ordered_normalizeList (ctx : FlattenContext) {list : Document} (ordered : list.Ordered) :
    (normalizeList ctx list).Ordered := by
  cases list with
  | arr items =>
    rw [normalizeList, Document.ordered_arr, List.forall_mem_map]
    intro item member
    exact ordered_normalizeParameter ctx (Document.ordered_arr.mp ordered item member)
  | _ => exact ordered

namespace NormalizeScope

variable (scope : NormalizeScope)

theorem ordered_normalizeMember (path : String) (item : Document) (key : String) {value : Document}
    (ordered : value.Ordered) : (scope.normalizeMember path item key value).Ordered := by
  rw [normalizeMember]
  split
  · exact ordered.mapMember "parameters" fun _ => ordered_normalizeList _
  · split
    · exact ordered_normalizeList _ ordered
    · exact ordered

theorem ordered_normalizeItem (path : String) {item : Document} (ordered : item.Ordered) :
    (scope.normalizeItem path item).Ordered := by
  cases item with
  | obj members =>
    exact ordered.map (scope.normalizeMember path (.obj members)) fun key _ =>
      scope.ordered_normalizeMember path (.obj members) key
  | _ => exact ordered

theorem ordered_normalizePaths {paths : Document} (ordered : paths.Ordered) :
    (scope.normalizePaths paths).Ordered := by
  cases paths with
  | obj paths => exact ordered.map scope.normalizeItem fun path _ => scope.ordered_normalizeItem path
  | _ => exact ordered

theorem ordered_normalizeComponents {parameters : Document} (ordered : parameters.Ordered) :
    (scope.normalizeComponents parameters).Ordered := by
  cases parameters with
  | obj parameters =>
    exact ordered.map (fun _ => normalizeParameter scope.plainContext) fun _ _ => ordered_normalizeParameter _
  | _ => exact ordered

theorem ordered_normalizeParameters {document : Document} (ordered : document.Ordered) :
    (scope.normalizeParameters document).Ordered := by
  have paths := ordered.mapMember "paths" fun _ => scope.ordered_normalizePaths
  exact paths.mapMember "components" fun _ components =>
    components.mapMember "parameters" fun _ => scope.ordered_normalizeComponents

end NormalizeScope

theorem ordered_renameSchema {state : Keyed Document × Keyed String} (name : String)
    (ordered : (Document.obj state.1).Ordered) : (Document.obj (renameSchema state name).1).Ordered := by
  rcases renameSchema_cases state name with ⟨same, -⟩ | ⟨body, -, found, moved⟩
  · rwa [same]
  · rw [moved]
    exact (ordered.filter _).insert _ (ordered.get? found)

theorem ordered_renameSchemas {schemas : Keyed Document} (ordered : (Document.obj schemas).Ordered) :
    (Document.obj (renameSchemas schemas).1).Ordered := by
  have run (names : List String) {state : Keyed Document × Keyed String}
      (start : (Document.obj state.1).Ordered) :
      (Document.obj (names.foldl renameSchema state).1).Ordered := by
    induction names generalizing state with
    | nil => exact start
    | cons name rest ih =>
      rw [List.foldl_cons]
      exact ih (ordered_renameSchema name start)
  exact run schemas.keys ordered

theorem ordered_canonicalizeSchemas {document : Document} (ordered : document.Ordered) :
    (canonicalizeSchemas document).1.Ordered := by
  rw [canonicalizeSchemas]
  dsimp only
  split
  · exact ordered
  · apply Document.Ordered.renameReferences
    exact ordered.mapMember "components" fun _ components =>
      components.mapMember "schemas" fun _ _ => ordered_renameSchemas (ordered_componentMembers ordered _)

/-- The normal form of an ordered document is ordered. -/
theorem ordered_normalizeDocument {document : Document} (ordered : document.Ordered) (schema : Schema)
    (registry : Registry) (basePath : Option String) :
    (normalizeDocument document schema registry basePath).1.Ordered :=
  ordered_canonicalizeSchemas (NormalizeScope.ordered_normalizeParameters _ ordered)

end Rest

end QuerySynth
