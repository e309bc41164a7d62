import QuerySynth.Proofs.Name.Canonical
import QuerySynth.Proofs.Rest.References

/-! # Flattening is stable on its own output

A schema that was corrected by a wrapper or turned into a list text is corrected and turned again
without a change, and a name in delimited form splits as the name it was made of. So a parameter that
was written back in normal form flattens to the parameter it came from, up to its raw name. Following
renamed references changes nothing that flattening looks at.
-/

namespace QuerySynth

open Text Rest

namespace Document

variable (wrapper : WrapperKind)

theorem mapMember_obj (key : String) (f : Document → Document) (members : List (String × Document)) :
    (obj members).mapMember key f = obj (members.map fun (k, v) => (k, if k = key then f v else v)) := by
  rw [mapMember]
  congr 1
  apply List.map_congr_left
  rintro ⟨k, v⟩ _
  by_cases atKey : k = key <;> simp [atKey]

theorem get?_mapMember (key other : String) (f : Document → Document) (document : Document) :
    (document.mapMember key f).get? other =
      if other = key then (document.get? other).map f else document.get? other := by
  cases document with
  | obj members =>
    have same := Keyed.get?_map (fun k v => if k = key then f v else v) members other
    rw [mapMember_obj, get?, get?, same]
    by_cases atKey : other = key <;> simp [atKey]
  | _ => simp [mapMember, get?]

theorem textAt?_mapMember {key other : String} (different : other ≠ key) (f : Document → Document)
    (document : Document) : (document.mapMember key f).textAt? other = document.textAt? other := by
  rw [textAt?, get?_mapMember, if_neg different, textAt?]

theorem mapMember_mapMember (key : String) (f g : Document → Document) (document : Document) :
    (document.mapMember key f).mapMember key g = document.mapMember key (g ∘ f) := by
  cases document with
  | obj members =>
    simp only [mapMember, List.map_map]
    congr 1
    apply List.map_congr_left
    rintro ⟨k, v⟩ _
    by_cases atKey : k = key <;> simp [atKey]
  | _ => rfl

/-- The type that a boxed value declares is never an array. -/
private theorem declaredType_ne_array : wrapper.declaredType.1 ≠ "array" := by
  cases wrapper <;> decide

theorem textAt?_type_declareType (members : List (String × Document)) :
    (declareType wrapper (.obj members)).textAt? "type" = some wrapper.declaredType.1 := by
  rcases declared : wrapper.declaredType with ⟨type, format⟩
  cases format <;>
    simp [declareType, declared, textAt?, get?, Keyed.get?_insert, Keyed.get?_erase, text?]

theorem isArraySchema_declareType (schema : Document) (noArray : schema.isArraySchema = false) :
    (declareType wrapper schema).isArraySchema = false := by
  cases schema with
  | obj members =>
    rw [isArraySchema, textAt?_type_declareType]
    simpa using declaredType_ne_array wrapper
  | _ => exact noArray

theorem get?_pattern_declareType (schema : Document) :
    (declareType wrapper schema).get? "pattern" = schema.get? "pattern" := by
  cases schema with
  | obj members =>
    rw [declareType]
    split
    split <;> simp [get?, Keyed.get?_insert, Keyed.get?_erase]
  | _ => rfl

theorem declareType_declareType (schema : Document) :
    declareType wrapper (declareType wrapper schema) = declareType wrapper schema := by
  cases schema with
  | obj members =>
    rcases declared : wrapper.declaredType with ⟨type, format⟩
    cases format with
    | none =>
      simp only [declareType, declared]
      rw [Keyed.insert_erase_insert (by decide), Keyed.erase_erase_self]
    | some format =>
      simp only [declareType, declared]
      rw [Keyed.insert_comm (show "type" ≠ "format" by decide), Keyed.insert_insert_self,
        Keyed.insert_insert_self]
  | _ => rfl

/-- Correcting a schema twice is correcting it once. -/
theorem applyWrapper_applyWrapper (schema : Document) :
    applyWrapper wrapper (applyWrapper wrapper schema) = applyWrapper wrapper schema := by
  cases isArray : schema.isArraySchema with
  | true =>
    have still : (schema.mapMember "items" (declareType wrapper)).isArraySchema = true := by
      rw [isArraySchema, textAt?_mapMember (by decide)]
      exact isArray
    simp only [applyWrapper, isArray, still, if_true, mapMember_mapMember]
    congr 1
    funext items
    exact declareType_declareType wrapper items
  | false =>
    cases hasPattern : (schema.get? "pattern").isSome with
    | true => simp [applyWrapper, isArray, hasPattern]
    | false =>
      simp only [applyWrapper, isArray, hasPattern, Bool.false_eq_true, if_false,
        isArraySchema_declareType wrapper schema isArray, get?_pattern_declareType,
        declareType_declareType]

theorem isNull_declareType (schema : Document) :
    (declareType wrapper schema).isNull = schema.isNull := by
  cases schema with
  | obj members => rw [declareType]; rfl
  | _ => rfl

theorem isNull_applyWrapper (schema : Document) :
    (applyWrapper wrapper schema).isNull = schema.isNull := by
  rw [applyWrapper]
  split
  · cases schema <;> rfl
  · split
    · rfl
    · exact isNull_declareType wrapper schema

end Document

theorem ListElement.ofPattern?_pattern (element : ListElement) :
    ofPattern? element.pattern = some element := by
  cases element <;> decide

/-- An array schema becomes the list text of its element type. -/
theorem Document.eq_listSchema_of_coerceList? {schema text : Document} {element : ListElement}
    (coerced : schema.coerceList? = some (text, element)) : text = Document.listSchema element := by
  rw [Document.coerceList?] at coerced
  split at coerced
  · obtain ⟨rfl, rfl⟩ := Prod.mk.inj (Option.some.inj coerced)
    rfl
  · simp at coerced

theorem Document.isArraySchema_listSchema (element : ListElement) :
    (Document.listSchema element).isArraySchema = false := by
  cases element <;> decide

namespace RawParameter

/-- A schema that became a list text is not corrected again. -/
private theorem correctedSchema_listSchema (ctx : FlattenContext) (field : String)
    (op : Option Operator) (element : ListElement) :
    correctedSchema ctx field op (Document.listSchema element) = Document.listSchema element := by
  have hasPattern : ((Document.listSchema element).get? "pattern").isSome = true := by
    simp [Document.listSchema, Document.get?]
  rw [correctedSchema]
  split
  · rfl
  · split
    · simp [Document.applyWrapper, Document.isArraySchema_listSchema, hasPattern]
    · rfl

theorem correctedSchema_correctedSchema (ctx : FlattenContext) (field : String)
    (op : Option Operator) (schema : Document) :
    correctedSchema ctx field op (correctedSchema ctx field op schema) =
      correctedSchema ctx field op schema := by
  unfold correctedSchema
  split
  · rfl
  · split
    · exact Document.applyWrapper_applyWrapper _ schema
    · rfl

/-- The list text of an array is read back with its element type. -/
private theorem listShape_listSchema {op : Option Operator} (isList : op.any Operator.isList = true)
    (element : ListElement) :
    listShape op (Document.listSchema element) = (Document.listSchema element, some element) := by
  have text : (Document.listSchema element).textAt? "pattern" = some element.pattern := by
    simp [Document.listSchema, Document.textAt?, Document.get?, Document.text?]
  simp [listShape, isList, Document.coerceList?, Document.isArraySchema_listSchema, text,
    ListElement.ofPattern?_pattern]

/-- The schema that flattening writes is flattened to itself, with the same element type. -/
theorem listShape_correctedSchema_listShape (ctx : FlattenContext) (field : String)
    (op : Option Operator) (schema : Document) :
    listShape op (correctedSchema ctx field op
        (listShape op (correctedSchema ctx field op schema)).1) =
      listShape op (correctedSchema ctx field op schema) := by
  cases isList : op.any Operator.isList with
  | false => simp [listShape, isList, correctedSchema_correctedSchema]
  | true =>
    cases coerced : (correctedSchema ctx field op schema).coerceList? with
    | none =>
      have kept : (listShape op (correctedSchema ctx field op schema)).1 =
          correctedSchema ctx field op schema := by simp [listShape, isList, coerced]
      rw [kept, correctedSchema_correctedSchema]
    | some result =>
      obtain ⟨text, element⟩ := result
      obtain rfl := Document.eq_listSchema_of_coerceList? coerced
      have turned : listShape op (correctedSchema ctx field op schema) =
          (Document.listSchema element, some element) := by
        simp [listShape, isList, coerced]
      rw [turned, correctedSchema_listSchema, listShape_listSchema isList]

theorem isNull_listShape_correctedSchema (ctx : FlattenContext) (field : String)
    (op : Option Operator) (schema : Document)
    (isNull : (listShape op (correctedSchema ctx field op schema)).1.isNull = true) :
    schema.isNull = true := by
  have corrected : (correctedSchema ctx field op schema).isNull = schema.isNull := by
    unfold correctedSchema
    split
    · rfl
    · split
      · exact Document.isNull_applyWrapper _ schema
      · rfl
  rw [← corrected]
  rw [listShape] at isNull
  split at isNull
  · split at isNull
    · rename_i coerced
      rw [Document.eq_listSchema_of_coerceList? coerced] at isNull
      simp [Document.listSchema, Document.isNull] at isNull
    · exact isNull
  · exact isNull

end RawParameter

section References

variable (renames : Keyed String)

theorem isArraySchema_renameReferences (schema : Document) :
    (renameReferences renames schema).isArraySchema = schema.isArraySchema := by
  rw [Document.isArraySchema, textAt?_renameReferences renames _ (by decide), Document.isArraySchema]

theorem declareType_renameReferences (wrapper : WrapperKind) (schema : Document) :
    renameReferences renames (Document.declareType wrapper schema) =
      Document.declareType wrapper (renameReferences renames schema) := by
  have typeText (text : String) : renameMember renames "type" (.str text) = .str text :=
    renameMember_of_ne renames (by decide) (.str text)
  have formatText (text : String) : renameMember renames "format" (.str text) = .str text :=
    renameMember_of_ne renames (by decide) (.str text)
  cases schema with
  | arr items => simp only [Document.declareType, renameReferences_arr]
  | obj members =>
    rcases declared : wrapper.declaredType with ⟨type, format⟩
    cases format with
    | none =>
      simp only [Document.declareType, declared, renameReferences_obj, Keyed.map_erase, Keyed.map_insert,
        typeText]
    | some format =>
      simp only [Document.declareType, declared, renameReferences_obj, Keyed.map_insert, typeText,
        formatText]
  | _ => rfl

theorem applyWrapper_renameReferences (wrapper : WrapperKind) (schema : Document) :
    renameReferences renames (Document.applyWrapper wrapper schema) =
      Document.applyWrapper wrapper (renameReferences renames schema) := by
  have samePattern : ((renameReferences renames schema).get? "pattern").isSome =
      (schema.get? "pattern").isSome := by
    rw [get?_renameReferences_of_ne renames _ (by decide), Option.isSome_map]
  rw [Document.applyWrapper, Document.applyWrapper, isArraySchema_renameReferences, samePattern]
  split
  · exact renameReferences_mapMember renames (by decide) (declareType_renameReferences renames wrapper) _
  · split
    · rfl
    · exact declareType_renameReferences renames wrapper schema

theorem correctedSchema_renameReferences (ctx : FlattenContext) (field : String) (op : Option Operator)
    (schema : Document) :
    renameReferences renames (RawParameter.correctedSchema ctx field op schema) =
      RawParameter.correctedSchema ctx field op (renameReferences renames schema) := by
  unfold RawParameter.correctedSchema
  split
  · rfl
  · split
    · exact applyWrapper_renameReferences renames _ schema
    · rfl

theorem ofItems_renameReferences (items : Document) :
    ListElement.ofItems (renameReferences renames items) = ListElement.ofItems items := by
  have sameMinimum : ((renameReferences renames items).get? "minimum").any ListElement.isNonNegative =
      (items.get? "minimum").any ListElement.isNonNegative := by
    rw [get?_renameReferences_of_ne renames _ (by decide), Option.any_map]
    congr 1
    funext value
    cases value with
    | arr items => simp only [renameReferences_arr, ListElement.isNonNegative]
    | obj members => simp only [renameReferences_obj, ListElement.isNonNegative]
    | _ => rfl
  simp only [ListElement.ofItems, textAt?_renameReferences renames "type" (by decide),
    textAt?_renameReferences renames "format" (by decide), sameMinimum]

theorem listShape_renameReferences (op : Option Operator) (schema : Document) :
    RawParameter.listShape op (renameReferences renames schema) =
      (renameReferences renames (RawParameter.listShape op schema).1,
        (RawParameter.listShape op schema).2) := by
  have sameElement : ((renameReferences renames schema).get? "items").map ListElement.ofItems =
      (schema.get? "items").map ListElement.ofItems := by
    rw [get?_renameReferences_of_ne renames _ (by decide), Option.map_map]
    congr 1
    funext items
    exact ofItems_renameReferences renames items
  have plainList (element : ListElement) :
      renameReferences renames (Document.listSchema element) = Document.listSchema element := by
    rw [Document.listSchema, renameReferences_obj]
    rfl
  cases isList : op.any Operator.isList with
  | false => simp [RawParameter.listShape, isList]
  | true =>
    cases isArray : schema.isArraySchema with
    | true =>
      simp only [RawParameter.listShape, isList, if_true, Document.coerceList?,
        isArraySchema_renameReferences, isArray, sameElement, plainList]
    | false =>
      simp only [RawParameter.listShape, isList, if_true, Document.coerceList?,
        isArraySchema_renameReferences, isArray, Bool.false_eq_true, if_false,
        textAt?_renameReferences renames "pattern" (by decide)]

theorem ofSchema_renameReferences (schema : Document) :
    ValueType.ofSchema (renameReferences renames schema) = ValueType.ofSchema schema := by
  simp only [ValueType.ofSchema, textAt?_renameReferences renames "type" (by decide),
    textAt?_renameReferences renames "format" (by decide),
    textAt?_renameReferences renames "pattern" (by decide)]

end References

section Flattened

variable (ctx : FlattenContext) (raw : RawParameter)

@[simp] theorem rawName_flatten : (raw.flatten ctx).parameter.rawName = raw.name := rfl

@[simp] theorem name_flattened : (flattened ctx raw).name = Name.normalize raw.name := rfl

@[simp] theorem location_flattened : (flattened ctx raw).location = raw.location := by
  rw [flattened]

@[simp] theorem required_flattened : (flattened ctx raw).required = raw.required := by
  rw [flattened]

@[simp] theorem requiredGroup_flattened : (flattened ctx raw).requiredGroup = raw.requiredGroup := by
  rw [flattened]

@[simp] theorem extra_flattened : (flattened ctx raw).extra = raw.extra := by
  rw [flattened]

end Flattened

/-- Flattening writes back the schema it computed; a null schema was null before. -/
theorem schema_flattened (ctx : FlattenContext) (raw : RawParameter) :
    (flattened ctx raw).schema = (raw.flatten ctx).schema := by
  cases isNull : (raw.flatten ctx).schema.isNull with
  | false => simp [flattened, isNull]
  | true =>
    have wasNull : raw.schema.isNull = true :=
      RawParameter.isNull_listShape_correctedSchema ctx _ _ raw.schema isNull
    have eq_null {schema : Document} (isNull : schema.isNull = true) : schema = .null := by
      cases schema <;> simp_all [Document.isNull]
    simp only [flattened, isNull, if_true]
    rw [eq_null isNull, eq_null wasNull]

/-- Flattening writes back the description it finds: only a query parameter has an operator to describe, and any
other parameter keeps its description and gets one when it has none. -/
theorem description_flattened (ctx : FlattenContext) (raw : RawParameter) :
    (flattened ctx raw).description = (raw.flatten ctx).parameter.description := by
  rcases target : raw.target ctx.registry with ⟨field, op⟩
  have description : (raw.flatten ctx).parameter.description =
      RawParameter.describe ctx field op (raw.flatten ctx).parameter.valueType.listElement.isSome
        raw.description := by
    simp only [RawParameter.flatten, target]
  have written : (flattened ctx raw).description =
      if raw.location = .query ∨ raw.description.isNone then
        (raw.flatten ctx).parameter.description.or raw.description
      else raw.description := rfl
  rw [written, description]
  cases op with
  | some op =>
    have query : raw.location = .query := by
      cases located : raw.location with
      | query => rfl
      | _ => simp [RawParameter.target, located] at target
    rw [if_pos (.inl query), RawParameter.describe, Option.some_or]
  | none =>
    rw [RawParameter.describe]
    cases raw.description <;> simp

/-- A description that was written back is the one that is found when it is looked up again, by the
same table or by none. -/
private theorem describe_flattened {ctx written : FlattenContext} (raw : RawParameter)
    (sameRegistry : written.registry = ctx.registry)
    (known : written.descriptions = ctx.descriptions ∨ written.descriptions = []) (isList : Bool) :
    RawParameter.describe ctx (raw.target ctx.registry).1 (raw.target ctx.registry).2 isList
        (flattened written raw).description =
      RawParameter.describe ctx (raw.target ctx.registry).1 (raw.target ctx.registry).2 isList
        raw.description := by
  rcases target : raw.target ctx.registry with ⟨field, op⟩
  have result : (raw.flatten written).parameter.description =
      RawParameter.describe written field op
        (RawParameter.listShape op
          (RawParameter.correctedSchema written field op raw.schema)).2.isSome raw.description := by
    simp only [RawParameter.flatten, sameRegistry, target]
  cases op with
  | some op => simp only [RawParameter.describe]
  | none =>
    have looked : written.descriptions.get? field = ctx.descriptions.get? field ∨
        written.descriptions.get? field = none := by
      rcases known with same | none
      · exact .inl (by rw [same])
      · exact .inr (by rw [none]; rfl)
    rw [description_flattened, result]
    simp only [RawParameter.describe]
    rcases looked with same | none
    · rw [same, Option.or_assoc, Option.or_self]
    · rw [none, Option.or_none]

/-- A parameter that was written back in normal form, and whose references then followed renamed
schemas, flattens to the parameter it came from, up to its raw name. The descriptions may have been
those of its operation or none. -/
theorem flatten_flattened {ctx written : FlattenContext} {raw again : RawParameter}
    (renames : Keyed String) (ascii : ∀ c ∈ raw.name.toList, IsAscii c)
    (sameRegistry : written.registry = ctx.registry) (sameWrappers : written.wrappers = ctx.wrappers)
    (known : written.descriptions = ctx.descriptions ∨ written.descriptions = [])
    (name : again.name = Name.normalize raw.name) (location : again.location = raw.location)
    (description : again.description = (flattened written raw).description)
    (required : again.required = raw.required)
    (schema : again.schema = renameReferences renames (flattened written raw).schema)
    (group : again.requiredGroup = raw.requiredGroup) :
    (again.flatten ctx).parameter =
      { (raw.flatten ctx).parameter with rawName := Name.normalize raw.name } := by
  have target : again.target ctx.registry = raw.target ctx.registry := by
    simp only [RawParameter.target, name, location, Name.normalize_normalize ascii]
  have corrected (field : String) (op : Option Operator) (schema : Document) :
      RawParameter.correctedSchema written field op schema =
        RawParameter.correctedSchema ctx field op schema := by
    simp only [RawParameter.correctedSchema, sameWrappers]
  have described := describe_flattened raw sameRegistry known
  rcases split : raw.target ctx.registry with ⟨field, op⟩
  rw [split] at target described
  have writtenSchema : again.schema = renameReferences renames
      (RawParameter.listShape op (RawParameter.correctedSchema ctx field op raw.schema)).1 := by
    rw [schema, schema_flattened]
    simp only [RawParameter.flatten, sameRegistry, split, corrected]
  have shape : RawParameter.listShape op (RawParameter.correctedSchema ctx field op again.schema) =
      (renameReferences renames
          (RawParameter.listShape op (RawParameter.correctedSchema ctx field op raw.schema)).1,
        (RawParameter.listShape op (RawParameter.correctedSchema ctx field op raw.schema)).2) := by
    rw [writtenSchema, ← correctedSchema_renameReferences, listShape_renameReferences,
      RawParameter.listShape_correctedSchema_listShape]
  simp only [RawParameter.flatten, target, split, shape, name, location, required, group, description,
    described, Name.normalize_normalize ascii, ofSchema_renameReferences]

end QuerySynth
