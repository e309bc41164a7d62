import QuerySynth.Proofs.Parameter.Flatten
import QuerySynth.Proofs.Parameter.Object

/-! # Parameter objects in normal form

An object in normal form is read as the flattened parameter it was written from, so a second pass leaves
it. An object stays as it is exactly when nothing is counted for it and it is settled in what is not
counted: its description, the declared type in its schema and the way its members are written. Following
renamed references commutes with all of this.
-/

namespace QuerySynth

open Text Rest

namespace RawParameter

variable (ctx : FlattenContext) (field : String) (op : Option Operator) (schema : Document)

theorem isArraySchema_applyWrapper (wrapper : WrapperKind) (schema : Document) :
    (schema.applyWrapper wrapper).isArraySchema = schema.isArraySchema := by
  rw [Document.applyWrapper]
  cases isArray : schema.isArraySchema with
  | true =>
    rw [if_pos rfl, Document.isArraySchema, Document.textAt?_mapMember (by decide)]
    exact isArray
  | false =>
    rw [if_neg (by decide)]
    split
    · exact isArray
    · exact Document.isArraySchema_declareType wrapper schema isArray

/-- A correction leaves arrays arrays and makes none. -/
theorem isArraySchema_correctedSchema :
    (correctedSchema ctx field op schema).isArraySchema = schema.isArraySchema := by
  rw [correctedSchema]
  split
  · rfl
  · split
    · exact isArraySchema_applyWrapper _ schema
    · rfl

theorem coerceList?_eq_none_iff : schema.coerceList? = none ↔ schema.isArraySchema = false := by
  rw [Document.coerceList?]
  split <;> simp [*]

/-- A schema is written back unchanged when its declared type is correct and it is no array that becomes
a list. -/
theorem listShape_correctedSchema_eq_self_iff :
    (listShape op (correctedSchema ctx field op schema)).1 = schema ↔
      correctedSchema ctx field op schema = schema ∧
        ¬(schema.isArraySchema = true ∧
          (listShape op (correctedSchema ctx field op schema)).2.isSome = true) := by
  have isArray := isArraySchema_correctedSchema ctx field op schema
  cases isList : op.any Operator.isList with
  | false => simp [listShape, isList]
  | true =>
    cases coerced : (correctedSchema ctx field op schema).coerceList? with
    | none =>
      have noArray : schema.isArraySchema = false := by
        rw [← isArray]
        exact (coerceList?_eq_none_iff _).mp coerced
      simp [listShape, isList, coerced, noArray]
    | some result =>
      obtain ⟨text, element⟩ := result
      have array : schema.isArraySchema = true := by
        rw [← isArray, ← Bool.not_eq_false, ← coerceList?_eq_none_iff, coerced]
        simp
      have turned : listShape op (correctedSchema ctx field op schema) = (text, some element) := by
        simp [listShape, isList, coerced]
      refine iff_of_false ?_ ?_
      · intro same
        rw [turned] at same
        have list : Document.listSchema element = schema :=
          (Document.eq_listSchema_of_coerceList? coerced).symm.trans same
        have noArray := Document.isArraySchema_listSchema element
        rw [list, array] at noArray
        cases noArray
      · rintro ⟨-, plain⟩
        exact plain ⟨array, by rw [turned]; rfl⟩

theorem flatten_eq (raw : RawParameter) :
    (raw.flatten ctx).schema =
        (listShape (raw.target ctx.registry).2 (correctedSchema ctx (raw.target ctx.registry).1
          (raw.target ctx.registry).2 raw.schema)).1 ∧
      (raw.flatten ctx).parameter.valueType.listElement =
        (listShape (raw.target ctx.registry).2 (correctedSchema ctx (raw.target ctx.registry).1
          (raw.target ctx.registry).2 raw.schema)).2 := by
  rcases target : raw.target ctx.registry with ⟨field, op⟩
  simp only [flatten, target, and_self]

end RawParameter

section Objects

variable {ctx : FlattenContext} {raw : RawParameter} {document : Document}

theorem inlineParameter?_eq_some_iff :
    inlineParameter? document = some raw ↔
      document.get? "$ref" = none ∧ RawParameter.ofDocument document = .ok raw := by
  rw [inlineParameter?]
  cases document.get? "$ref" with
  | none => simp [toOption_eq_some_iff]
  | some reference => simp

theorem normalizeParameter_of_inline (inline : inlineParameter? document = some raw) :
    normalizeParameter ctx document = (flattened ctx raw).toDocument := by
  rw [normalizeParameter, inline]

theorem normalizeParameter_of_not_inline (none : inlineParameter? document = none) :
    normalizeParameter ctx document = document := by
  rw [normalizeParameter, none]

/-- The kept members of an inline parameter have no meaning, and none of them is a reference. -/
theorem get?_extra_of_inline (inline : inlineParameter? document = some raw) {key : String}
    (known : key ∈ RawParameter.knownKeys ∨ key = "$ref") : raw.extra.get? key = none := by
  obtain ⟨noReference, read⟩ := inlineParameter?_eq_some_iff.mp inline
  rw [RawParameter.get?_extra_of_ofDocument read]
  rcases known with known | rfl
  · rw [if_pos known]
  · rw [noReference]
    split <;> rfl

theorem get?_extra_flattened (ctx : FlattenContext) (inline : inlineParameter? document = some raw) {key : String}
    (known : key ∈ RawParameter.knownKeys ∨ key = "$ref") : (flattened ctx raw).extra.get? key = none := by
  rw [extra_flattened]
  exact get?_extra_of_inline inline known

/-- An object in normal form is read as the parameter that it was written from. -/
theorem inlineParameter?_normalizeParameter (ctx : FlattenContext)
    (inline : inlineParameter? document = some raw) :
    inlineParameter? (normalizeParameter ctx document) = some (flattened ctx raw) := by
  rw [normalizeParameter_of_inline inline, inlineParameter?_eq_some_iff]
  constructor
  · have unknown : "$ref" ∉ RawParameter.knownKeys := by decide
    rw [RawParameter.get?_toDocument_of_notMem unknown]
    exact get?_extra_flattened ctx inline (.inr rfl)
  · exact RawParameter.ofDocument_toDocument fun key known => get?_extra_flattened ctx inline (.inl known)

/-- A flattened parameter has the name, description and schema that flattening finds, and keeps the rest. -/
theorem flattened_eq (ctx : FlattenContext) (raw : RawParameter) :
    flattened ctx raw =
      { raw with
        name := (raw.flatten ctx).parameter.name
        description := (raw.flatten ctx).parameter.description
        schema := (raw.flatten ctx).schema } := by
  calc flattened ctx raw
    _ = { raw with
          name := (flattened ctx raw).name
          description := (flattened ctx raw).description
          schema := (flattened ctx raw).schema } := rfl
    _ = _ := by rw [description_flattened, schema_flattened]; rfl

theorem flattened_eq_self_iff :
    flattened ctx raw = raw ↔ Name.normalize raw.name = raw.name ∧
      (flattened ctx raw).description = raw.description ∧ (raw.flatten ctx).schema = raw.schema := by
  constructor
  · intro same
    rw [← schema_flattened, same]
    exact ⟨congrArg (·.name) same, rfl, rfl⟩
  · rintro ⟨name, description, schema⟩
    rw [description_flattened] at description
    rw [flattened_eq, description, schema]
    exact congrArg (fun name => { raw with name }) name

/-- A parameter that is in normal form already, up to its name and to arrays that become lists. -/
structure Settled (ctx : FlattenContext) (raw : RawParameter) (document : Document) : Prop where
  /-- Its description is not replaced. -/
  described : (flattened ctx raw).description = raw.description
  /-- Its schema declares the type that the wrapper of its field boxes. -/
  typed : RawParameter.correctedSchema ctx (raw.target ctx.registry).1 (raw.target ctx.registry).2
    raw.schema = raw.schema
  /-- It is written as it is read, without members that say nothing. -/
  written : raw.toDocument = document

theorem parameterTally_eq_zero_iff (inline : inlineParameter? document = some raw) :
    parameterTally ctx document = {} ↔ Name.normalize raw.name = raw.name ∧
      ¬(raw.schema.isArraySchema = true ∧ (raw.flatten ctx).parameter.valueType.listElement.isSome = true) := by
  have name : (raw.flatten ctx).parameter.name = Name.normalize raw.name := rfl
  simp only [parameterTally, inline, Tally.mk.injEq, name, ite_eq_left_iff, ite_eq_right_iff, Nat.one_ne_zero,
    imp_false, not_not]

/-- An object stays as it is exactly when nothing is counted for it and it is settled. -/
theorem normalizeParameter_eq_self_iff (ctx : FlattenContext) (document : Document) :
    normalizeParameter ctx document = document ↔ parameterTally ctx document = {} ∧
      ∀ raw, inlineParameter? document = some raw → Settled ctx raw document := by
  cases inline : inlineParameter? document with
  | none => simp [normalizeParameter, parameterTally, inline]
  | some raw =>
    have stays : normalizeParameter ctx document = document ↔
        flattened ctx raw = raw ∧ raw.toDocument = document := by
      constructor
      · intro same
        have again := inlineParameter?_normalizeParameter ctx inline
        rw [same, inline, Option.some.injEq] at again
        rw [normalizeParameter_of_inline inline, ← again] at same
        exact ⟨again.symm, same⟩
      · rintro ⟨same, written⟩
        rw [normalizeParameter_of_inline inline, same, written]
    obtain ⟨schema, element⟩ := RawParameter.flatten_eq ctx raw
    rw [stays, flattened_eq_self_iff, parameterTally_eq_zero_iff inline, schema, element,
      RawParameter.listShape_correctedSchema_eq_self_iff]
    simp only [Option.some.injEq, forall_eq']
    constructor
    · rintro ⟨⟨name, described, typed, noList⟩, written⟩
      exact ⟨⟨name, noList⟩, described, typed, written⟩
    · rintro ⟨⟨name, noList⟩, described, typed, written⟩
      exact ⟨⟨name, described, typed, noList⟩, written⟩

/-- The written name is split as the name it was made of. -/
theorem target_flattened (ctx : FlattenContext) (ascii : ∀ c ∈ raw.name.toList, IsAscii c) :
    (flattened ctx raw).target ctx.registry = raw.target ctx.registry := by
  simp only [RawParameter.target, name_flattened, location_flattened, Name.normalize_normalize ascii]

theorem parameter_flatten_flattened (ctx : FlattenContext) (ascii : ∀ c ∈ raw.name.toList, IsAscii c) :
    ((flattened ctx raw).flatten ctx).parameter =
      { (raw.flatten ctx).parameter with rawName := (raw.flatten ctx).parameter.name } :=
  flatten_flattened [] ascii rfl rfl (.inl rfl) (name_flattened ctx raw)
    (location_flattened ctx raw) rfl (required_flattened ctx raw) (renameReferences_nil _).symm
    (requiredGroup_flattened ctx raw)

theorem schema_flatten_flattened (ctx : FlattenContext) (ascii : ∀ c ∈ raw.name.toList, IsAscii c) :
    ((flattened ctx raw).flatten ctx).schema = (raw.flatten ctx).schema := by
  rw [(RawParameter.flatten_eq ctx _).1, target_flattened ctx ascii, schema_flattened,
    (RawParameter.flatten_eq ctx _).1, RawParameter.listShape_correctedSchema_listShape]

/-- Flattening a flattened parameter with an ASCII name changes nothing. -/
theorem flattened_flattened (ctx : FlattenContext) (ascii : ∀ c ∈ raw.name.toList, IsAscii c) :
    flattened ctx (flattened ctx raw) = flattened ctx raw := by
  rw [flattened_eq_self_iff]
  refine ⟨?_, ?_, ?_⟩
  · rw [name_flattened, Name.normalize_normalize ascii]
  · rw [description_flattened, parameter_flatten_flattened ctx ascii, description_flattened]
  · rw [schema_flatten_flattened ctx ascii, schema_flattened]

/-- Flattening is stable on its own output. What is written back has the flattened name, description and schema,
and it flattens to the same schema and the same parameter, whose raw name is now the delimited one. -/
theorem flatten_written (ctx : FlattenContext) (raw : RawParameter) (ascii : ∀ c ∈ raw.name.toList, IsAscii c) :
    let result := raw.flatten ctx
    let written := { raw with
      name := result.parameter.name
      description := result.parameter.description
      schema := result.schema }
    flattened ctx raw = written ∧
      written.flatten ctx = ⟨{ result.parameter with rawName := result.parameter.name }, result.schema⟩ := by
  intro result written
  have same : flattened ctx raw = written := flattened_eq ctx raw
  refine ⟨same, ?_⟩
  have parameter := parameter_flatten_flattened ctx ascii
  have schema := schema_flatten_flattened ctx ascii
  rw [same] at parameter schema
  calc written.flatten ctx
    _ = ⟨(written.flatten ctx).parameter, (written.flatten ctx).schema⟩ := rfl
    _ = _ := by rw [parameter, schema]

/-- A list of slots, whose items get their type from the wrapper of the field before the array becomes a text. -/
def slotListParameter : RawParameter where
  name := "slotId.in"
  location := .query
  description := some "Slots"
  schema := .obj [("items", .obj []), ("type", .str "array")]

/-- The wrapper of the field. -/
def slotListContext : FlattenContext :=
  ⟨.standard, [("slot_id", "The slot")], [("slot_id", .uint32)]⟩

/-- The list is flattened to a text with the pattern of its element type, and the text is flattened to itself. -/
theorem flatten_written_slotList :
    (∀ c ∈ slotListParameter.name.toList, IsAscii c) ∧
      slotListParameter.schema.isArraySchema = true ∧
      (slotListParameter.flatten slotListContext).parameter =
        ⟨"slotId.in", "slot_id_in", "slot_id", some .in, .query, false,
          ⟨"string", none, some ListElement.unsigned.pattern, some .unsigned⟩,
          some "The slot (filter: in) (comma-separated list)", none⟩ ∧
      ((flattened slotListContext slotListParameter).flatten slotListContext).parameter =
        { (slotListParameter.flatten slotListContext).parameter with rawName := "slot_id_in" } := by
  have ascii : ∀ c ∈ slotListParameter.name.toList, IsAscii c := by simp [slotListParameter, IsAscii]
  have named : (slotListParameter.flatten slotListContext).parameter.name = "slot_id_in" := by decide +kernel
  obtain ⟨same, again⟩ := flatten_written slotListContext slotListParameter ascii
  refine ⟨ascii, by decide +kernel, by decide +kernel, ?_⟩
  rw [same, again, named]

/-- A second pass leaves an object, if its name is ASCII. -/
theorem normalizeParameter_normalizeParameter (ctx : FlattenContext)
    (ascii : ∀ raw, inlineParameter? document = some raw → ∀ c ∈ raw.name.toList, IsAscii c) :
    normalizeParameter ctx (normalizeParameter ctx document) = normalizeParameter ctx document := by
  cases inline : inlineParameter? document with
  | none => rw [normalizeParameter_of_not_inline inline, normalizeParameter_of_not_inline inline]
  | some raw =>
    rw [normalizeParameter_of_inline (inlineParameter?_normalizeParameter ctx inline),
      flattened_flattened ctx (ascii raw inline), normalizeParameter_of_inline inline]

end Objects

section References

variable (renames : Keyed String)

theorem inlineParameter?_renameReferences (document : Document) :
    inlineParameter? (renameReferences renames document) =
      (inlineParameter? document).map (RawParameter.renameReferences renames) := by
  rw [inlineParameter?, inlineParameter?, get?_renameReferences]
  cases document.get? "$ref" with
  | none => exact RawParameter.toOption_ofDocument_renameReferences renames document
  | some reference => rfl

theorem flatten_renameReferences (ctx : FlattenContext) (raw : RawParameter) :
    (raw.renameReferences renames).flatten ctx =
      ⟨(raw.flatten ctx).parameter, renameReferences renames (raw.flatten ctx).schema⟩ := by
  have target : (raw.renameReferences renames).target ctx.registry = raw.target ctx.registry := rfl
  rcases split : raw.target ctx.registry with ⟨field, op⟩
  rw [split] at target
  simp only [RawParameter.flatten, target, split]
  simp only [RawParameter.renameReferences, ← correctedSchema_renameReferences, listShape_renameReferences,
    ofSchema_renameReferences]

theorem flattened_renameReferences (ctx : FlattenContext) (raw : RawParameter) :
    flattened ctx (raw.renameReferences renames) = (flattened ctx raw).renameReferences renames := by
  rw [flattened, flatten_renameReferences, flattened]
  simp only [RawParameter.renameReferences, isNull_renameReferences, apply_ite (renameReferences renames)]
  rfl

/-- Bringing an object into normal form and following the references commute. -/
theorem normalizeParameter_renameReferences (ctx : FlattenContext) (document : Document) :
    normalizeParameter ctx (renameReferences renames document) =
      renameReferences renames (normalizeParameter ctx document) := by
  rw [normalizeParameter, inlineParameter?_renameReferences, normalizeParameter]
  cases inlineParameter? document with
  | none => rfl
  | some raw =>
    rw [Option.map_some]
    dsimp only
    rw [flattened_renameReferences, RawParameter.toDocument_renameReferences]

end References

end QuerySynth
