import QuerySynth.Proofs.Document.Follow
import QuerySynth.Proofs.Parameter.Normal
import QuerySynth.Rest.Normalize

/-! # References under normal forms of parameters

Bringing the parameter entries of a document into normal form keeps every reference at its place, except
in the schemas of parameter entries: a declared type or the text of a list takes the place of some members
there.
-/

namespace QuerySynth

namespace Document

/-- Every reference stays at its place, except for some that are gone inside of certain places. -/
structure KeepsReferences (inside : List String → Prop) (before after : Document) : Prop where
  text : after.text? = before.text?
  reference : ∀ place, after.referenceAt? place = before.referenceAt? place ∨
    (inside place ∧ after.referenceAt? place = none)

variable {inside wider : List String → Prop} {before middle after : Document}

theorem KeepsReferences.refl (inside : List String → Prop) (document : Document) :
    KeepsReferences inside document document :=
  ⟨rfl, fun _ => .inl rfl⟩

theorem KeepsReferences.trans (first : KeepsReferences inside before middle)
    (second : KeepsReferences inside middle after) : KeepsReferences inside before after := by
  refine ⟨second.text.trans first.text, fun place => ?_⟩
  rcases second.reference place with same | gone
  · rw [same]
    exact first.reference place
  · exact .inr gone

theorem KeepsReferences.mono (keeps : KeepsReferences inside before after)
    (subset : ∀ place, inside place → wider place) : KeepsReferences wider before after :=
  ⟨keeps.text, fun place => (keeps.reference place).imp_right (And.imp_left (subset place))⟩

/-- Objects with the same reference of their own keep those in their members. -/
theorem KeepsReferences.of_members {members members' : List (String × Document)}
    (own : (obj members').textAt? "$ref" = (obj members).textAt? "$ref")
    (each : ∀ key place,
      (Keyed.get? members' key).bind (·.referenceAt? place) = (Keyed.get? members key).bind (·.referenceAt? place) ∨
        (inside (key :: place) ∧ (Keyed.get? members' key).bind (·.referenceAt? place) = none)) :
    KeepsReferences inside (obj members) (obj members') := by
  refine ⟨rfl, fun place => ?_⟩
  cases place with
  | nil => exact .inl own
  | cons key rest =>
    rw [referenceAt?_cons, referenceAt?_cons]
    exact each key rest

/-- A change of the members keeps references when it does so in every member. -/
theorem KeepsReferences.map {f : String → Document → Document}
    (each : ∀ key value, KeepsReferences (fun place => inside (key :: place)) value (f key value))
    (members : List (String × Document)) :
    KeepsReferences inside (obj members) (obj (members.map fun (key, value) => (key, f key value))) := by
  refine .of_members ?_ fun key place => ?_
  · rw [textAt?, get?, Keyed.get?_map f, textAt?, get?]
    cases Keyed.get? members "$ref" with
    | none => rfl
    | some value => exact (each "$ref" value).text
  · rw [Keyed.get?_map f]
    cases Keyed.get? members key with
    | none => exact .inl rfl
    | some value => exact (each key value).reference place

theorem KeepsReferences.mapItems {f : Document → Document}
    (each : ∀ position item, KeepsReferences (fun place => inside (position :: place)) item (f item))
    (items : List Document) : KeepsReferences inside (arr items) (arr (items.map f)) := by
  refine ⟨rfl, fun place => ?_⟩
  cases place with
  | nil => exact .inl rfl
  | cons step rest =>
    rw [referenceAt?_cons, child?, referenceAt?_cons, child?]
    cases position? step with
    | none => exact .inl rfl
    | some position =>
      rw [Option.bind_some, Option.bind_some, List.getElem?_map]
      cases items[position]? with
      | none => exact .inl rfl
      | some item => exact (each step item).reference rest

theorem KeepsReferences.mapMember {key : String} {f : Document → Document}
    (each : ∀ value, KeepsReferences (fun place => inside (key :: place)) value (f value))
    (document : Document) : KeepsReferences inside document (document.mapMember key f) := by
  cases document with
  | obj members =>
    rw [mapMember_obj]
    refine KeepsReferences.map (f := fun k v => if k = key then f v else v) (fun k value => ?_) members
    split
    · rename_i atKey
      exact atKey ▸ each value
    · exact .refl _ value
  | _ => exact .refl _ _

/-- A new text takes the place of one member. -/
theorem KeepsReferences.insert {key : String} (plain : key ≠ "$ref") (text : String)
    (members : List (String × Document)) :
    KeepsReferences (fun _ => True) (obj members) (obj (Keyed.insert key (.str text) members)) := by
  refine .of_members ?_ fun other place => ?_
  · rw [textAt?, get?, Keyed.get?_insert_of_ne plain.symm, textAt?, get?]
  · by_cases same : other = key
    · rw [same, Keyed.get?_insert_self]
      exact .inr ⟨trivial, referenceAt?_str text place⟩
    · rw [Keyed.get?_insert_of_ne same]
      exact .inl rfl

theorem KeepsReferences.erase {key : String} (plain : key ≠ "$ref") (members : List (String × Document)) :
    KeepsReferences (fun _ => True) (obj members) (obj (Keyed.erase key members)) := by
  refine .of_members ?_ fun other place => ?_
  · rw [textAt?, get?, Keyed.get?_erase, if_neg plain.symm, textAt?, get?]
  · rw [Keyed.get?_erase]
    by_cases same : other = key
    · rw [if_pos same]
      exact .inr ⟨trivial, rfl⟩
    · rw [if_neg same]
      exact .inl rfl

theorem keepsReferences_declareType (wrapper : WrapperKind) (schema : Document) :
    KeepsReferences (fun _ => True) schema (declareType wrapper schema) := by
  cases schema with
  | obj members =>
    rcases declared : wrapper.declaredType with ⟨type, format⟩
    have typed := KeepsReferences.insert (show "type" ≠ "$ref" by decide) type members
    cases format with
    | none =>
      simp only [declareType, declared]
      exact typed.trans (.erase (by decide) _)
    | some format =>
      simp only [declareType, declared]
      exact typed.trans (.insert (by decide) format _)
  | _ => exact .refl _ _

theorem keepsReferences_applyWrapper (wrapper : WrapperKind) (schema : Document) :
    KeepsReferences (fun _ => True) schema (applyWrapper wrapper schema) := by
  rw [applyWrapper]
  split
  · exact .mapMember (keepsReferences_declareType wrapper) schema
  · split
    · exact .refl _ schema
    · exact keepsReferences_declareType wrapper schema

/-- No reference stands in the text of a list. -/
theorem referenceAt?_listSchema (element : ListElement) (place : List String) :
    (listSchema element).referenceAt? place = none := by
  cases place with
  | nil => rfl
  | cons key rest =>
    rw [referenceAt?_cons, listSchema, child?]
    cases found : Keyed.get? [("pattern", str element.pattern), ("type", str "string")] key with
    | none => rfl
    | some value =>
      have listed := Keyed.mem_of_get? found
      simp only [List.mem_cons, Prod.mk.injEq, List.not_mem_nil, or_false] at listed
      rcases listed with ⟨-, rfl⟩ | ⟨-, rfl⟩ <;> exact referenceAt?_str _ rest

end Document

open Document Rest

theorem keepsReferences_flatten (ctx : FlattenContext) (raw : RawParameter) :
    KeepsReferences (fun _ => True) raw.schema (raw.flatten ctx).schema := by
  rw [(RawParameter.flatten_eq ctx raw).1]
  generalize raw.target ctx.registry = target
  have corrected : KeepsReferences (fun _ => True) raw.schema
      (RawParameter.correctedSchema ctx target.1 target.2 raw.schema) := by
    rw [RawParameter.correctedSchema]
    split
    · exact .refl _ _
    · split
      · exact keepsReferences_applyWrapper _ _
      · exact .refl _ _
  refine corrected.trans ?_
  generalize RawParameter.correctedSchema ctx target.1 target.2 raw.schema = schema
  rw [RawParameter.listShape]
  split
  · split
    · rename_i text element coerced
      obtain rfl := eq_listSchema_of_coerceList? coerced
      refine ⟨?_, fun place => .inr ⟨trivial, referenceAt?_listSchema element place⟩⟩
      -- An array schema is an object, so it is no text either.
      cases schema with
      | str text => simp [coerceList?, isArraySchema, textAt?, get?] at coerced
      | _ => rfl
    · exact .refl _ _
  · exact .refl _ _

/-- A location is a text, or an object with null as its only member. -/
theorem referenceAt?_of_readLocation {value : Document} {location : Location}
    (reads : RawParameter.readLocation value = .ok location) (place : List String) :
    value.referenceAt? place = none := by
  cases value with
  | str text => exact referenceAt?_str text place
  | obj members =>
    match members with
    | [(word, content)] =>
      simp only [RawParameter.readLocation, bind_eq_ok_iff] at reads
      obtain ⟨_, -, reads⟩ := reads
      cases content with
      | null =>
        have inside (key : String) : Keyed.get? [(word, null)] key = none ∨
            Keyed.get? [(word, null)] key = some null := by
          by_cases same : word = key <;> simp [Keyed.get?, same]
        cases place with
        | nil =>
          rw [referenceAt?_nil, textAt?, get?]
          rcases inside "$ref" with found | found <;> rw [found] <;> rfl
        | cons step rest =>
          rw [referenceAt?_cons, child?]
          rcases inside step with found | found <;> rw [found]
          · rfl
          · exact referenceAt?_null rest
      | _ => simp at reads
    | [] | _ :: _ :: _ => simp [RawParameter.readLocation] at reads
  | _ => simp [RawParameter.readLocation] at reads

/-- No reference stands in a member of a parameter that was read, except in the schema and in the members
without a meaning. -/
theorem referenceAt?_of_ofDocument {document : Document} {raw : RawParameter}
    (read : RawParameter.ofDocument document = .ok raw) (key : String) (place : List String) :
    (document.get? key).bind (·.referenceAt? place) =
      if key = "schema" then raw.schema.referenceAt? place
      else (raw.extra.get? key).bind (·.referenceAt? place) := by
  obtain ⟨members, rfl, -⟩ := RawParameter.of_ofDocument read
  split
  · rename_i isSchema
    rw [isSchema, RawParameter.schema_of_ofDocument read]
    cases (obj members).get? "schema" with
    | none => exact (referenceAt?_null place).symm
    | some schema => rfl
  · rename_i other
    rw [RawParameter.get?_extra_of_ofDocument read]
    split
    · rename_i known
      cases present : (obj members).get? key with
      | none => rfl
      | some value =>
        rw [Option.bind_some, Option.bind_none]
        rcases RawParameter.forall_known_of_ofDocument read known other present with
          ⟨_, reads⟩ | ⟨_, reads⟩ | ⟨_, reads⟩ | ⟨_, reads⟩
        · cases value with
          | null => exact referenceAt?_null place
          | str text => exact referenceAt?_str text place
          | _ => simp [RawParameter.readOptionalText] at reads
        · exact referenceAt?_of_readLocation reads place
        · cases value with
          | str text => exact referenceAt?_str text place
          | _ => simp [RawParameter.readText] at reads
        · cases value with
          | bool flag => exact referenceAt?_bool flag place
          | _ => simp [RawParameter.readFlag] at reads
    · rfl

/-- Places in the schema of a parameter entry, as seen from the entry. -/
def InSchema (place : List String) : Prop :=
  ∃ rest, place = "schema" :: rest

theorem keepsReferences_normalizeParameter (ctx : FlattenContext) (document : Document) :
    KeepsReferences InSchema document (normalizeParameter ctx document) := by
  cases inline : inlineParameter? document with
  | none =>
    rw [normalizeParameter_of_not_inline inline]
    exact .refl _ document
  | some raw =>
    have inline' := inlineParameter?_normalizeParameter ctx inline
    obtain ⟨own, read⟩ := inlineParameter?_eq_some_iff.mp inline
    obtain ⟨own', read'⟩ := inlineParameter?_eq_some_iff.mp inline'
    have inMember := referenceAt?_of_ofDocument read
    have inMember' := referenceAt?_of_ofDocument read'
    obtain ⟨members, rfl, -⟩ := RawParameter.of_ofDocument read
    obtain ⟨members', object, -⟩ := RawParameter.of_ofDocument read'
    rw [object] at own' inMember' ⊢
    refine .of_members ?_ fun key place => ?_
    · rw [textAt?, own', textAt?, own]
    · have here := inMember key place
      have here' := inMember' key place
      rw [get?] at here here'
      rw [here, here']
      by_cases isSchema : key = "schema"
      · rw [if_pos isSchema, if_pos isSchema, schema_flattened]
        refine ((keepsReferences_flatten ctx raw).reference place).imp_right fun gone => ⟨?_, gone.2⟩
        exact ⟨place, by rw [isSchema]⟩
      · rw [if_neg isSchema, if_neg isSchema, extra_flattened]
        exact .inl rfl

namespace Rest

/-- Places in the schema of a parameter entry. -/
inductive InParameterSchema : List String → Prop where
  | component (name : String) (place : List String) :
    InParameterSchema ("components" :: "parameters" :: name :: "schema" :: place)
  | item (path position : String) (place : List String) :
    InParameterSchema ("paths" :: path :: "parameters" :: position :: "schema" :: place)
  | operation (path position : String) (place : List String) {method : String}
      (known : operationKeys.contains method = true) :
    InParameterSchema ("paths" :: path :: method :: "parameters" :: position :: "schema" :: place)

theorem keepsReferences_normalizeList (ctx : FlattenContext) (list : Document) :
    KeepsReferences (fun place => ∃ position rest, place = position :: "schema" :: rest) list
      (normalizeList ctx list) := by
  cases list with
  | arr items =>
    refine .mapItems (fun position item => ?_) items
    refine (keepsReferences_normalizeParameter ctx item).mono ?_
    rintro _ ⟨rest, rfl⟩
    exact ⟨position, rest, rfl⟩
  | _ => exact .refl _ _

namespace NormalizeScope

variable (scope : NormalizeScope)

theorem keepsReferences_normalizeMember (path : String) (item : Document) (key : String) (value : Document) :
    KeepsReferences (fun place => InParameterSchema ("paths" :: path :: key :: place)) value
      (scope.normalizeMember path item key value) := by
  rw [normalizeMember]
  split
  · rename_i isOperation
    refine .mapMember (fun list => (keepsReferences_normalizeList _ list).mono ?_) value
    rintro _ ⟨position, rest, rfl⟩
    exact .operation path position rest isOperation
  · split
    · rename_i isParameters
      refine (keepsReferences_normalizeList _ value).mono ?_
      rintro _ ⟨position, rest, rfl⟩
      exact isParameters ▸ .item path position rest
    · exact .refl _ value

theorem keepsReferences_normalizePaths (paths : Document) :
    KeepsReferences (fun place => InParameterSchema ("paths" :: place)) paths (scope.normalizePaths paths) := by
  cases paths with
  | obj items =>
    refine .map (f := scope.normalizeItem) (fun path item => ?_) items
    cases item with
    | obj members =>
      exact .map (f := scope.normalizeMember path (.obj members))
        (scope.keepsReferences_normalizeMember path (.obj members)) members
    | _ => exact .refl _ _
  | _ => exact .refl _ _

theorem keepsReferences_normalizeComponents (parameters : Document) :
    KeepsReferences (fun place => InParameterSchema ("components" :: "parameters" :: place)) parameters
      (scope.normalizeComponents parameters) := by
  cases parameters with
  | obj parameters =>
    refine .map (f := fun _ => normalizeParameter scope.plainContext) (fun name entry => ?_) parameters
    refine (keepsReferences_normalizeParameter _ entry).mono ?_
    rintro _ ⟨rest, rfl⟩
    exact .component name rest
  | _ => exact .refl _ _

/-- Normal forms of the parameter entries keep the references outside of their schemas. -/
theorem keepsReferences_normalizeParameters (document : Document) :
    KeepsReferences InParameterSchema document (scope.normalizeParameters document) := by
  refine .trans (.mapMember scope.keepsReferences_normalizePaths document) ?_
  exact .mapMember (fun _ => .mapMember scope.keepsReferences_normalizeComponents _) _

end NormalizeScope

end Rest

end QuerySynth
