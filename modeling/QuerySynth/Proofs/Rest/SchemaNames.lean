import QuerySynth.Proofs.Document.Reference
import QuerySynth.Proofs.Rest.Frame

/-! # Schemas under their new names

No component schema is lost and no two are merged: they are in the normal form under new names, which differ
where the old ones did. Inside of a schema only references change, and every reference to a schema names it by
its new name, wherever it stands. Flattening a parameter may take a reference out of its schema before that.
-/

namespace QuerySynth

open Document

namespace Rest

/-- Flattening keeps a reference of the schema at its place, or takes it out. -/
theorem reference?_flatten {raw : RawParameter} {place : List Step} {reference other : String}
    (ctx : FlattenContext) (stands : raw.schema.reference? place = some reference)
    (stays : (raw.flatten ctx).schema.reference? place = some other) : other = reference := by
  have before := referenceAt?_of_reference? stands
  have after := referenceAt?_of_reference? stays
  rcases (keepsReferences_flatten ctx raw).reference (place.map stepWord) with same | ⟨-, gone⟩
  · rw [before, after] at same
    exact Option.some.inj same
  · rw [gone] at after
    cases after

/-- A reference that stands in a member of a parameter stands in the schema or in a member without a meaning. -/
theorem notMem_knownKeys_of_reference? {document value : Document} {raw : RawParameter} {key : String}
    {place : List Step} {reference : String} (read : RawParameter.ofDocument document = .ok raw)
    (other : key ≠ "schema") (present : document.get? key = some value)
    (stands : value.reference? place = some reference) : key ∉ RawParameter.knownKeys := by
  intro known
  have inMember := referenceAt?_of_ofDocument read key (place.map stepWord)
  rw [present, Option.bind_some, referenceAt?_of_reference? stands, if_neg other,
    RawParameter.get?_extra_of_ofDocument read, if_pos known] at inMember
  cases inMember

theorem reference?_schema {document : Document} {raw : RawParameter}
    (read : RawParameter.ofDocument document = .ok raw) (place : List Step) :
    raw.schema.reference? place = document.reference? (.member "schema" :: place) := by
  obtain ⟨members, rfl, -⟩ := RawParameter.of_ofDocument read
  rw [RawParameter.schema_of_ofDocument read, reference?_cons, get?, step?]
  cases Keyed.get? members "schema" with
  | none => exact reference?_null place
  | some schema => rfl

section Entries

variable {ctx : FlattenContext} {raw : RawParameter} {before after : Document} {place : List Step}
  {reference : String}

/-- A reference of a parameter stands in its schema, where flattening decides about it, or stays. -/
theorem reference?_rewritten (noReference : before.get? "$ref" = none)
    (read : RawParameter.ofDocument before = .ok raw) (rewritten : Rewritten ctx raw before after)
    (stands : before.reference? place = some reference) :
    (∃ rest, place = .member "schema" :: rest ∧
        (raw.flatten ctx).schema.reference? rest = after.reference? place) ∨
      after.reference? place = some reference := by
  obtain ⟨members, rfl, -⟩ := RawParameter.of_ofDocument read
  obtain ⟨members', rfl⟩ := rewritten.object
  cases place with
  | nil =>
    rw [reference?_nil, textAt?, noReference] at stands
    cases stands
  | cons step rest =>
    rw [reference?_cons] at stands ⊢
    obtain ⟨value, present, inside⟩ := Option.bind_eq_some_iff.mp stands
    cases step with
    | item position => cases present
    | member key =>
      by_cases isSchema : key = "schema"
      · subst isSchema
        refine .inl ⟨rest, rfl, ?_⟩
        have written : Keyed.get? members' "schema" = _ := rewritten.schema
        rw [step?, written]
        cases flat : (raw.flatten ctx).schema <;> simp [isNull]
      · right
        have held : (obj members).get? key = some value := present
        have unknown := notMem_knownKeys_of_reference? read isSchema held inside
        simp only [RawParameter.knownKeys, List.mem_cons, List.not_mem_nil, or_false, not_or] at unknown
        obtain ⟨name, location, description, required, -, group⟩ := unknown
        have kept : Keyed.get? members' key = _ :=
          rewritten.others key (by simp [name, location, description, isSchema])
        rw [step?, kept, held, Option.filter_some, if_pos (tells_of_ne required group value), Option.bind_some,
          inside]

end Entries

/-- Flattening takes the reference out of a document that stands at a place: it stands in the schema of a
parameter entry, and not in the schema of the flattened parameter. -/
def NormalizeScope.Drops (scope : NormalizeScope) (document : Document) (place : List Step) : Prop :=
  ∃ entry rest ctx raw, place = entry ++ .member "schema" :: rest ∧
    scope.contextAt? document entry = some ctx ∧ (document.at? entry).bind inlineParameter? = some raw ∧
    (raw.flatten ctx).schema.reference? rest = none

namespace NormalizeScope

variable (scope : NormalizeScope) {document : Document} {place : List Step} {reference : String}

/-- Parameter entries are outside of the component schemas. -/
theorem Drops.outside {scope : NormalizeScope} (drops : scope.Drops document place) (rest : List Step) :
    place ≠ .member "components" :: .member "schemas" :: rest := by
  obtain ⟨entry, below, ctx, raw, rfl, here, -⟩ := drops
  intro same
  rw [contextAt?.eq_def] at here
  split at here
  · simp at same
  · simp at same
  · cases here

/-- What flattening drops is gone. -/
theorem reference?_of_drops (drops : scope.Drops document place) :
    (scope.normalizeParameters document).reference? place = none := by
  obtain ⟨entry, rest, ctx, raw, rfl, here, found, gone⟩ := drops
  obtain ⟨value, present, inline⟩ := Option.bind_eq_some_iff.mp found
  obtain ⟨noReference, read⟩ := inlineParameter?_eq_some_iff.mp inline
  have changed := (scope.frame_normalizeParameters document).inside entry ctx here
  rw [present] at changed
  rw [reference?_append]
  generalize (scope.normalizeParameters document).at? entry = value' at changed
  cases changed with
  | some change =>
    rename_i after
    rw [Option.bind_some]
    cases change with
    | reference isReference => simp [noReference] at isReference
    | malformed fault failed => simp [read] at failed
    | parameter other _ _ read' rewritten =>
      obtain rfl := Except.ok.inj (read.symm.trans read')
      obtain ⟨members', rfl⟩ := rewritten.object
      have written : Keyed.get? members' "schema" = _ := rewritten.schema
      rw [reference?_cons, step?, written]
      cases flat : (raw.flatten ctx).schema <;> simp_all [isNull]

/-- Every other reference stays. -/
theorem reference?_of_not_drops (stands : document.reference? place = some reference)
    (keeps : ¬ scope.Drops document place) :
    (scope.normalizeParameters document).reference? place = some reference := by
  have frame := scope.frame_normalizeParameters document
  have text := reference?_eq_some_iff.mp stands
  by_cases inEntry : ∃ entry ctx, entry <+: place ++ [.member "$ref"] ∧ scope.contextAt? document entry = some ctx
  · obtain ⟨entry, ctx, isPrefix, here⟩ := inEntry
    have changed := frame.inside entry ctx here
    rcases List.prefix_concat_iff.mp isPrefix with rfl | ⟨rest, rfl⟩
    · rw [text] at changed
      rw [reference?_eq_some_iff]
      generalize (scope.normalizeParameters document).at? (place ++ [.member "$ref"]) = value' at changed
      cases changed with
      | some change =>
        cases change with
        | reference isReference => rfl
        | malformed fault failed => rfl
        | parameter raw after noReference read rewritten =>
          obtain ⟨members, isObject, -⟩ := RawParameter.of_ofDocument read
          cases isObject
    · rw [reference?_append] at stands ⊢
      obtain ⟨value, present, inside⟩ := Option.bind_eq_some_iff.mp stands
      rw [present] at changed
      generalize kept : (scope.normalizeParameters document).at? entry = value' at changed
      cases changed with
      | some change =>
        rw [Option.bind_some]
        cases change with
        | reference isReference => exact inside
        | malformed fault failed => exact inside
        | parameter raw after noReference read rewritten =>
          rcases reference?_rewritten noReference read rewritten inside with ⟨below, rfl, same⟩ | same
          · cases flat : (raw.flatten ctx).schema.reference? below with
            | none =>
              have inline := inlineParameter?_eq_some_iff.mpr ⟨noReference, read⟩
              exact absurd ⟨entry, below, ctx, raw, rfl, here, by rw [present, Option.bind_some, inline], flat⟩ keeps
            | some other =>
              have written := (reference?_schema read below).trans inside
              rw [← same, flat, reference?_flatten ctx written flat]
          · exact same
  · have outside := frame.outside (place ++ [.member "$ref"]) fun ancestor isPrefix => by
      refine Option.eq_none_iff_forall_ne_some.mpr fun ctx here => inEntry ⟨ancestor, ctx, isPrefix, here⟩
    rw [text] at outside
    obtain ⟨value, present, same⟩ := Option.map_eq_some_iff.mp outside
    rw [reference?_eq_some_iff, present, outline_eq_str_iff.mp same]

end NormalizeScope

section Moving

variable {document : Document} {schemas : Keyed Document} {place : List Step} {reference : String}

theorem reference?_renameReferences (renames : Keyed String) (document : Document) (place : List Step) :
    (renameReferences renames document).reference? place =
      (document.reference? place).map (followRename renames) := by
  have outlined (value : Document) : value.outline.text? = value.text? := by cases value <;> rfl
  have followed (value : Document) : (followedAt renames (place ++ [.member "$ref"]) value).text? =
      value.text?.map (followRename renames) := by
    unfold followedAt
    rw [List.getLast?_concat]
    cases value <;> rfl
  have texts := congrArg (Option.bind · text?) (at?_renameReferences renames document (place ++ [.member "$ref"]))
  simp only [Option.bind_map, Function.comp_def, outlined, followed] at texts
  rw [reference?, reference?, texts]
  cases document.at? (place ++ [.member "$ref"]) <;> rfl

/-- The place of what stands in the schemas, under their new names. -/
def movedTo (renames : Keyed String) : List Step → List Step
  | .member "components" :: .member "schemas" :: .member name :: rest =>
    .member "components" :: .member "schemas" :: .member (newName renames name) :: rest
  | place => place

theorem movedTo_of_outside {renames : Keyed String}
    (outside : ∀ name rest, place ≠ .member "components" :: .member "schemas" :: .member name :: rest) :
    movedTo renames place = place := by
  unfold movedTo
  split
  · rename_i name rest
    exact absurd rfl (outside name rest)
  · rfl

theorem reference?_moveSchemas_of_outside {renames : Keyed String}
    (outside : ∀ rest, place ≠ .member "components" :: .member "schemas" :: rest) :
    (moveSchemas renames document).reference? place = document.reference? place := by
  refine reference?_mapMember (by decide) fun rest inComponents components => ?_
  refine reference?_mapMember (by decide) fun below inSchemas => ?_
  exact absurd (by rw [inComponents, inSchemas]) (outside below)

/-- The schemas of a document, after they moved. -/
theorem schemaTable?_moveSchemas (ordered : document.Ordered)
    (table : schemaTable? document = some (.obj schemas)) :
    schemaTable? (moveSchemas (renameSchemas schemas).2 document) = some (.obj (renameSchemas schemas).1) := by
  obtain ⟨components, present, inside⟩ := Option.bind_eq_some_iff.mp table
  rw [schemaTable?, moveSchemas, get?_mapMember, if_pos rfl, present, Option.map_some, Option.bind_some,
    get?_mapMember, if_pos rfl, inside, renameSchemas_eq_ofList ((ordered.get? present).get? inside)]
  rfl

theorem reference?_schemas (document : Document) (place : List Step) :
    document.reference? (.member "components" :: .member "schemas" :: place) =
      (schemaTable? document).bind (·.reference? place) := by
  rw [reference?_cons, schemaTable?, Option.bind_assoc, step?_member]
  simp only [reference?_cons, step?_member]

theorem componentSchemas_of_table (table : schemaTable? document = some (.obj schemas)) :
    componentSchemas document = schemas := by
  have listed : componentSchemas document = ((schemaTable? document).bind members?).getD [] := rfl
  rw [listed, table]
  rfl

theorem schemaTable?_renameReferences (renames : Keyed String) (document : Document) :
    schemaTable? (renameReferences renames document) = (schemaTable? document).map (renameReferences renames) := by
  rw [schemaTable?, get?_renameReferences_of_ne _ _ (by decide), schemaTable?]
  cases document.get? "components" with
  | none => rfl
  | some components => exact get?_renameReferences_of_ne renames "schemas" (by decide) components

/-- A reference that stands in a document stands in the one with canonical names, where its schema moved if it
is inside of one, and follows the schema that it names. -/
theorem reference?_canonicalizeSchemas (ordered : document.Ordered)
    (table : schemaTable? document = some (.obj schemas)) (stands : document.reference? place = some reference) :
    (canonicalizeSchemas document).1.reference? (movedTo (canonicalizeSchemas document).2 place) =
      some (followRename (canonicalizeSchemas document).2 reference) := by
  have sorted := sorted_of_schemaTable? ordered table
  have moved := schemaTable?_moveSchemas ordered table
  rw [canonicalizeSchemas_eq ordered, reference?_renameReferences, snd_canonicalizeSchemas,
    componentSchemas_of_table table]
  refine congrArg (Option.map _) (?_ : _ = some reference)
  by_cases inside : ∃ rest, place = .member "components" :: .member "schemas" :: rest
  · obtain ⟨rest, rfl⟩ := inside
    rw [reference?_schemas, table, Option.bind_some] at stands
    cases rest with
    | nil =>
      -- The table itself may hold a reference, as if it were a schema.
      rw [movedTo_of_outside (by simp), reference?_schemas, moved, Option.bind_some, reference?_nil]
      rw [reference?_nil] at stands
      exact textAt?_renameSchemas sorted stands
    | cons step rest =>
      rw [reference?_cons] at stands
      obtain ⟨body, found, here⟩ := Option.bind_eq_some_iff.mp stands
      cases step with
      | item position => cases found
      | member name =>
        have arrived := (get?_renameSchemas_eq_some_iff sorted).mpr ⟨name, rfl, found⟩
        rw [movedTo, reference?_schemas, moved, Option.bind_some, reference?_cons, step?, arrived,
          Option.bind_some, here]
  · have outside : ∀ rest, place ≠ .member "components" :: .member "schemas" :: rest :=
      fun rest same => inside ⟨rest, same⟩
    rw [movedTo_of_outside fun name rest => outside (.member name :: rest),
      reference?_moveSchemas_of_outside outside, stands]

/-- Schemas under their new names: no two are merged and none is lost, and inside of them only references
follow. -/
structure KeepsSchemas (renames : Keyed String) (before after : Keyed Document) : Prop where
  /-- Different schemas have different new names. -/
  injective : ∀ name ∈ before.keys, ∀ other ∈ before.keys,
    newName renames name = newName renames other → name = other
  /-- The new names are the names afterwards. -/
  keys : ∀ key, key ∈ after.keys ↔ ∃ name ∈ before.keys, newName renames name = key
  /-- A schema is under its new name. At every place a text under `$ref` follows, and all else stays. -/
  bodies : ∀ name body, before.get? name = some body →
    ∃ body', after.get? (newName renames name) = some body' ∧
      ∀ place, (body'.at? place).map outline =
        (body.at? place).map (followedAt renames (.member (newName renames name) :: place))

theorem at?_renameMember (renames : Keyed String) (key : String) (value : Document) (place : List Step) :
    ((renameMember renames key value).at? place).map outline =
      (value.at? place).map (followedAt renames (.member key :: place)) := by
  have single := at?_renameReferences renames (.obj [(key, value)]) (.member key :: place)
  rwa [renameReferences_obj, at?_cons, at?_cons, step?, step?, List.map_singleton, Keyed.get?_cons_self,
    Keyed.get?_cons_self] at single

theorem keepsSchemas_canonicalizeSchemas (ordered : document.Ordered)
    (table : schemaTable? document = some (.obj schemas)) :
    ∃ schemas', schemaTable? (canonicalizeSchemas document).1 = some (.obj schemas') ∧
      KeepsSchemas (canonicalizeSchemas document).2 schemas schemas' := by
  have sorted := sorted_of_schemaTable? ordered table
  have tracked := tracked_renameSchemas sorted
  rw [canonicalizeSchemas_eq ordered, schemaTable?_renameReferences, snd_canonicalizeSchemas,
    componentSchemas_of_table table, schemaTable?_moveSchemas ordered table, Option.map_some,
    renameReferences_obj]
  refine ⟨_, rfl, tracked.injective, fun key => ?_, fun name body found => ?_⟩
  · rw [Keyed.keys, List.map_map]
    change key ∈ (renameSchemas schemas).1.keys ↔ _
    refine ⟨tracked.origin key, ?_⟩
    rintro ⟨name, member, rfl⟩
    exact tracked.mem_keys member
  · have arrived := (get?_renameSchemas_eq_some_iff sorted).mpr ⟨name, rfl, found⟩
    refine ⟨renameMember (renameSchemas schemas).2 (newName (renameSchemas schemas).2 name) body, ?_, ?_⟩
    · rw [Keyed.get?_map, arrived]
      rfl
    · exact at?_renameMember _ _ body

end Moving

/-- Renaming component schemas loses and merges none: they are under different new names, and inside of them
only references change. Every reference to a schema becomes one to its new name, in one step for all of them,
unless flattening takes it out of the schema of a parameter entry; then it is gone. -/
theorem keepsSchemas_normalizeDocument (document : Document) (schema : Schema) (registry : Registry)
    (basePath : Option String) (schemas : Keyed Document) (ordered : document.Ordered)
    (table : schemaTable? document = some (.obj schemas)) :
    let after := (normalizeDocument document schema registry basePath).1
    let renames := (normalizeDocument document schema registry basePath).2.renamedSchemas
    (∃ schemas', schemaTable? after = some (.obj schemas') ∧ KeepsSchemas renames schemas schemas') ∧
      ∀ place name, document.reference? place = some (schemaReference ++ name) →
        ((scopeOf document schema registry basePath).Drops document place →
          after.reference? (movedTo renames place) = none) ∧
        (¬ (scopeOf document schema registry basePath).Drops document place →
          after.reference? (movedTo renames place) = some (schemaReference ++ newName renames name)) := by
  intro after renames
  let scope := scopeOf document schema registry basePath
  have ordered' := scope.ordered_normalizeParameters ordered
  have table' : schemaTable? (scope.normalizeParameters document) = some (.obj schemas) := by
    rw [schemaTable?_normalizeParameters, table]
  refine ⟨keepsSchemas_canonicalizeSchemas ordered' table', fun place name stands => ⟨fun drops => ?_, fun keeps => ?_⟩⟩
  · have final : after = (canonicalizeSchemas (scope.normalizeParameters document)).1 := rfl
    rw [movedTo_of_outside fun name rest => drops.outside (.member name :: rest), final,
      canonicalizeSchemas_eq ordered', reference?_renameReferences,
      reference?_moveSchemas_of_outside drops.outside, scope.reference?_of_drops drops, Option.map_none]
  · have kept := scope.reference?_of_not_drops stands keeps
    rw [← followRename_schemaReference]
    exact reference?_canonicalizeSchemas ordered' table' kept

/-- A document with a schema whose new name is free only after another one moved. They refer to each other, and
a list of a parameter refers to one of them. -/
def chainDocument : Document :=
  .obj [("components", .obj [
    ("parameters", .obj [("Ids", .obj [("in", .str "query"), ("name", .str "id_in"),
      ("schema", .obj [("items", .obj [("$ref", .str (schemaReference ++ "a_b"))]), ("type", .str "array")])])]),
    ("schemas", .obj [
      ("AB", .obj [("$ref", .str (schemaReference ++ "a_b"))]),
      ("a_b", .obj [("$ref", .str (schemaReference ++ "AB"))])])])]

/-- The place of a schema of the document. -/
def schemaPlace (name : String) : List Step :=
  [.member "components", .member "schemas", .member name]

/-- The place of the items of the list. -/
def listPlace : List Step :=
  [.member "components", .member "parameters", .member "Ids", .member "schema", .member "items"]

/-- Both schemas are kept and refer to each other under their new names. The list becomes a text. -/
theorem keepsSchemas_chainDocument :
    chainDocument.Ordered ∧
    (normalizeDocument chainDocument .empty .standard none).2.renamedSchemas = [("AB", "Ab"), ("a_b", "AB")] ∧
    (∃ schemas schemas', schemaTable? chainDocument = some (.obj schemas) ∧
      schemaTable? (normalizeDocument chainDocument .empty .standard none).1 = some (.obj schemas') ∧
      KeepsSchemas [("AB", "Ab"), ("a_b", "AB")] schemas schemas') ∧
    (normalizeDocument chainDocument .empty .standard none).1.reference? (schemaPlace "Ab") =
      some (schemaReference ++ "AB") ∧
    (normalizeDocument chainDocument .empty .standard none).1.reference? (schemaPlace "AB") =
      some (schemaReference ++ "Ab") ∧
    (normalizeDocument chainDocument .empty .standard none).1.reference? listPlace = none := by
  have ordered : chainDocument.Ordered := by decide
  have renamed : (normalizeDocument chainDocument .empty .standard none).2.renamedSchemas =
      [("AB", "Ab"), ("a_b", "AB")] := by decide +kernel
  obtain ⟨⟨schemas', table, keeps⟩, follows⟩ := keepsSchemas_normalizeDocument chainDocument .empty .standard none
    [("AB", .obj [("$ref", .str (schemaReference ++ "a_b"))]),
      ("a_b", .obj [("$ref", .str (schemaReference ++ "AB"))])] ordered rfl
  rw [renamed] at keeps
  have stays (name : String) :
      ¬ (scopeOf chainDocument .empty .standard none).Drops chainDocument (schemaPlace name) :=
    fun drops => drops.outside [.member name] rfl
  have first := (follows (schemaPlace "AB") "a_b" (by decide +kernel)).2 (stays "AB")
  have second := (follows (schemaPlace "a_b") "AB" (by decide +kernel)).2 (stays "a_b")
  rw [renamed] at first second
  have drops : (scopeOf chainDocument .empty .standard none).Drops chainDocument listPlace :=
    ⟨listPlace.take 3, [.member "items"], _, _, rfl, rfl, rfl, rfl⟩
  have gone := (follows listPlace "a_b" (by decide +kernel)).1 drops
  exact ⟨ordered, renamed, ⟨_, schemas', rfl, table, keeps⟩, first, second, gone⟩

/-- The list becomes a text, and its reference is gone. -/
theorem reference?_listPlace :
    chainDocument.reference? listPlace = some (schemaReference ++ "a_b") ∧
    (∃ schemas, schemaTable? chainDocument = some (.obj schemas) ∧ "a_b" ∈ Keyed.keys schemas) ∧
    (normalizeDocument chainDocument .empty .standard none).1.reference? listPlace = none :=
  ⟨by decide +kernel, ⟨_, rfl, by decide⟩, by decide +kernel⟩

end Rest

end QuerySynth
