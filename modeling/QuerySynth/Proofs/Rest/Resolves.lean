import QuerySynth.Proofs.Rest.BasePath
import QuerySynth.Proofs.Rest.Ordered
import QuerySynth.Proofs.Rest.Places
import QuerySynth.Proofs.Rest.Renamed
import QuerySynth.Proofs.Rest.Report

/-! # References that stay alive

A reference to a component schema follows the schema when it names the schema as a whole and without
escapes. A reference into a schema is left as it is, so it goes on to resolve only under the name that the
schema had.
-/

namespace QuerySynth.Rest

open Document

section Following

variable (renames : Keyed String)

/-- A position is no key of a reference, so every child has followed as a member does. -/
theorem child?_renameReferences_eq_map (document : Document) (step : String) :
    (renameReferences renames document).child? step = (document.child? step).map (renameMember renames step) := by
  by_cases plain : step = "$ref"
  · subst plain
    have word : position? "$ref" = none := by decide
    rw [child?_eq_get? _ word, get?_renameReferences, child?_eq_get? _ word]
  · rw [child?_renameReferences renames plain, funext (renameMember_of_ne renames plain)]

/-- The references of a document follow, each at its place. -/
theorem referenceAt?_renameReferences (document : Document) (place : List String) :
    (renameReferences renames document).referenceAt? place =
      (document.referenceAt? place).map (followRename renames) := by
  induction place generalizing document with
  | nil =>
    rw [referenceAt?_nil, textAt?, get?_renameReferences, referenceAt?_nil, textAt?]
    cases document.get? "$ref" with
    | none => rfl
    | some value =>
      rw [Option.map_some, Option.bind_some, Option.bind_some]
      cases value with
      | str reference => rfl
      | _ => exact text?_renameReferences renames _
  | cons step rest ih =>
    rw [referenceAt?_cons, child?_renameReferences_eq_map, referenceAt?_cons]
    cases document.child? step with
    | none => rfl
    | some value =>
      rw [Option.map_some, Option.bind_some, Option.bind_some]
      rcases renameMember_eq_or renames step value with ⟨old, new, rfl, same⟩ | same
      · rw [same, referenceAt?_str, referenceAt?_str, Option.map_none]
      · rw [same, ih]

/-- The same steps lead somewhere. -/
theorem isSome_follow?_renameReferences (document : Document) (steps : List String) :
    ((renameReferences renames document).follow? steps).isSome = (document.follow? steps).isSome := by
  induction steps generalizing document with
  | nil => rfl
  | cons step rest ih =>
    rw [follow?_cons, child?_renameReferences_eq_map, follow?_cons]
    cases document.child? step with
    | none => rfl
    | some value =>
      rw [Option.map_some, Option.bind_some, Option.bind_some]
      rcases renameMember_eq_or renames step value with ⟨old, new, rfl, same⟩ | same
      · rw [same]
        cases rest <;> rfl
      · rw [same, ih]

end Following

/-- What stands for the component schemas in a document. -/
def schemaTable? (document : Document) : Option Document :=
  (document.get? "components").bind (·.get? "schemas")

theorem follow?_schemas (document : Document) (steps : List String) :
    document.follow? ("components" :: "schemas" :: steps) = (schemaTable? document).bind (·.follow? steps) := by
  have inside (components : Document) : components.child? "schemas" = components.get? "schemas" :=
    child?_eq_get? components (by decide)
  rw [follow?_cons, child?_eq_get? document (by decide), schemaTable?, Option.bind_assoc]
  simp only [follow?_cons, inside]

theorem referenceAt?_schemas (document : Document) (place : List String) :
    document.referenceAt? ("components" :: "schemas" :: place) =
      (schemaTable? document).bind (·.referenceAt? place) := by
  rw [referenceAt?, follow?_schemas, Option.bind_assoc]
  rfl

/-- A reference to a component schema is resolved by steps into the table. -/
theorem resolve?_schemaReference (document : Document) (name : String) :
    document.resolve? (schemaReference ++ name) =
      document.follow? ("components" :: "schemas" :: stepsOf name) := by
  have written : (schemaReference ++ name).toList =
      '#' :: '/' :: ("components".toList ++ '/' :: ("schemas".toList ++ '/' :: name.toList)) := by
    rw [String.toList_append]
    rfl
  have first : stepText "components".toList = "components" := by decide
  have second : stepText "schemas".toList = "schemas" := by decide
  have noSlash : '/' ∉ "components".toList ∧ '/' ∉ "schemas".toList := by decide
  rw [resolve?_eq_follow? document written, stepsOf, String.toList_ofList, Text.splitOn_append_cons,
    Text.splitOn_append_cons, Text.splitOn_of_notMem noSlash.1, Text.splitOn_of_notMem noSlash.2]
  simp only [List.map_cons, first, second, List.cons_append, List.nil_append]
  rfl

theorem schemaTable?_normalizeParameters (scope : NormalizeScope) (document : Document) :
    schemaTable? (scope.normalizeParameters document) = schemaTable? document := by
  rw [schemaTable?, NormalizeScope.normalizeParameters, Document.get?_mapMember, if_pos rfl,
    Document.get?_mapMember, if_neg (by decide), schemaTable?]
  cases document.get? "components" with
  | none => rfl
  | some components =>
    rw [Option.map_some, Option.bind_some, Option.bind_some, Document.get?_mapMember, if_neg (by decide)]

section Canonical

variable {document : Document}

/-- No schema is renamed, or there is a table of schemas and the renamed one takes its place. -/
theorem canonicalizeSchemas_cases (document : Document) :
    canonicalizeSchemas document = (document, []) ∨
      ∃ schemas, schemaTable? document = some (.obj schemas) ∧
        (canonicalizeSchemas document).2 = (renameSchemas schemas).2 ∧
        (canonicalizeSchemas document).1 = renameReferences (renameSchemas schemas).2
          (document.mapMember "components" fun components =>
            components.mapMember "schemas" fun _ => .obj (renameSchemas schemas).1) := by
  by_cases none : (canonicalizeSchemas document).2 = []
  · exact .inl (canonicalizeSchemas_of_nil none)
  right
  rw [snd_canonicalizeSchemas] at none ⊢
  have table : schemaTable? document = some (.obj (componentSchemas document)) := by
    have listed : componentSchemas document = ((schemaTable? document).bind members?).getD [] := rfl
    cases present : schemaTable? document with
    | none =>
      rw [listed, present] at none
      exact absurd rfl none
    | some table =>
      cases table with
      | obj members => rw [listed, present]; rfl
      | _ =>
        rw [listed, present] at none
        exact absurd rfl none
  refine ⟨componentSchemas document, table, rfl, ?_⟩
  rw [canonicalizeSchemas]
  dsimp only
  rw [if_neg (by rwa [List.isEmpty_iff])]

/-- The table that takes the place of another one. -/
theorem schemaTable?_mapMember {table : Document} (present : schemaTable? document = some table)
    (replaced : Document) :
    schemaTable? (document.mapMember "components" fun components =>
      components.mapMember "schemas" fun _ => replaced) = some replaced := by
  rw [schemaTable?] at present ⊢
  obtain ⟨components, found, inside⟩ := Option.bind_eq_some_iff.mp present
  rw [Document.get?_mapMember, if_pos rfl, found, Option.map_some, Option.bind_some, Document.get?_mapMember,
    if_pos rfl, inside, Option.map_some]

/-- The place of what stands in the schemas, after the renamings. -/
def movedPlace (renames : Keyed String) : List String → List String
  | "components" :: "schemas" :: name :: rest => "components" :: "schemas" :: newName renames name :: rest
  | place => place

theorem movedPlace_of_outside {renames : Keyed String} {place : List String}
    (outside : ∀ name rest, place ≠ "components" :: "schemas" :: name :: rest) :
    movedPlace renames place = place := by
  unfold movedPlace
  split
  · rename_i name rest
    exact absurd rfl (outside name rest)
  · rfl

theorem movedPlace_nil (place : List String) : movedPlace [] place = place := by
  unfold movedPlace
  split <;> rfl

theorem child?_mapMember_of_ne {key step : String} (other : step ≠ key) (f : Document → Document)
    (document : Document) : (document.mapMember key f).child? step = document.child? step := by
  cases document with
  | obj members =>
    have found := Document.get?_mapMember key step f (.obj members)
    rwa [if_neg other] at found
  | _ => rfl

/-- Replacing the table leaves the references outside of it. -/
theorem referenceAt?_mapMember_schemas {place : List String}
    (outside : ∀ rest, place ≠ "components" :: "schemas" :: rest) (f : Document → Document)
    (document : Document) :
    (document.mapMember "components" fun components => components.mapMember "schemas" f).referenceAt? place =
      document.referenceAt? place := by
  cases place with
  | nil => exact textAt?_mapMember (by decide) _ document
  | cons step below =>
    by_cases isComponents : step = "components"
    · subst isComponents
      rw [referenceAt?_cons, child?_eq_get? _ (by decide), Document.get?_mapMember, if_pos rfl,
        referenceAt?_cons, child?_eq_get? document (by decide)]
      cases document.get? "components" with
      | none => rfl
      | some components =>
        rw [Option.map_some, Option.bind_some, Option.bind_some]
        cases below with
        | nil => exact textAt?_mapMember (by decide) _ components
        | cons next rest =>
          have other : next ≠ "schemas" := by
            rintro rfl
            exact outside rest rfl
          rw [referenceAt?_cons, child?_mapMember_of_ne other, referenceAt?_cons]
    · rw [referenceAt?_cons, child?_mapMember_of_ne isComponents, referenceAt?_cons]

/-- The schemas of an ordered document are a sorted table. -/
theorem sorted_of_schemaTable? {schemas : Keyed Document} (ordered : document.Ordered)
    (table : schemaTable? document = some (.obj schemas)) : schemas.Sorted := by
  obtain ⟨components, found, inside⟩ := Option.bind_eq_some_iff.mp table
  exact (ordered_obj.mp ((ordered.get? found).get? inside)).1

/-- No schema is renamed from or to the key of a reference, so a table keeps its own. -/
theorem textAt?_renameSchemas {schemas : Keyed Document} (sorted : schemas.Sorted) {reference : String}
    (stands : (Document.obj schemas).textAt? "$ref" = some reference) :
    (Document.obj (renameSchemas schemas).1).textAt? "$ref" = some reference := by
  obtain ⟨value, found, text⟩ := Option.bind_eq_some_iff.mp stands
  have canonical : canonicalName "$ref" = "$ref" := by decide +kernel
  have stays := newName_of_canonical sorted canonical
  have moved := (get?_renameSchemas_eq_some_iff sorted).mpr ⟨"$ref", stays, found⟩
  rw [textAt?, Document.get?, moved, Option.bind_some, text]

/-- A reference that stands in a document stands in the canonical one, where its schema moved if it is
inside of one, and follows the schema that it names. -/
theorem referenceAt?_canonicalizeSchemas (ordered : document.Ordered) {place : List String} {reference : String}
    (stands : document.referenceAt? place = some reference) :
    (canonicalizeSchemas document).1.referenceAt? (movedPlace (canonicalizeSchemas document).2 place) =
      some (followRename (canonicalizeSchemas document).2 reference) := by
  rcases canonicalizeSchemas_cases document with same | ⟨schemas, table, renames, moved⟩
  · rw [same, movedPlace_nil, followRename_nil, stands]
  have sorted := sorted_of_schemaTable? ordered table
  rw [moved, renames, referenceAt?_renameReferences, Option.map_eq_some_iff]
  refine ⟨reference, ?_, rfl⟩
  by_cases inTable : ∃ rest, place = "components" :: "schemas" :: rest
  · obtain ⟨rest, rfl⟩ := inTable
    rw [referenceAt?_schemas, table, Option.bind_some] at stands
    cases rest with
    | nil =>
      -- The table itself may hold a reference, as if it were a schema.
      rw [movedPlace_of_outside (by simp), referenceAt?_schemas, schemaTable?_mapMember table, Option.bind_some]
      exact textAt?_renameSchemas sorted stands
    | cons name rest =>
      obtain ⟨body, found, inside⟩ := Option.bind_eq_some_iff.mp (referenceAt?_cons _ name rest ▸ stands)
      have arrived := (get?_renameSchemas_eq_some_iff sorted).mpr ⟨name, rfl, found⟩
      rw [movedPlace, referenceAt?_schemas, schemaTable?_mapMember table, Option.bind_some, referenceAt?_cons,
        child?, arrived, Option.bind_some, inside]
  · have outside : ∀ rest, place ≠ "components" :: "schemas" :: rest := fun rest same => inTable ⟨rest, same⟩
    rw [movedPlace_of_outside fun name rest => outside (name :: rest),
      referenceAt?_mapMember_schemas outside, stands]

/-- Outside of the schemas no reference is new. -/
theorem referenceAt?_canonicalizeSchemas_of_outside {place : List String}
    (outside : ∀ rest, place ≠ "components" :: "schemas" :: rest) (gone : document.referenceAt? place = none) :
    (canonicalizeSchemas document).1.referenceAt? place = none := by
  rcases canonicalizeSchemas_cases document with same | ⟨schemas, -, -, moved⟩
  · rw [same, gone]
  · rw [moved, referenceAt?_renameReferences, referenceAt?_mapMember_schemas outside, gone, Option.map_none]

/-- Steps lead into the schema of a new name exactly when they lead into a schema that got this name. -/
theorem isSome_follow?_canonicalizeSchemas (ordered : document.Ordered) (key : String) (steps : List String) :
    ((canonicalizeSchemas document).1.follow? ("components" :: "schemas" :: key :: steps)).isSome = true ↔
      ∃ name, newName (canonicalizeSchemas document).2 name = key ∧
        (document.follow? ("components" :: "schemas" :: name :: steps)).isSome = true := by
  rcases canonicalizeSchemas_cases document with same | ⟨schemas, table, renames, moved⟩
  · rw [same]
    simp only [newName_nil, exists_eq_left]
  have sorted := sorted_of_schemaTable? ordered table
  have inTable (table : Keyed Document) (key : String) :
      ((Document.obj table).follow? (key :: steps)).isSome = true ↔
        ∃ body, table.get? key = some body ∧ (body.follow? steps).isSome = true := by
    simp only [Option.isSome_iff_exists, follow?_cons, child?, Option.bind_eq_some_iff]
    exact exists_comm.trans (exists_congr fun body => exists_and_left)
  rw [moved, isSome_follow?_renameReferences, follow?_schemas, schemaTable?_mapMember table, Option.bind_some,
    inTable, renames]
  simp only [follow?_schemas, table, Option.bind_some, inTable, get?_renameSchemas_eq_some_iff sorted]
  constructor
  · rintro ⟨body, ⟨name, new, found⟩, reached⟩
    exact ⟨name, new, body, found, reached⟩
  · rintro ⟨name, new, body, found, reached⟩
    exact ⟨body, ⟨name, new, found⟩, reached⟩

end Canonical

theorem InParameterSchema.outside {place : List String} (inside : InParameterSchema place) (rest : List String) :
    place ≠ "components" :: "schemas" :: rest := by
  intro same
  cases inside <;> simp at same

section Documents

variable {document : Document} {place : List String} {pointer : String}

/-- The new name of a schema is one step, if the old one is. -/
theorem stepsOf_newName (ordered : document.Ordered) (schema : Schema) (registry : Registry)
    (basePath : Option String) (noSlash : '/' ∉ pointer.toList) (noTilde : '~' ∉ pointer.toList) :
    stepsOf (newName (renamesOf document schema registry basePath) pointer) =
      [newName (renamesOf document schema registry basePath) pointer] := by
  have sorted : (componentSchemas document).Sorted := (ordered_obj.mp (ordered_componentMembers ordered _)).1
  rw [renamesOf_eq]
  apply stepsOf_of_notMem
  · exact fun inside => noSlash (mem_of_mem_newName sorted (by decide) inside)
  · exact fun inside => noTilde (mem_of_mem_newName sorted (by decide) inside)

/-- A reference stands in a normal form where it stood, or the schema of a parameter entry lost it. -/
theorem referenceAt?_normalizeDocument (schema : Schema) (registry : Registry) (basePath : Option String)
    (ordered : document.Ordered) {reference : String} (stands : document.referenceAt? place = some reference) :
    (normalizeDocument document schema registry basePath).1.referenceAt?
        (movedPlace (renamesOf document schema registry basePath) place) =
          some (followRename (renamesOf document schema registry basePath) reference) ∨
      (InParameterSchema place ∧ (normalizeDocument document schema registry basePath).1.referenceAt?
        (movedPlace (renamesOf document schema registry basePath) place) = none) := by
  have kept := (scopeOf document schema registry basePath).keepsReferences_normalizeParameters document
  have ordered' := NormalizeScope.ordered_normalizeParameters (scopeOf document schema registry basePath) ordered
  rcases kept.reference place with same | ⟨inside, gone⟩
  · rw [stands] at same
    exact .inl (referenceAt?_canonicalizeSchemas ordered' same)
  · refine .inr ⟨inside, ?_⟩
    rw [movedPlace_of_outside fun name rest => inside.outside (name :: rest)]
    exact referenceAt?_canonicalizeSchemas_of_outside inside.outside gone

/-- A reference resolves in a normal form exactly when its steps lead into a schema that got the name of the
first one. -/
theorem isSome_resolve?_normalizeDocument (schema : Schema) (registry : Registry) (basePath : Option String)
    (ordered : document.Ordered) {step : String} {steps : List String} (written : stepsOf pointer = step :: steps) :
    ((normalizeDocument document schema registry basePath).1.resolve? (schemaReference ++ pointer)).isSome = true ↔
      ∃ name, newName (renamesOf document schema registry basePath) name = step ∧
        (document.follow? ("components" :: "schemas" :: name :: steps)).isSome = true := by
  have ordered' := NormalizeScope.ordered_normalizeParameters (scopeOf document schema registry basePath) ordered
  have table := schemaTable?_normalizeParameters (scopeOf document schema registry basePath) document
  rw [resolve?_schemaReference, written]
  refine (isSome_follow?_canonicalizeSchemas ordered' step steps).trans ?_
  simp only [follow?_schemas, table]
  rfl

/-- A reference to component schemas stands in a normal form where it stood, unless the schema of a parameter
entry lost it, and has followed the schema that it names as a whole. It resolves exactly when its steps lead
into a schema that got the name of the first one. That is so for every schema that is named as a whole and
without escapes, and for every schema that kept its name. -/
theorem resolve?_normalizeDocument (schema : Schema) (registry : Registry) (basePath : Option String)
    (ordered : document.Ordered) (stands : document.referenceAt? place = some (schemaReference ++ pointer))
    (resolves : (document.resolve? (schemaReference ++ pointer)).isSome = true) :
    let after := (normalizeDocument document schema registry basePath).1
    let renames := renamesOf document schema registry basePath
    let reference := schemaReference ++ newName renames pointer
    (after.referenceAt? (movedPlace renames place) = some reference ∨
      (InParameterSchema place ∧ after.referenceAt? (movedPlace renames place) = none)) ∧
    (∀ step steps, stepsOf (newName renames pointer) = step :: steps →
      ((after.resolve? reference).isSome = true ↔ ∃ name, newName renames name = step ∧
        (document.follow? ("components" :: "schemas" :: name :: steps)).isSome = true)) ∧
    ('/' ∉ pointer.toList → '~' ∉ pointer.toList → (after.resolve? reference).isSome = true) ∧
    (renames.get? pointer = none → (∀ step ∈ (stepsOf pointer).head?, renames.get? step = none) →
      (after.resolve? reference).isSome = true) := by
  intro after renames reference
  have alive (step : String) (steps : List String)
      (written : stepsOf (newName renames pointer) = step :: steps) :
      (after.resolve? reference).isSome = true ↔ ∃ name, newName renames name = step ∧
        (document.follow? ("components" :: "schemas" :: name :: steps)).isSome = true :=
    isSome_resolve?_normalizeDocument schema registry basePath ordered written
  have followed := referenceAt?_normalizeDocument schema registry basePath ordered stands
  rw [followRename_schemaReference] at followed
  rw [resolve?_schemaReference] at resolves
  refine ⟨followed, alive, fun noSlash noTilde => ?_, fun whole first => ?_⟩
  · rw [stepsOf_of_notMem noSlash noTilde] at resolves
    exact (alive _ [] (stepsOf_newName ordered schema registry basePath noSlash noTilde)).mpr
      ⟨pointer, rfl, resolves⟩
  · have stays {name : String} (none : renames.get? name = none) : newName renames name = name := by
      rw [newName, none, Option.getD_none]
    cases written : stepsOf pointer with
    | nil => exact absurd written (stepsOf_ne_nil pointer)
    | cons step steps =>
      rw [written] at first resolves
      exact (alive step steps (by rw [stays whole, written])).mpr ⟨step, stays (first step rfl), resolves⟩

end Documents

/-- A document with a schema that is renamed, and a reference to it or into it. -/
def linkDocument (pointer : String) : Document :=
  .obj [("components", .obj [("schemas", .obj [
    ("Last24h", .obj [("properties", .obj [("x", .obj [])])]),
    ("User", .obj [("$ref", .str (schemaReference ++ pointer))])])])]

/-- A reference to the schema follows it. -/
theorem resolve?_linkSchema :
    (linkDocument "Last24h").Ordered ∧
    renamesOf (linkDocument "Last24h") .empty .standard none = [("Last24h", "Last24H")] ∧
    (linkDocument "Last24h").referenceAt? ["components", "schemas", "User"] =
      some (schemaReference ++ "Last24h") ∧
    ((linkDocument "Last24h").resolve? (schemaReference ++ "Last24h")).isSome = true ∧
    ((normalizeDocument (linkDocument "Last24h") .empty .standard none).1.resolve? (schemaReference ++
      newName (renamesOf (linkDocument "Last24h") .empty .standard none) "Last24h")).isSome = true := by
  have ordered : (linkDocument "Last24h").Ordered := by decide
  have stands : (linkDocument "Last24h").referenceAt? ["components", "schemas", "User"] =
      some (schemaReference ++ "Last24h") := by decide +kernel
  have resolves : ((linkDocument "Last24h").resolve? (schemaReference ++ "Last24h")).isSome = true := by
    decide +kernel
  have alive := resolve?_normalizeDocument .empty .standard none ordered stands resolves
  exact ⟨ordered, by decide +kernel, stands, resolves, alive.2.2.1 (by decide) (by decide)⟩

/-- A reference into the schema stays as it is and leads nowhere. -/
theorem resolve?_linkProperty :
    (linkDocument "Last24h/properties/x").Ordered ∧
    (linkDocument "Last24h/properties/x").referenceAt? ["components", "schemas", "User"] =
      some (schemaReference ++ "Last24h/properties/x") ∧
    ((linkDocument "Last24h/properties/x").resolve? (schemaReference ++ "Last24h/properties/x")).isSome = true ∧
    (normalizeDocument (linkDocument "Last24h/properties/x") .empty .standard none).1.referenceAt?
      ["components", "schemas", "User"] = some (schemaReference ++ "Last24h/properties/x") ∧
    ((normalizeDocument (linkDocument "Last24h/properties/x") .empty .standard none).1.resolve?
      (schemaReference ++ "Last24h/properties/x")).isSome = false := by
  refine ⟨by decide, by decide +kernel, by decide +kernel, by decide +kernel, by decide +kernel⟩

end QuerySynth.Rest
