import Mathlib.Data.List.Nodup
import QuerySynth.Proofs.Document.Frame
import QuerySynth.Proofs.Rest.Resolves

/-! # Normal forms touch nothing else

A normal form rewrites the parameter entries of a document that are read as parameters, and leaves references,
malformed entries and everything outside of the entries alone. Then component schemas get their new names, and
the references that name one of them as a whole follow. The report lists these names.
-/

namespace QuerySynth.Rest

open Document

section Entries

variable {ctx : FlattenContext} {raw : RawParameter} {document : Document}

/-- Whether a member that is kept says something: a false flag and the group null do not. -/
def tells : String → Document → Bool
  | "required", .bool false => false
  | "x-required-group", .null => false
  | _, _ => true

/-- An object in normal form has the name, the description and the schema of the flattened parameter and its
location, and all other members of the entry that say something. -/
structure Rewritten (ctx : FlattenContext) (raw : RawParameter) (before after : Document) : Prop where
  object : ∃ members, after = .obj members
  name : after.get? "name" = some (.str (raw.flatten ctx).parameter.name)
  description : after.get? "description" = (raw.flatten ctx).parameter.description.map .str
  schema : after.get? "schema" = if (raw.flatten ctx).schema.isNull then none else some (raw.flatten ctx).schema
  location : after.get? "in" = some (.str raw.location.word)
  /-- A location that is a text stays. -/
  text : ∀ word, before.get? "in" = some (.str word) → after.get? "in" = before.get? "in"
  others : ∀ key ∉ ["name", "in", "description", "schema"], after.get? key = (before.get? key).filter (tells key)

/-- References and objects that are no parameters stay, parameters are rewritten. -/
inductive EntryChange (ctx : FlattenContext) (before : Document) : Document → Prop where
  | reference : (before.get? "$ref").isSome → EntryChange ctx before before
  | malformed (fault : ParameterFault) : RawParameter.ofDocument before = .error fault →
      EntryChange ctx before before
  | parameter (raw : RawParameter) (after : Document) : before.get? "$ref" = none →
      RawParameter.ofDocument before = .ok raw → Rewritten ctx raw before after → EntryChange ctx before after

theorem tells_of_ne {key : String} (required : key ≠ "required") (group : key ≠ "x-required-group")
    (value : Document) : tells key value = true := by
  unfold tells
  split
  · exact absurd rfl required
  · exact absurd rfl group
  · rfl

/-- Members that are not rewritten stay, as far as they say something. -/
theorem get?_toDocument_flattened (ctx : FlattenContext) (inline : inlineParameter? document = some raw)
    {key : String} (other : key ∉ ["name", "in", "description", "schema"]) :
    (flattened ctx raw).toDocument.get? key = (document.get? key).filter (tells key) := by
  have read := (inlineParameter?_eq_some_iff.mp inline).2
  by_cases required : key = "required"
  · subst required
    rw [RawParameter.get?_toDocument_of_mem _ (get?_extra_flattened ctx inline (.inl (by decide)))]
    rcases RawParameter.get?_required_of_ofDocument read with ⟨missing, isFalse⟩ | present
    · rw [missing, required_flattened, isFalse]
      rfl
    · rw [present, required_flattened]
      cases raw.required <;> rfl
  by_cases group : key = "x-required-group"
  · subst group
    rw [RawParameter.get?_toDocument_of_mem _ (get?_extra_flattened ctx inline (.inl (by decide)))]
    rcases RawParameter.get?_requiredGroup_of_ofDocument read with ⟨group, present, isSome⟩ | ⟨missing, isNone⟩
    · rw [present, requiredGroup_flattened, isSome]
      rfl
    · rw [requiredGroup_flattened, isNone]
      cases present : document.get? "x-required-group" with
      | none => rfl
      | some value =>
        rw [present, Option.getD_some] at missing
        rw [missing]
        rfl
  have unknown : key ∉ RawParameter.knownKeys := by
    simp only [RawParameter.knownKeys, List.mem_cons, List.not_mem_nil, or_false, not_or] at other ⊢
    exact ⟨other.1, other.2.1, other.2.2.1, required, other.2.2.2, group⟩
  rw [RawParameter.get?_toDocument_of_notMem unknown, extra_flattened,
    RawParameter.get?_extra_of_ofDocument read, if_neg unknown]
  cases document.get? key with
  | none => rfl
  | some value => exact (if_pos (tells_of_ne required group value)).symm

theorem rewritten_toDocument (ctx : FlattenContext) (inline : inlineParameter? document = some raw) :
    Rewritten ctx raw document (flattened ctx raw).toDocument := by
  have written {key : String} (known : key ∈ RawParameter.knownKeys) :=
    RawParameter.get?_toDocument_of_mem (flattened ctx raw) (get?_extra_flattened ctx inline (.inl known))
  have location : (flattened ctx raw).toDocument.get? "in" = some (.str raw.location.word) := by
    rw [written (by decide), location_flattened]
    rfl
  refine {
    object := ⟨_, rfl⟩
    name := ?_
    description := ?_
    schema := ?_
    location := location
    text := ?_
    others := fun key other => get?_toDocument_flattened ctx inline other }
  · rw [written (by decide)]
    rfl
  · rw [written (by decide), ← description_flattened]
    rfl
  · rw [written (by decide), ← schema_flattened]
    rfl
  · intro word text
    have located : document.textAt? "in" = some word := by
      rw [textAt?, text]
      rfl
    rw [location, text, RawParameter.textAt?_in_of_ofDocument (inlineParameter?_eq_some_iff.mp inline).2 located]

theorem entryChange_normalizeParameter (ctx : FlattenContext) (document : Document) :
    EntryChange ctx document (normalizeParameter ctx document) := by
  cases inline : inlineParameter? document with
  | some raw =>
    rw [normalizeParameter_of_inline inline]
    obtain ⟨noReference, read⟩ := inlineParameter?_eq_some_iff.mp inline
    exact .parameter raw _ noReference read (rewritten_toDocument ctx inline)
  | none =>
    rw [normalizeParameter_of_not_inline inline]
    rw [inlineParameter?] at inline
    split at inline
    · rename_i reference present
      exact .reference (by rw [present]; rfl)
    · cases read : RawParameter.ofDocument document with
      | error fault => exact .malformed fault read
      | ok raw =>
        rw [read] at inline
        cases inline

end Entries

/-- The items of a parameter list are entries. -/
def contextInList? (ctx : FlattenContext) : List Step → Option FlattenContext
  | [.item _] => some ctx
  | _ => none

namespace NormalizeScope

variable (scope : NormalizeScope)

/-- The entries of a path item are those of its parameter list and those of its operations' lists. -/
def contextInItem? (path : String) (item : Document) : List Step → Option FlattenContext
  | .member "parameters" :: place => contextInList? scope.plainContext place
  | .member method :: .member "parameters" :: place =>
    if operationKeys.contains method then
      (item.get? method).bind fun operation => contextInList? (scope.operationContext path item operation) place
    else none
  | _ => none

/-- What the entry at a place of a document is flattened by: entries are in path items and in the component
parameters. -/
def contextAt? (document : Document) : List Step → Option FlattenContext
  | [.member "components", .member "parameters", .member _] => some scope.plainContext
  | .member "paths" :: .member path :: place =>
    ((document.get? "paths").bind (·.get? path)).bind fun item => scope.contextInItem? path item place
  | _ => none

end NormalizeScope

theorem frame_normalizeList (ctx : FlattenContext) (list : Document) :
    Frame (contextInList? ctx) EntryChange list (normalizeList ctx list) := by
  cases list with
  | arr items =>
    exact .mapItems rfl fun position entry => .entry rfl (fun _ _ => rfl) (entryChange_normalizeParameter ctx entry)
  | _ =>
    refine .same fun place context here => ?_
    match place, here with
    | [.item position], _ => rfl

namespace NormalizeScope

variable (scope : NormalizeScope)

/-- A member of a path item has entries when it is an operation, and then in its parameter list. -/
theorem contextInItem?_of_ne (path : String) (item : Document) {key : String} (different : key ≠ "parameters")
    (place : List Step) :
    scope.contextInItem? path item (.member key :: place) =
      match place with
      | .member "parameters" :: rest =>
        if operationKeys.contains key then
          (item.get? key).bind fun operation => contextInList? (scope.operationContext path item operation) rest
        else none
      | _ => none := by
  rw [contextInItem?.eq_def]
  split
  · rename_i same
    simp only [List.cons.injEq, Step.member.injEq] at same
    exact absurd same.1 different
  · rename_i same
    simp only [List.cons.injEq, Step.member.injEq] at same
    obtain ⟨rfl, rfl⟩ := same
    rfl
  · rename_i noList
    split
    · exact absurd rfl (noList _ _)
    · rfl

theorem frame_normalizeMember (path : String) {item value : Document} {key : String}
    (present : item.get? key = some value) :
    Frame (fun place => scope.contextInItem? path item (.member key :: place)) EntryChange value
      (scope.normalizeMember path item key value) := by
  rw [normalizeMember]
  split
  · rename_i isOperation
    have different : key ≠ "parameters" := by
      rintro rfl
      revert isOperation
      decide
    have inList (place : List Step) :
        scope.contextInItem? path item (.member key :: .member "parameters" :: place) =
          contextInList? (scope.operationContext path item value) place := by
      rw [contextInItem?_of_ne scope path item different]
      change (if operationKeys.contains key then (item.get? key).bind fun operation =>
        contextInList? (scope.operationContext path item operation) place else none) = _
      rw [if_pos isOperation, present, Option.bind_some]
    refine .mapMember ?_ ?_ fun list => ?_
    · rw [contextInItem?_of_ne scope path item different]
    · intro step other rest
      rw [contextInItem?_of_ne scope path item different]
      split
      · rename_i same
        simp only [List.cons.injEq] at same
        exact absurd same.1 other
      · rfl
    · rw [funext inList]
      exact frame_normalizeList _ list
  · rename_i noOperation
    split
    · rename_i isParameters
      subst isParameters
      exact frame_normalizeList _ value
    · rename_i different
      refine .same fun place context here => ?_
      rw [contextInItem?_of_ne scope path item different] at here
      split at here
      · rw [if_neg noOperation] at here
        cases here
      · cases here

theorem frame_normalizeItem (path : String) (item : Document) :
    Frame (scope.contextInItem? path item) EntryChange item (scope.normalizeItem path item) := by
  cases item with
  | obj members =>
    refine .map (f := scope.normalizeMember path (.obj members)) rfl fun key value found => ?_
    have present : (Document.obj members).get? key = some value := found
    exact scope.frame_normalizeMember path present
  | _ =>
    refine .same fun place context here => ?_
    match place, here with
    | .member _ :: _, _ => rfl

/-- The component parameters are entries. -/
theorem frame_normalizeComponents (parameters : Document) :
    Frame (fun place => match place with | [.member _] => some scope.plainContext | _ => none) EntryChange parameters
      (scope.normalizeComponents parameters) := by
  cases parameters with
  | obj parameters =>
    exact .map (f := fun _ => normalizeParameter scope.plainContext) rfl fun name entry _ =>
      .entry rfl (fun _ _ => rfl) (entryChange_normalizeParameter _ entry)
  | _ =>
    refine .same fun place context here => ?_
    match place, here with
    | [.member _], _ => rfl

theorem normalizeParameters_obj (members : List (String × Document)) :
    scope.normalizeParameters (.obj members) = .obj (members.map fun (key, value) => (key,
      if key = "paths" then scope.normalizePaths value
      else if key = "components" then value.mapMember "parameters" scope.normalizeComponents else value)) := by
  rw [normalizeParameters, mapMember_obj, mapMember_obj, List.map_map]
  congr 1
  refine List.map_congr_left fun entry _ => ?_
  obtain ⟨key, value⟩ := entry
  by_cases paths : key = "paths"
  · simp [paths]
  · simp [paths]

theorem frame_normalizePaths {document paths : Document} (present : document.get? "paths" = some paths) :
    Frame (fun place => scope.contextAt? document (.member "paths" :: place)) EntryChange paths
      (scope.normalizePaths paths) := by
  have inItem {path : String} {item : Document} (found : paths.get? path = some item) (place : List Step) :
      scope.contextAt? document (.member "paths" :: .member path :: place) = scope.contextInItem? path item place := by
    rw [contextAt?, present, Option.bind_some, found, Option.bind_some]
  cases paths with
  | obj items =>
    refine .map (f := scope.normalizeItem) rfl fun path item found => ?_
    rw [funext (inItem found)]
    exact scope.frame_normalizeItem path item
  | _ =>
    refine .same fun place context here => ?_
    match place, here with
    | .member _ :: _, _ => rfl

theorem frame_mapMember_components (document components : Document) :
    Frame (fun place => scope.contextAt? document (.member "components" :: place)) EntryChange components
      (components.mapMember "parameters" scope.normalizeComponents) := by
  refine .mapMember rfl ?_ fun parameters => ?_
  · intro step other rest
    rw [contextAt?.eq_def]
    split
    · rename_i same
      simp only [List.cons.injEq] at same
      exact absurd same.2.1 other
    · rename_i same
      simp at same
    · rfl
  · have inComponents (place : List Step) :
        scope.contextAt? document (.member "components" :: .member "parameters" :: place) =
          match place with
          | [.member _] => some scope.plainContext
          | _ => none := by
      rw [contextAt?.eq_def]
      split
      · rename_i same
        simp only [List.cons.injEq, true_and] at same
        rw [same]
      · rename_i same
        simp at same
      · rename_i noEntry _
        split
        · exact absurd rfl (noEntry _)
        · rfl
    rw [funext inComponents]
    exact scope.frame_normalizeComponents parameters

/-- Normal forms of the parameter entries touch the entries only. -/
theorem frame_normalizeParameters (document : Document) :
    Frame (scope.contextAt? document) EntryChange document (scope.normalizeParameters document) := by
  cases document with
  | obj members =>
    rw [normalizeParameters_obj]
    refine .map (f := fun key value => if key = "paths" then scope.normalizePaths value
      else if key = "components" then value.mapMember "parameters" scope.normalizeComponents else value)
      rfl fun key value present => ?_
    split
    · rename_i isPaths
      subst isPaths
      exact scope.frame_normalizePaths present
    · rename_i noPaths
      split
      · rename_i isComponents
        subst isComponents
        exact scope.frame_mapMember_components _ value
      · rename_i noComponents
        refine .same fun place context here => ?_
        rw [contextAt?.eq_def] at here
        split at here
        · rename_i same
          simp only [List.cons.injEq, Step.member.injEq] at same
          exact absurd same.1 noComponents
        · rename_i same
          simp only [List.cons.injEq, Step.member.injEq] at same
          exact absurd same.1 noPaths
        · cases here
  | _ =>
    refine .same fun place context here => ?_
    match place, here with
    | .member _ :: _, _ => rfl

end NormalizeScope

def withNewNames (renames : Keyed String) (schemas : Keyed Document) : List (String × Document) :=
  schemas.map fun (name, body) => (newName renames name, body)

/-- A document in which the component schemas are under their new names. -/
def moveSchemas (renames : Keyed String) (document : Document) : Document :=
  document.mapMember "components" fun components =>
    components.mapMember "schemas" fun
      | .obj schemas => .obj (Keyed.ofList (withNewNames renames schemas))
      | other => other

theorem renameSchemas_eq_ofList {schemas : Keyed Document} (ordered : (Document.obj schemas).Ordered) :
    (renameSchemas schemas).1 = Keyed.ofList (withNewNames (renameSchemas schemas).2 schemas) := by
  have sorted := (ordered_obj.mp ordered).1
  have tracked := tracked_renameSchemas sorted
  have distinct : (Keyed.keys (withNewNames (renameSchemas schemas).2 schemas)).Nodup := by
    have names : Keyed.keys (withNewNames (renameSchemas schemas).2 schemas) =
        schemas.keys.map (newName (renameSchemas schemas).2) := by
      rw [Keyed.keys, withNewNames, Keyed.keys, List.map_map, List.map_map]
      rfl
    rw [names]
    refine List.Nodup.map_on ?_ (nodup_of_pairwise_lt (Keyed.pairwise_keys sorted))
    exact fun name known other known' => tracked.injective name known other known'
  refine Keyed.eq_of_get? (ordered_obj.mp (ordered_renameSchemas ordered)).1 (Keyed.sorted_ofList _) fun key => ?_
  rw [Keyed.ofList, Keyed.get?_insertAll _ distinct, Keyed.get?_nil, Option.or_none]
  cases found : Keyed.get? (withNewNames (renameSchemas schemas).2 schemas) key with
  | some body =>
    obtain ⟨⟨name, _⟩, member, same⟩ := List.mem_map.mp (Keyed.mem_of_get? found)
    obtain ⟨rfl, rfl⟩ := Prod.mk.inj same
    exact (get?_renameSchemas_eq_some_iff sorted).mpr ⟨name, rfl, (Keyed.get?_eq_some_iff sorted).mpr member⟩
  | none =>
    rw [Option.eq_none_iff_forall_ne_some]
    intro body present
    obtain ⟨name, rfl, here⟩ := (get?_renameSchemas_eq_some_iff sorted).mp present
    refine Keyed.get?_eq_none_iff.mp found (List.mem_map.mpr ⟨(_, body), ?_, rfl⟩)
    exact List.mem_map.mpr ⟨(name, body), (Keyed.get?_eq_some_iff sorted).mp here, rfl⟩

/-- The schemas of a document move, and the references follow. -/
theorem canonicalizeSchemas_eq {document : Document} (ordered : document.Ordered) :
    (canonicalizeSchemas document).1 =
      renameReferences (canonicalizeSchemas document).2 (moveSchemas (canonicalizeSchemas document).2 document) := by
  rcases canonicalizeSchemas_cases document with same | ⟨schemas, table, renames, moved⟩
  · have none : (canonicalizeSchemas document).2 = [] := by rw [same]
    rw [none, renameReferences_nil, same, moveSchemas, eq_comm]
    refine (mapMember_eq_self_iff ordered).mpr fun components present => ?_
    refine (mapMember_eq_self_iff (ordered.get? present)).mpr fun table inside => ?_
    cases table with
    | obj schemas =>
      have unmoved : withNewNames [] schemas = schemas := List.map_id _
      have sorted := (ordered_obj.mp ((ordered.get? present).get? inside)).1
      exact congrArg Document.obj ((congrArg Keyed.ofList unmoved).trans (Keyed.ofList_of_sorted sorted))
    | _ => rfl
  · rw [moved, renames, moveSchemas]
    congr 1
    obtain ⟨components, present, inside⟩ := Option.bind_eq_some_iff.mp table
    have inComponents := ordered.get? present
    refine mapMember_congr ordered fun value here => ?_
    obtain rfl := Option.some.inj (present.symm.trans here)
    refine mapMember_congr inComponents fun value here => ?_
    obtain rfl := Option.some.inj (inside.symm.trans here)
    exact congrArg Document.obj (renameSchemas_eq_ofList (inComponents.get? inside))

section Following

variable (renames : Keyed String)

theorem outline_renameReferences (document : Document) :
    (renameReferences renames document).outline = document.outline := by
  cases document with
  | arr items => simp [renameReferences_arr, outline, Function.comp_def]
  | obj members => simp [renameReferences_obj, outline, Function.comp_def]
  | _ => rfl

/-- What stands at a place when references follow: a text under `$ref` is a reference, and everything else has
its outline. -/
def followedAt (place : List Step) (value : Document) : Document :=
  match place.getLast?, value with
  | some (.member "$ref"), .str reference => .str (followRename renames reference)
  | _, value => value.outline

theorem followedAt_cons_cons (step next : Step) (rest : List Step) :
    followedAt renames (step :: next :: rest) = followedAt renames (next :: rest) := by
  funext value
  unfold followedAt
  rw [List.getLast?_cons_cons]

/-- What a step leads to when references follow. -/
def renameAt : Step → Document → Document
  | .member key => renameMember renames key
  | .item _ => renameReferences renames

theorem step?_renameReferences (document : Document) (step : Step) :
    (renameReferences renames document).step? step = (document.step? step).map (renameAt renames step) := by
  cases document with
  | arr items =>
    rw [renameReferences_arr]
    cases step with
    | member key => rfl
    | item position => exact List.getElem?_map
  | obj members =>
    rw [renameReferences_obj]
    cases step with
    | member key => exact Keyed.get?_map (renameMember renames) members key
    | item position => rfl
  | _ => rfl

theorem outline_renameAt (step : Step) (value : Document) :
    (renameAt renames step value).outline = followedAt renames [step] value := by
  cases step with
  | item position => exact outline_renameReferences renames value
  | member key =>
    by_cases own : key = "$ref"
    · subst own
      cases value with
      | str reference => rfl
      | _ => exact outline_renameReferences renames _
    · rw [renameAt, renameMember_of_ne renames own, outline_renameReferences]
      unfold followedAt
      split
      · rename_i same
        simp only [List.getLast?_singleton, Option.some.injEq, Step.member.injEq] at same
        exact absurd same own
      · rfl

/-- A text stays a text, and in anything else the references follow. -/
theorem renameAt_eq_or (step : Step) (value : Document) :
    (∃ old new, value = .str old ∧ renameAt renames step value = .str new) ∨
      renameAt renames step value = renameReferences renames value := by
  cases step with
  | item position => exact .inr rfl
  | member key => exact renameMember_eq_or renames key value

/-- References follow at their places, and nothing else changes. -/
theorem at?_renameReferences (document : Document) (place : List Step) :
    ((renameReferences renames document).at? place).map outline =
      (document.at? place).map (followedAt renames place) := by
  induction place generalizing document with
  | nil => exact congrArg some (outline_renameReferences renames document)
  | cons step rest ih =>
    rw [at?_cons, step?_renameReferences, at?_cons]
    cases document.step? step with
    | none => rfl
    | some value =>
      rw [Option.map_some, Option.bind_some, Option.bind_some]
      cases rest with
      | nil => exact congrArg some (outline_renameAt renames step value)
      | cons next rest =>
        rw [followedAt_cons_cons]
        rcases renameAt_eq_or renames step value with ⟨old, new, rfl, same⟩ | same
        · rw [same]
          rfl
        · rw [same, ih]

end Following

section Documents

variable {document : Document} (schema : Schema) (registry : Registry) (basePath : Option String)

/-- Normal forms touch nothing but what they are meant to. First the entries that are read as parameters are
rewritten, and everything outside of the entries stays. Then the component schemas that the report lists move to
their new names, no two to one name, and at every place a text under `$ref` follows, while everything else
stays. -/
theorem frame_normalizeDocument (ordered : document.Ordered) :
    let after := (normalizeDocument document schema registry basePath).1
    let renames := (normalizeDocument document schema registry basePath).2.renamedSchemas
    ∃ kept, kept.Ordered ∧
      Frame ((scopeOf document schema registry basePath).contextAt? document) EntryChange document kept ∧
      (∀ name ∈ (componentSchemas document).keys, ∀ other ∈ (componentSchemas document).keys,
        newName renames name = newName renames other → name = other) ∧
      ∀ place, (after.at? place).map outline =
        ((moveSchemas renames kept).at? place).map (followedAt renames place) := by
  intro after renames
  let scope := scopeOf document schema registry basePath
  have ordered' := scope.ordered_normalizeParameters ordered
  have listed : renames = (canonicalizeSchemas (scope.normalizeParameters document)).2 := rfl
  refine ⟨scope.normalizeParameters document, ordered', scope.frame_normalizeParameters document, ?_, fun place => ?_⟩
  · rw [listed, snd_canonicalizeSchemas, componentSchemas_normalizeParameters]
    have sorted := (ordered_obj.mp (ordered_componentMembers ordered "schemas")).1
    exact (tracked_renameSchemas sorted).injective
  · have final : after = renameReferences renames (moveSchemas renames (scope.normalizeParameters document)) :=
      canonicalizeSchemas_eq ordered'
    rw [final, at?_renameReferences]

end Documents

/-- A document with a parameter, a reference and a malformed entry in one list, and a schema that is renamed. -/
def mixedDocument : Document :=
  .obj [
    ("components", .obj [("schemas", .obj [("Last24h", .obj [])])]),
    ("paths", .obj [("/slots", .obj [
      ("get", .obj [("parameters", .arr [
        .obj [("description", .null), ("in", .str "query"), ("name", .str "slot"), ("required", .bool false),
          ("x-note", .str "kept")],
        .obj [("$ref", .str "#/components/schemas/Last24h")],
        .obj [("description", .null), ("name", .str "slot")]])]),
      ("x-get", .obj [("parameters", .arr [.obj [("required", .bool false)]])])])])]

/-- The place of a parameter entry of the document. -/
def mixedPlace (position : Nat) : List Step :=
  [.member "paths", .member "/slots", .member "get", .member "parameters", .item position]

/-- The parameter loses the members that say nothing, the reference follows the schema, and the malformed entry
and the list under the extension stay. -/
theorem frame_normalizeDocument_mixed :
    mixedDocument.Ordered ∧
    (normalizeDocument mixedDocument .empty .standard none).2.renamedSchemas = [("Last24h", "Last24H")] ∧
    ((scopeOf mixedDocument .empty .standard none).contextAt? mixedDocument (mixedPlace 0)).isSome = true ∧
    (∃ kept, kept.Ordered ∧
      Frame ((scopeOf mixedDocument .empty .standard none).contextAt? mixedDocument) EntryChange mixedDocument kept ∧
      ∀ place, ((normalizeDocument mixedDocument .empty .standard none).1.at? place).map outline =
        ((moveSchemas [("Last24h", "Last24H")] kept).at? place).map (followedAt [("Last24h", "Last24H")] place)) ∧
    [(0, "description"), (0, "required"), (0, "x-note"), (2, "description")].map (fun (position, key) =>
      ((normalizeDocument mixedDocument .empty .standard none).1.at?
        (mixedPlace position ++ [.member key])).isSome) = [false, false, true, true] ∧
    ((normalizeDocument mixedDocument .empty .standard none).1.at? (mixedPlace 1 ++ [.member "$ref"])).bind text? =
      some "#/components/schemas/Last24H" := by
  have ordered : mixedDocument.Ordered := by decide
  have renamed : (normalizeDocument mixedDocument .empty .standard none).2.renamedSchemas =
      [("Last24h", "Last24H")] := by decide +kernel
  obtain ⟨kept, orderedKept, frame, -, followed⟩ := frame_normalizeDocument .empty .standard none ordered
  rw [renamed] at followed
  exact ⟨ordered, renamed, by decide +kernel, ⟨kept, orderedKept, frame, followed⟩, by decide +kernel,
    by decide +kernel⟩

end QuerySynth.Rest
