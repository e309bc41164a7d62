import QuerySynth.Proofs.Endpoint.Normalized
import QuerySynth.Proofs.Parameter.Normal
import QuerySynth.Proofs.Rest.Schemas

/-! # What a report tells

A report counts renamed parameters, arrays that became lists and renamed schemas. A document that stays
as it is has an unchanged report. The converse needs more: descriptions, declared types and the way
members are written are corrected without being counted.
-/

namespace QuerySynth.Rest

/-- An entry whose parameter is settled, if it is one. -/
def Entry.Settled (entry : Entry) : Prop :=
  ∀ raw, inlineParameter? entry.2 = some raw → QuerySynth.Settled entry.1 raw entry.2

/-- An entry stays exactly when nothing is counted for it and it is settled. -/
theorem Entry.kept_iff (entry : Entry) : entry.Kept ↔ entry.tally = {} ∧ entry.Settled :=
  normalizeParameter_eq_self_iff entry.1 entry.2

section Documents

variable (document : Document) (schema : Schema) (registry : Registry) (basePath : Option String)

theorem normalizeDocument_fst :
    (normalizeDocument document schema registry basePath).1 =
      (canonicalizeSchemas ((scopeOf document schema registry basePath).normalizeParameters document)).1 := rfl

theorem normalizeDocument_eq :
    normalizeDocument document schema registry basePath =
      ((canonicalizeSchemas ((scopeOf document schema registry basePath).normalizeParameters document)).1,
        ⟨((scopeOf document schema registry basePath).tally document).renamed,
          ((scopeOf document schema registry basePath).tally document).coerced,
          (canonicalizeSchemas
            ((scopeOf document schema registry basePath).normalizeParameters document)).2⟩) := rfl

theorem renamesOf_eq :
    renamesOf document schema registry basePath = (renameSchemas (componentSchemas document)).2 := by
  have renamed : renamesOf document schema registry basePath = (canonicalizeSchemas
      ((scopeOf document schema registry basePath).normalizeParameters document)).2 := rfl
  rw [renamed, snd_canonicalizeSchemas, componentSchemas_normalizeParameters]

/-- A report is unchanged when nothing is counted and no schema is renamed. -/
theorem isUnchanged_normalizeDocument :
    (normalizeDocument document schema registry basePath).2.isUnchanged = true ↔
      (scopeOf document schema registry basePath).tally document = {} ∧
        renamesOf document schema registry basePath = [] := by
  have report : (normalizeDocument document schema registry basePath).2 =
      ⟨((scopeOf document schema registry basePath).tally document).renamed,
        ((scopeOf document schema registry basePath).tally document).coerced,
        renamesOf document schema registry basePath⟩ := rfl
  rw [report]
  cases (scopeOf document schema registry basePath).tally document
  simp [NormalizeReport.isUnchanged]

/-- The schemas of a normal form have the names that the run of renamings leaves. -/
theorem keys_componentSchemas_normalizeDocument :
    Keyed.keys (componentSchemas (normalizeDocument document schema registry basePath).1) =
      Keyed.keys (renameSchemas (componentSchemas document)).1 := by
  rw [normalizeDocument_fst, keys_componentSchemas_canonicalizeSchemas, componentSchemas_normalizeParameters]

theorem componentParameters_normalizeDocument :
    componentParameters (normalizeDocument document schema registry basePath).1 =
      (componentParameters document).map fun (name, entry) =>
        (name, renameMember (renamesOf document schema registry basePath) name
          (normalizeParameter (scopeOf document schema registry basePath).plainContext entry)) := by
  rw [componentParameters, normalizeDocument_fst, componentMembers_canonicalizeSchemas (by decide) (by decide),
    NormalizeScope.componentParameters_normalizeParameters, List.map_map]
  rfl

theorem normalizeDocument_of_renamesOf_eq_nil (none : renamesOf document schema registry basePath = []) :
    (normalizeDocument document schema registry basePath).1 =
      (scopeOf document schema registry basePath).normalizeParameters document := by
  have none : (canonicalizeSchemas
      ((scopeOf document schema registry basePath).normalizeParameters document)).2 = [] := none
  rw [normalizeDocument_fst, canonicalizeSchemas_of_nil none]

end Documents

variable {document : Document} {schema : Schema} {registry : Registry} {basePath : Option String}

/-- Normalising leaves a document exactly when its report is unchanged and every parameter entry is
settled. So an unchanged report alone does not mean that the document stays. -/
theorem normalizeDocument_eq_self_iff (ordered : document.Ordered) :
    (normalizeDocument document schema registry basePath).1 = document ↔
      (normalizeDocument document schema registry basePath).2.isUnchanged = true ∧
        ∀ entry ∈ (scopeOf document schema registry basePath).entries document, entry.Settled := by
  have stays : (normalizeDocument document schema registry basePath).1 = document ↔
      renamesOf document schema registry basePath = [] ∧
        (scopeOf document schema registry basePath).normalizeParameters document = document := by
    constructor
    · intro same
      have none : renamesOf document schema registry basePath = [] := by
        rw [renamesOf_eq]
        apply renameSchemas_nil_of_keys
        rw [← keys_componentSchemas_normalizeDocument document schema registry basePath, same]
      rw [normalizeDocument_of_renamesOf_eq_nil _ _ _ _ none] at same
      exact ⟨none, same⟩
    · rintro ⟨none, same⟩
      rw [normalizeDocument_of_renamesOf_eq_nil _ _ _ _ none, same]
  simp only [stays, isUnchanged_normalizeDocument, NormalizeScope.normalizeParameters_eq_self_iff _ ordered,
    NormalizeScope.tally_eq_zero_iff, Entry.kept_iff, forall₂_and]
  tauto

/-- The normal form of the owner's List stays, so its report is unchanged and its entry is settled. -/
theorem isUnchanged_ownerDocument :
    (ownerDocument ownerNormalEntry).Ordered ∧
      (normalizeDocument (ownerDocument ownerNormalEntry) ownerSchema .standard none).2.isUnchanged = true ∧
      ∀ entry ∈ (scopeOf (ownerDocument ownerNormalEntry) ownerSchema .standard none).entries
        (ownerDocument ownerNormalEntry), entry.Settled := by
  have ordered : (ownerDocument ownerNormalEntry).Ordered := by decide
  exact ⟨ordered, (normalizeDocument_eq_self_iff ordered).mp rfl⟩

def slotDocument : Document :=
  .obj [("components", .obj [("parameters", .obj [("Slot",
    .obj [("in", .str "query"), ("name", .str "slot_eq")])])])]

/-- The slot's parameter gets a description that the report does not count. -/
theorem isUnchanged_slotDocument :
    slotDocument.Ordered ∧
      (normalizeDocument slotDocument .empty .standard none).2.isUnchanged = true ∧
      (normalizeDocument slotDocument .empty .standard none).1 ≠ slotDocument := by
  refine ⟨by decide, by decide, ?_⟩
  intro same
  have described := congrArg
    (fun document => (document.pointer? "/components/parameters/Slot/description").isSome) same
  revert described
  decide

end QuerySynth.Rest
