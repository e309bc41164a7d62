import QuerySynth.Proofs.Document.Ordered

/-! # Component tables

The components of a document hold one table for each kind: parameters, schemas and others. Bringing the
parameters into normal form, replacing the schemas and following references act on these tables one by
one.
-/

namespace QuerySynth.Rest

def componentMembers (key : String) (document : Document) : Keyed Document :=
  (((document.get? "components").bind (·.get? key)).bind Document.members?).getD []

def componentParameters : Document → Keyed Document :=
  componentMembers "parameters"

theorem componentSchemas_eq (document : Document) :
    componentSchemas document = componentMembers "schemas" document := rfl

variable {key other : String}

theorem componentMembers_congr {first second : Document}
    (same : first.get? "components" = second.get? "components") (key : String) :
    componentMembers key first = componentMembers key second := by
  rw [componentMembers, same, componentMembers]

theorem componentMembers_mapMember_of_ne (different : other ≠ key) (f : Document → Document)
    (document : Document) :
    componentMembers other (document.mapMember "components" fun components => components.mapMember key f) =
      componentMembers other document := by
  rw [componentMembers, Document.get?_mapMember, if_pos rfl, componentMembers]
  cases document.get? "components" with
  | none => rfl
  | some components =>
    rw [Option.map_some, Option.bind_some, Option.bind_some, Document.get?_mapMember, if_neg different]

/-- A table that is replaced is there when it was not empty. -/
theorem componentMembers_mapMember {document : Document} (present : componentMembers key document ≠ [])
    (members : Keyed Document) :
    componentMembers key (document.mapMember "components" fun components =>
      components.mapMember key fun _ => .obj members) = members := by
  rw [componentMembers] at present ⊢
  rw [Document.get?_mapMember, if_pos rfl]
  cases found : document.get? "components" with
  | none => simp [found] at present
  | some components =>
    rw [found, Option.bind_some] at present
    rw [Option.map_some, Option.bind_some, Document.get?_mapMember, if_pos rfl]
    cases inside : components.get? key with
    | none => simp [inside] at present
    | some _ => rfl

theorem componentMembers_renameReferences (plain : key ≠ "$ref") (renames : Keyed String)
    (document : Document) :
    componentMembers key (renameReferences renames document) =
      (componentMembers key document).map fun (name, value) => (name, renameMember renames name value) := by
  rw [componentMembers, get?_renameReferences_of_ne renames _ (by decide), componentMembers]
  cases document.get? "components" with
  | none => rfl
  | some components =>
    rw [Option.map_some, Option.bind_some, Option.bind_some, get?_renameReferences_of_ne renames _ plain]
    cases components.get? key with
    | none => rfl
    | some table =>
      cases table with
      | obj members => rw [Option.map_some, renameReferences_obj]; rfl
      | arr items => rw [Option.map_some, renameReferences_arr]; rfl
      | _ => rfl

theorem ordered_componentMembers {document : Document} (ordered : document.Ordered) (key : String) :
    (Document.obj (componentMembers key document)).Ordered := by
  rw [componentMembers]
  cases present : document.get? "components" with
  | none => exact Document.ordered_empty
  | some components =>
    rw [Option.bind_some]
    cases inside : components.get? key with
    | none => exact Document.ordered_empty
    | some table =>
      have inner := (ordered.get? present).get? inside
      cases table with
      | obj members => exact inner
      | _ => exact Document.ordered_empty

end QuerySynth.Rest
