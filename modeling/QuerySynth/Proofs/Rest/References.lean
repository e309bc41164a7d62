import QuerySynth.Rest.Normalize
import QuerySynth.Proofs.Keyed

/-! # References that follow renamed schemas

Following renamings changes the texts under `$ref` only: objects keep their keys, arrays their
lengths, and every other text stays. Nothing changes when no schema is renamed.
-/

namespace QuerySynth.Rest

variable (renames : Keyed String)

def renameMember (key : String) (value : Document) : Document :=
  match key == "$ref", value with
  | true, .str reference => .str (followRename renames reference)
  | _, value => renameReferences renames value

theorem renameInItems_eq_map (items : List Document) :
    renameInItems renames items = items.map (renameReferences renames) := by
  induction items with
  | nil => rfl
  | cons item rest ih => rw [renameInItems, ih, List.map_cons]

theorem renameInMembers_cons (key : String) (value : Document) (rest : List (String × Document)) :
    renameInMembers renames ((key, value) :: rest) =
      (key, renameMember renames key value) :: renameInMembers renames rest := by
  rw [renameInMembers.eq_def]
  rfl

theorem renameInMembers_eq_map (members : List (String × Document)) :
    renameInMembers renames members =
      members.map fun (key, value) => (key, renameMember renames key value) := by
  induction members with
  | nil => rfl
  | cons head rest ih =>
    obtain ⟨key, value⟩ := head
    rw [renameInMembers_cons, ih, List.map_cons]

theorem renameReferences_obj (members : List (String × Document)) :
    renameReferences renames (.obj members) =
      .obj (members.map fun (key, value) => (key, renameMember renames key value)) := by
  rw [renameReferences, renameInMembers_eq_map]

theorem renameReferences_arr (items : List Document) :
    renameReferences renames (.arr items) = .arr (items.map (renameReferences renames)) := by
  rw [renameReferences, renameInItems_eq_map]

theorem renameMember_of_ne {key : String} (plain : key ≠ "$ref") (value : Document) :
    renameMember renames key value = renameReferences renames value := by
  simp [renameMember, plain]

/-- A text stays a text, and in any other member the references follow. -/
theorem renameMember_eq_or (key : String) (value : Document) :
    (∃ old new, value = .str old ∧ renameMember renames key value = .str new) ∨
      renameMember renames key value = renameReferences renames value := by
  unfold renameMember
  split
  · exact .inl ⟨_, _, rfl, rfl⟩
  · exact .inr rfl

@[simp] theorem text?_renameReferences (document : Document) :
    (renameReferences renames document).text? = document.text? := by
  cases document with
  | arr items => rw [renameReferences_arr]; rfl
  | obj members => rw [renameReferences_obj]; rfl
  | _ => rfl

theorem get?_renameReferences (document : Document) (key : String) :
    (renameReferences renames document).get? key =
      (document.get? key).map (renameMember renames key) := by
  cases document with
  | arr items => rw [renameReferences_arr]; rfl
  | obj members =>
    rw [renameReferences_obj]
    exact Keyed.get?_map (renameMember renames) members key
  | _ => rfl

theorem get?_renameReferences_of_ne (key : String) (plain : key ≠ "$ref") (document : Document) :
    (renameReferences renames document).get? key =
      (document.get? key).map (renameReferences renames) := by
  rw [get?_renameReferences]
  congr 1
  funext value
  exact renameMember_of_ne renames plain value

/-- Only texts under `$ref` change. -/
theorem textAt?_renameReferences (key : String) (plain : key ≠ "$ref") (document : Document) :
    (renameReferences renames document).textAt? key = document.textAt? key := by
  rw [Document.textAt?, get?_renameReferences_of_ne renames key plain, Document.textAt?]
  cases document.get? key <;> simp

theorem items?_renameReferences (document : Document) :
    (renameReferences renames document).items? =
      document.items?.map (List.map (renameReferences renames)) := by
  cases document with
  | arr items => rw [renameReferences_arr]; rfl
  | obj members => rw [renameReferences_obj]; rfl
  | _ => rfl

@[simp] theorem isNull_renameReferences (document : Document) :
    (renameReferences renames document).isNull = document.isNull := by
  cases document with
  | arr items => rw [renameReferences_arr]; rfl
  | obj members => rw [renameReferences_obj]; rfl
  | _ => rfl

/-- Changing one member and following the references commute when they do so at that member. -/
theorem renameReferences_mapMember {key : String} (plain : key ≠ "$ref") {f g : Document → Document}
    (commutes : ∀ value, renameReferences renames (f value) = g (renameReferences renames value))
    (document : Document) :
    renameReferences renames (document.mapMember key f) =
      (renameReferences renames document).mapMember key g := by
  cases document with
  | arr items => simp only [Document.mapMember, renameReferences_arr]
  | obj members =>
    simp only [Document.mapMember, renameReferences_obj, List.map_map]
    congr 1
    apply List.map_congr_left
    rintro ⟨k, v⟩ _
    by_cases same : k = key
    · subst same
      simp [renameMember_of_ne renames plain, commutes]
    · simp [same]
  | _ => rfl

theorem get?_renameMember (key other : String) (value : Document) :
    (renameMember renames key value).get? other =
      (value.get? other).map (renameMember renames other) := by
  unfold renameMember
  split
  · rfl
  · exact get?_renameReferences renames _ other

theorem followRename_nil (reference : String) : followRename [] reference = reference := by
  simp [followRename]

mutual

/-- References stay when no schema is renamed. -/
theorem renameReferences_nil (document : Document) : renameReferences [] document = document := by
  cases document with
  | arr items => rw [renameReferences, renameInItems_nil]
  | obj members => rw [renameReferences, renameInMembers_nil]
  | _ => rfl

theorem renameInItems_nil (items : List Document) : renameInItems [] items = items := by
  cases items with
  | nil => rfl
  | cons item rest => rw [renameInItems, renameReferences_nil, renameInItems_nil]

theorem renameInMembers_nil (members : List (String × Document)) :
    renameInMembers [] members = members := by
  match members with
  | [] => rfl
  | (key, value) :: rest =>
    rw [renameInMembers_cons, renameInMembers_nil]
    unfold renameMember
    split
    · rw [followRename_nil]
    · rw [renameReferences_nil]

end

theorem renameMember_nil (key : String) (value : Document) : renameMember [] key value = value := by
  unfold renameMember
  split
  · rw [followRename_nil]
  · rw [renameReferences_nil]

end QuerySynth.Rest
