import QuerySynth.Proofs.Rest.Entries

/-! # Renaming component schemas

Schemas are renamed one after the other, in the order of their old names. A run without any renaming
leaves the table, and a run with one leaves a key that was not there before. Where canonical names are
canonical again, a second run has nothing to rename.
-/

namespace QuerySynth.Rest

/-- The canonical name of a schema is empty, its own or taken. -/
def KeepsName (schemas : Keyed Document) (name : String) : Prop :=
  canonicalName name = "" ∨ canonicalName name = name ∨ canonicalName name ∈ schemas.keys

variable {state : Keyed Document × Keyed String} {name key : String}

/-- A schema keeps its name, or it moves to its canonical one. -/
theorem renameSchema_cases (state : Keyed Document × Keyed String) (name : String) :
    (renameSchema state name = state ∧ (name ∈ state.1.keys → KeepsName state.1 name)) ∨
      ∃ body, ¬KeepsName state.1 name ∧ state.1.get? name = some body ∧
        renameSchema state name =
          ((state.1.erase name).insert (canonicalName name) body,
            state.2.insert name (canonicalName name)) := by
  have keeps : (canonicalName name = "" ∨ canonicalName name = name ∨
      state.1.has (canonicalName name) = true) ↔ KeepsName state.1 name := by
    rw [Keyed.has_iff, KeepsName]
  rw [renameSchema]
  split
  · rename_i kept
    exact .inl ⟨rfl, fun _ => keeps.mp kept⟩
  · rename_i moves
    cases found : state.1.get? name with
    | none => exact .inl ⟨rfl, fun present => absurd present (Keyed.get?_eq_none_iff.mp found)⟩
    | some body => exact .inr ⟨body, fun kept => moves (keeps.mpr kept), rfl, rfl⟩

theorem mem_keys_move {schemas : Keyed Document} {old new : String} {body : Document} :
    key ∈ Keyed.keys ((schemas.erase old).insert new body) ↔ key = new ∨ (key ≠ old ∧ key ∈ schemas.keys) := by
  rw [Keyed.mem_keys_insert, Keyed.mem_keys_erase]

theorem insert_ne_nil {α : Type} (key : String) (value : α) (entries : Keyed α) :
    Keyed.insert key value entries ≠ [] := by
  intro empty
  have found := Keyed.get?_insert_self key value entries
  simp [empty] at found

/-- No renaming is ever forgotten. -/
theorem renameSchema_eq_self_of_nil (none : (renameSchema state name).2 = []) :
    renameSchema state name = state := by
  rcases renameSchema_cases state name with ⟨same, -⟩ | ⟨body, -, -, moved⟩
  · exact same
  · rw [moved] at none
    exact absurd none (insert_ne_nil _ _ _)

theorem renameSchema_eq_self_iff (present : name ∈ state.1.keys) :
    renameSchema state name = state ↔ KeepsName state.1 name := by
  rcases renameSchema_cases state name with ⟨same, keeps⟩ | ⟨body, moves, -, moved⟩
  · exact iff_of_true same (keeps present)
  · refine iff_of_false ?_ moves
    intro same
    have arrived : canonicalName name ∈ Keyed.keys (renameSchema state name).1 := by
      rw [moved]
      exact mem_keys_move.mpr (.inl rfl)
    rw [same] at arrived
    exact moves (.inr (.inr arrived))

theorem foldl_renameSchema_eq_self_of_nil {names : List String}
    (none : (names.foldl renameSchema state).2 = []) :
    names.foldl renameSchema state = state ∧ ∀ name ∈ names, renameSchema state name = state := by
  induction names generalizing state with
  | nil => simp
  | cons name rest ih =>
    rw [List.foldl_cons] at none ⊢
    obtain ⟨same, each⟩ := ih none
    rw [same] at none
    have first := renameSchema_eq_self_of_nil none
    rw [first] at same each ⊢
    exact ⟨same, List.forall_mem_cons.mpr ⟨first, each⟩⟩

variable {schemas : Keyed Document}

theorem renameSchemas_eq_self_of_nil (none : (renameSchemas schemas).2 = []) :
    renameSchemas schemas = (schemas, []) :=
  (foldl_renameSchema_eq_self_of_nil none).1

/-- Nothing is renamed exactly when every schema keeps its name. -/
theorem renameSchemas_eq_nil_iff :
    (renameSchemas schemas).2 = [] ↔ ∀ name ∈ schemas.keys, KeepsName schemas name := by
  constructor
  · intro none name member
    have same := (foldl_renameSchema_eq_self_of_nil none).2 name member
    exact (renameSchema_eq_self_iff member).mp same
  · intro keeps
    have same (names : List String) (known : ∀ name ∈ names, name ∈ schemas.keys) :
        names.foldl renameSchema (schemas, []) = (schemas, []) := by
      induction names with
      | nil => rfl
      | cons name rest ih =>
        obtain ⟨first, later⟩ := List.forall_mem_cons.mp known
        have stays : renameSchema (schemas, []) name = (schemas, []) :=
          (renameSchema_eq_self_iff first).mpr (keeps name first)
        rw [List.foldl_cons, stays, ih later]
    rw [renameSchemas, same schemas.keys fun _ member => member]

/-- Nothing was renamed yet, or there is a key that is none of the old names. -/
def Fresh (schemas : Keyed Document) (state : Keyed Document × Keyed String) : Prop :=
  state = (schemas, []) ∨ ∃ key ∈ state.1.keys, key ∉ schemas.keys

/-- Only old names are removed, so a new key stays. -/
theorem fresh_renameSchema (member : name ∈ schemas.keys) (fresh : Fresh schemas state) :
    Fresh schemas (renameSchema state name) := by
  rcases renameSchema_cases state name with ⟨same, -⟩ | ⟨body, moves, -, moved⟩
  · rwa [same]
  · rw [moved]
    right
    rcases fresh with rfl | ⟨key, present, new⟩
    · exact ⟨canonicalName name, mem_keys_move.mpr (.inl rfl), fun taken => moves (.inr (.inr taken))⟩
    · have other : key ≠ name := by
        rintro rfl
        exact new member
      exact ⟨key, mem_keys_move.mpr (.inr ⟨other, present⟩), new⟩

theorem fresh_foldl_renameSchema {names : List String} (known : ∀ name ∈ names, name ∈ schemas.keys)
    (fresh : Fresh schemas state) : Fresh schemas (names.foldl renameSchema state) := by
  induction names generalizing state with
  | nil => exact fresh
  | cons name rest ih =>
    obtain ⟨first, later⟩ := List.forall_mem_cons.mp known
    rw [List.foldl_cons]
    exact ih later (fresh_renameSchema first fresh)

/-- A run that keeps the keys renames nothing. -/
theorem renameSchemas_nil_of_keys (same : Keyed.keys (renameSchemas schemas).1 = schemas.keys) :
    (renameSchemas schemas).2 = [] := by
  have fresh : Fresh schemas (renameSchemas schemas) :=
    fresh_foldl_renameSchema (fun _ member => member) (.inl rfl)
  rcases fresh with unchanged | ⟨key, present, new⟩
  · rw [unchanged]
  · rw [same] at present
    exact absurd present new

/-- A key that a later renaming neither moves nor deprives of the key that keeps it. -/
def Stable (schemas : Keyed Document) (key : String) : Prop :=
  canonicalName key = "" ∨ canonicalName key = key ∨
    (canonicalName key ∈ schemas.keys ∧ canonicalName (canonicalName key) = canonicalName key)

/-- One renaming settles its schema and leaves the keys that were settled. -/
theorem stable_renameSchema {rest : List String}
    (canonical : canonicalName (canonicalName name) = canonicalName name)
    (inv : ∀ key ∈ state.1.keys, key ∈ name :: rest ∨ Stable state.1 key) :
    ∀ key ∈ Keyed.keys (renameSchema state name).1, key ∈ rest ∨ Stable (renameSchema state name).1 key := by
  intro key present
  rcases renameSchema_cases state name with ⟨same, keeps⟩ | ⟨body, moves, -, moved⟩
  · rw [same] at present ⊢
    rcases inv key present with listed | stable
    · rcases List.mem_cons.mp listed with rfl | later
      · right
        rcases keeps present with empty | own | taken
        · exact .inl empty
        · exact .inr (.inl own)
        · exact .inr (.inr ⟨taken, canonical⟩)
      · exact .inl later
    · exact .inr stable
  · rw [moved] at present ⊢
    rcases mem_keys_move.mp present with rfl | ⟨other, old⟩
    · exact .inr (.inr (.inl canonical))
    · rcases inv key old with listed | stable
      · exact .inl ((List.mem_cons.mp listed).resolve_left other)
      · right
        rcases stable with empty | own | ⟨taken, fixed⟩
        · exact .inl empty
        · exact .inr (.inl own)
        · -- The key that holds this one has its canonical name, so it is not the one that moved.
          have holder : canonicalName key ≠ name := by
            rintro rfl
            exact moves (.inr (.inl fixed))
          exact .inr (.inr ⟨mem_keys_move.mpr (.inr ⟨holder, taken⟩), fixed⟩)

theorem stable_foldl_renameSchema {names : List String}
    (canonical : ∀ name ∈ names, canonicalName (canonicalName name) = canonicalName name)
    (inv : ∀ key ∈ state.1.keys, key ∈ names ∨ Stable state.1 key) :
    ∀ key ∈ Keyed.keys (names.foldl renameSchema state).1, Stable (names.foldl renameSchema state).1 key := by
  induction names generalizing state with
  | nil =>
    intro key present
    exact (inv key present).resolve_left List.not_mem_nil
  | cons name rest ih =>
    obtain ⟨first, later⟩ := List.forall_mem_cons.mp canonical
    rw [List.foldl_cons]
    exact ih later (stable_renameSchema first inv)

/-- After a run all schemas keep their names, if canonical names are canonical again. -/
theorem keepsName_renameSchemas
    (canonical : ∀ name ∈ schemas.keys, canonicalName (canonicalName name) = canonicalName name) :
    ∀ name ∈ Keyed.keys (renameSchemas schemas).1, KeepsName (renameSchemas schemas).1 name := by
  have start : ∀ key ∈ schemas.keys, key ∈ schemas.keys ∨ Stable schemas key :=
    fun key present => .inl present
  intro name present
  have stable : Stable (renameSchemas schemas).1 name :=
    stable_foldl_renameSchema canonical start name present
  rcases stable with empty | own | ⟨taken, -⟩
  · exact .inl empty
  · exact .inr (.inl own)
  · exact .inr (.inr taken)

theorem componentSchemas_normalizeParameters (scope : NormalizeScope) (document : Document) :
    componentSchemas (scope.normalizeParameters document) = componentSchemas document := by
  rw [componentSchemas_eq, componentSchemas_eq, NormalizeScope.normalizeParameters,
    componentMembers_mapMember_of_ne (by decide)]
  apply componentMembers_congr
  rw [Document.get?_mapMember, if_neg (by decide)]

theorem snd_canonicalizeSchemas (document : Document) :
    (canonicalizeSchemas document).2 = (renameSchemas (componentSchemas document)).2 := by
  rw [canonicalizeSchemas]
  dsimp only
  split
  · rename_i none
    exact (List.isEmpty_iff.mp none).symm
  · rfl

theorem canonicalizeSchemas_of_nil {document : Document} (none : (canonicalizeSchemas document).2 = []) :
    canonicalizeSchemas document = (document, []) := by
  rw [snd_canonicalizeSchemas] at none
  rw [canonicalizeSchemas, renameSchemas_eq_self_of_nil none]
  rfl

/-- The other component tables follow the renamed schemas. -/
theorem componentMembers_canonicalizeSchemas {kind : String} (other : kind ≠ "schemas")
    (plain : kind ≠ "$ref") (document : Document) :
    componentMembers kind (canonicalizeSchemas document).1 =
      (componentMembers kind document).map fun (name, value) =>
        (name, renameMember (canonicalizeSchemas document).2 name value) := by
  by_cases none : (canonicalizeSchemas document).2 = []
  · simp only [canonicalizeSchemas_of_nil none, renameMember_nil]
    exact (List.map_id _).symm
  · rw [snd_canonicalizeSchemas, ← List.isEmpty_iff] at none
    rw [snd_canonicalizeSchemas, canonicalizeSchemas]
    dsimp only
    rw [if_neg none, componentMembers_renameReferences plain, componentMembers_mapMember_of_ne other]

/-- A document with canonical schema names has the keys of the renamed schemas. -/
theorem keys_componentSchemas_canonicalizeSchemas (document : Document) :
    Keyed.keys (componentSchemas (canonicalizeSchemas document).1) =
      Keyed.keys (renameSchemas (componentSchemas document)).1 := by
  rw [canonicalizeSchemas]
  dsimp only
  split
  · rename_i none
    rw [List.isEmpty_iff] at none
    rw [renameSchemas_eq_self_of_nil none]
  · rename_i renamed
    have present : componentSchemas document ≠ [] := by
      intro empty
      rw [empty] at renamed
      exact renamed rfl
    rw [componentSchemas_eq, componentMembers_renameReferences (by decide),
      componentMembers_mapMember present]
    simp [Keyed.keys]

end QuerySynth.Rest
