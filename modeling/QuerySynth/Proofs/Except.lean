import Mathlib.Data.List.Forall2

/-! # Stages that may fail

When a chain of stages succeeds, each of its stages did.
-/

namespace QuerySynth

variable {ε α β : Type}

theorem bind_eq_ok_iff {stage : Except ε α} {next : α → Except ε β} {result : β} :
    (stage >>= next) = .ok result ↔ ∃ value, stage = .ok value ∧ next value = .ok result := by
  cases stage <;> simp [bind, Except.bind]

theorem bind_eq_error_iff {stage : Except ε α} {next : α → Except ε β} {fault : ε} :
    (stage >>= next) = .error fault ↔
      stage = .error fault ∨ ∃ value, stage = .ok value ∧ next value = .error fault := by
  cases stage <;> simp [bind, Except.bind]

theorem mapError_eq_ok_iff {fault : Type} {stage : Except ε α} {f : ε → fault} {result : α} :
    stage.mapError f = .ok result ↔ stage = .ok result := by
  cases stage <;> simp [Except.mapError]

theorem mapError_eq_error_iff {fault : Type} {stage : Except ε α} {f : ε → fault} {raised : fault} :
    stage.mapError f = .error raised ↔ ∃ cause, stage = .error cause ∧ f cause = raised := by
  cases stage <;> simp [Except.mapError]

theorem isOk_iff {stage : Except ε α} : stage.isOk = true ↔ ∃ result, stage = .ok result := by
  cases stage <;> simp [Except.isOk, Except.toBool]

theorem toOption_bind (stage : Except ε α) (next : α → Except ε β) :
    (stage >>= next).toOption = stage.toOption.bind fun value => (next value).toOption := by
  cases stage <;> rfl

theorem toOption_eq_some_iff {stage : Except ε α} {result : α} :
    stage.toOption = some result ↔ stage = .ok result := by
  cases stage <;> simp [Except.toOption]

/-- When a stage succeeds on every item of a list, the results stand in the order of the items. -/
theorem forall₂_of_mapM {f : α → Except ε β} {items : List α} {results : List β}
    (made : items.mapM f = .ok results) :
    List.Forall₂ (fun item result => f item = .ok result) items results := by
  induction items generalizing results with
  | nil =>
    rw [List.mapM_nil] at made
    obtain rfl := Except.ok.inj made
    exact .nil
  | cons item rest ih =>
    rw [List.mapM_cons] at made
    obtain ⟨result, first, made⟩ := bind_eq_ok_iff.mp made
    obtain ⟨others, later, made⟩ := bind_eq_ok_iff.mp made
    obtain rfl := Except.ok.inj made
    exact .cons first (ih later)

theorem forall₂_of_mapM_eq_some {f : α → Option β} {items : List α} {results : List β}
    (made : items.mapM f = some results) : List.Forall₂ (fun item result => f item = some result) items results := by
  induction items generalizing results with
  | nil =>
    rw [List.mapM_nil] at made
    obtain rfl := Option.some.inj made
    exact .nil
  | cons item rest ih =>
    rw [List.mapM_cons] at made
    obtain ⟨result, first, made⟩ := Option.bind_eq_some_iff.mp made
    obtain ⟨others, later, made⟩ := Option.bind_eq_some_iff.mp made
    obtain rfl := Option.some.inj made
    exact .cons first (ih later)

/-- When a stage fails on a list, it does so on one of the items. -/
theorem exists_error_of_mapM {f : α → Except ε β} {items : List α} {fault : ε}
    (failed : items.mapM f = .error fault) : ∃ item ∈ items, f item = .error fault := by
  induction items with
  | nil => simp [pure, Except.pure] at failed
  | cons item rest ih =>
    rw [List.mapM_cons] at failed
    rcases bind_eq_error_iff.mp failed with first | ⟨result, -, failed⟩
    · exact ⟨item, List.mem_cons_self, first⟩
    · rcases bind_eq_error_iff.mp failed with later | ⟨others, -, failed⟩
      · obtain ⟨other, member, found⟩ := ih later
        exact ⟨other, List.mem_cons_of_mem _ member, found⟩
      · simp [pure, Except.pure] at failed

/-- A stage that succeeds on every item of a list succeeds on the list. -/
theorem exists_mapM_of_forall {f : α → Except ε β} {items : List α}
    (each : ∀ item ∈ items, ∃ result, f item = .ok result) : ∃ results, items.mapM f = .ok results := by
  induction items with
  | nil => exact ⟨[], List.mapM_nil⟩
  | cons item rest ih =>
    obtain ⟨result, first⟩ := each item List.mem_cons_self
    obtain ⟨others, later⟩ := ih fun other member => each other (List.mem_cons_of_mem _ member)
    refine ⟨result :: others, ?_⟩
    rw [List.mapM_cons, first, later]
    rfl

/-- A stage that runs on all items of all groups runs on the groups one by one. -/
theorem mapM_flatten (f : α → Except ε β) (groups : List (List α)) :
    groups.flatten.mapM f = (groups.mapM (List.mapM f)).map List.flatten := by
  induction groups with
  | nil => rfl
  | cons group rest ih =>
    rw [List.flatten_cons, List.mapM_append, ih, List.mapM_cons]
    cases group.mapM f with
    | error fault => rfl
    | ok results => cases List.mapM (List.mapM f) rest <;> rfl

theorem mapM_map_eq {γ : Type} (f : α → Except ε β) (g : β → γ) (items : List α) :
    items.mapM (fun item => (f item).map g) = (items.mapM f).map (·.map g) := by
  induction items with
  | nil => rfl
  | cons item rest ih =>
    rw [List.mapM_cons, ih, List.mapM_cons]
    cases f item with
    | error fault => rfl
    | ok result => cases rest.mapM f <;> rfl

section Related

variable {R : α → β → Prop} {items : List α} {results : List β}

theorem exists_left_of_mem (related : List.Forall₂ R items results) {result : β}
    (member : result ∈ results) : ∃ item ∈ items, R item result := by
  induction related with
  | nil => exact absurd member List.not_mem_nil
  | cons first _ ih =>
    rcases List.mem_cons.mp member with rfl | later
    · exact ⟨_, List.mem_cons_self, first⟩
    · obtain ⟨item, present, holds⟩ := ih later
      exact ⟨item, List.mem_cons_of_mem _ present, holds⟩

theorem exists_right_of_mem (related : List.Forall₂ R items results) {item : α}
    (member : item ∈ items) : ∃ result ∈ results, R item result :=
  exists_left_of_mem related.flip member

/-- Lists agree in what their items agree in. -/
theorem map_eq_of_forall₂ {γ : Type} {f : α → γ} {g : β → γ}
    (related : List.Forall₂ (fun item result => g result = f item) items results) :
    results.map g = items.map f := by
  induction related with
  | nil => rfl
  | cons first _ ih => rw [List.map_cons, List.map_cons, first, ih]

/-- What stands at a position is related to what stands at the same position. -/
theorem exists_of_getElem? (related : List.Forall₂ R items results) {position : Nat} {item : α}
    (listed : items[position]? = some item) : ∃ result, results[position]? = some result ∧ R item result := by
  induction related generalizing position with
  | nil => simp at listed
  | cons first _ ih =>
    cases position with
    | zero =>
      obtain rfl : _ = item := by simpa using listed
      exact ⟨_, rfl, first⟩
    | succ position => exact ih (by simpa using listed)

end Related

end QuerySynth
