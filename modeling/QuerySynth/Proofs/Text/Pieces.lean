import QuerySynth.Text.Pieces

/-! # Laws of cutting and joining

The pieces of a list are those of the library's `List.splitOn`, so that its laws apply. Trimming
leaves a part of the list in the middle, with ends that were not to be dropped.
-/

namespace QuerySynth.Text

variable {α : Type}

section Split

variable [DecidableEq α]

theorem splitOn_eq_splitOn (separator : α) (xs : List α) : splitOn separator xs = xs.splitOn separator := by
  induction xs with
  | nil => rfl
  | cons x rest ih =>
    rw [List.splitOn_cons_eq_if_modifyHead, splitOn, ih]
    by_cases same : x = separator
    · simp [same]
    · simp only [same, if_false, beq_iff_eq]
      cases pieces : rest.splitOn separator with
      | nil => exact absurd pieces (List.splitOn_ne_nil separator rest)
      | cons piece pieces => rfl

/-- The pieces hold the elements of the list, without separators. -/
theorem mem_of_mem_splitOn {separator x : α} {xs piece : List α}
    (member : piece ∈ splitOn separator xs) (inside : x ∈ piece) : x ∈ xs ∧ x ≠ separator := by
  induction xs generalizing piece with
  | nil =>
    obtain rfl : piece = [] := by simpa [splitOn] using member
    simp at inside
  | cons head rest ih =>
    rw [splitOn] at member
    split at member
    · rcases List.mem_cons.mp member with rfl | later
      · simp at inside
      · obtain ⟨present, different⟩ := ih later inside
        exact ⟨List.mem_cons_of_mem _ present, different⟩
    · rename_i headNe
      cases pieces : splitOn separator rest with
      | nil =>
        rw [splitOn_eq_splitOn] at pieces
        exact absurd pieces (List.splitOn_ne_nil separator rest)
      | cons first others =>
        rw [pieces] at ih
        simp only [pieces, List.mem_cons] at member
        rcases member with rfl | later
        · rcases List.mem_cons.mp inside with rfl | inside
          · exact ⟨List.mem_cons_self, headNe⟩
          · obtain ⟨present, different⟩ := ih List.mem_cons_self inside
            exact ⟨List.mem_cons_of_mem _ present, different⟩
        · obtain ⟨present, different⟩ := ih (List.mem_cons_of_mem _ later) inside
          exact ⟨List.mem_cons_of_mem _ present, different⟩

theorem splitOn_ne_nil (separator : α) (xs : List α) : splitOn separator xs ≠ [] := by
  rw [splitOn_eq_splitOn]
  exact List.splitOn_ne_nil separator xs

/-- A list with a separator has the pieces before it and the pieces after it. -/
theorem splitOn_append_cons (separator : α) (xs ys : List α) :
    splitOn separator (xs ++ separator :: ys) = splitOn separator xs ++ splitOn separator ys := by
  simp only [splitOn_eq_splitOn, List.splitOn_append_cons_self]

/-- A list without separators is one piece. -/
theorem splitOn_of_notMem {separator : α} {xs : List α} (absent : separator ∉ xs) :
    splitOn separator xs = [xs] := by
  rw [splitOn_eq_splitOn, List.splitOn_eq_singleton absent]

/-- The pieces of a list, joined again, are the list. -/
theorem intercalate_splitOn (separator : α) (xs : List α) :
    List.intercalate [separator] (splitOn separator xs) = xs := by
  rw [splitOn_eq_splitOn, List.intercalate_splitOn]

/-- Some of the pieces of a list are the pieces of what they are joined to. -/
theorem splitOn_intercalate_of_subset {separator : α} {xs : List α} {pieces : List (List α)}
    (subset : pieces ⊆ splitOn separator xs) (nonempty : pieces ≠ []) :
    splitOn separator (List.intercalate [separator] pieces) = pieces := by
  rw [splitOn_eq_splitOn]
  apply List.splitOn_intercalate separator _ nonempty
  intro piece member inside
  exact (mem_of_mem_splitOn (subset member) inside).2 rfl

end Split

/-- After its own stem a list goes on as it does. -/
theorem dropStem?_append [DecidableEq α] (stem rest : List α) : dropStem? stem (stem ++ rest) = some rest := by
  induction stem with
  | nil => rfl
  | cons s stem ih => rw [List.cons_append, dropStem?, if_pos rfl, ih]

/-- What follows a stem is what the list has after it. -/
theorem dropStem?_eq_some_iff [DecidableEq α] {stem xs rest : List α} :
    dropStem? stem xs = some rest ↔ xs = stem ++ rest := by
  constructor
  · intro dropped
    induction stem generalizing xs with
    | nil => exact Option.some.inj dropped
    | cons s stem ih =>
      cases xs with
      | nil => exact absurd dropped nofun
      | cons x others =>
        rw [dropStem?] at dropped
        split at dropped
        · rename_i same
          rw [same, ih dropped, List.cons_append]
        · exact absurd dropped nofun
  · rintro rfl
    exact dropStem?_append stem rest

/-- Before a separator stands what does not hold the separator's first element. -/
theorem splitOnce?_append [DecidableEq α] {first : α} {before : List α} (absent : first ∉ before)
    (separator after : List α) :
    splitOnce? (first :: separator) (before ++ (first :: separator ++ after)) = some (before, after) := by
  induction before with
  | nil => rw [List.nil_append, List.cons_append, splitOnce?, ← List.cons_append, dropStem?_append]
  | cons head rest ih =>
    have different : first ≠ head := fun same => absent (same ▸ List.mem_cons_self)
    have later : first ∉ rest := fun inside => absent (List.mem_cons_of_mem _ inside)
    rw [List.cons_append, splitOnce?, dropStem?, if_neg different, ih later]
    rfl

/-- A list ends with a single element exactly if that is its last. -/
theorem endsWith_singleton_iff [DecidableEq α] {x : α} {xs : List α} :
    endsWith [x] xs = true ↔ xs.getLast? = some x := by
  rw [endsWith, dropEnding?, Option.isSome_map, List.getLast?_eq_head?_reverse]
  cases xs.reverse with
  | nil => simp [dropStem?]
  | cons y rest =>
    by_cases same : x = y
    · simp [dropStem?, same]
    · simp [dropStem?, same, Ne.symm same]

theorem intercalate_append {separator : List α} {first second : List (List α)} (nonempty : first ≠ [])
    (nonempty' : second ≠ []) :
    List.intercalate separator (first ++ second) =
      List.intercalate separator first ++ separator ++ List.intercalate separator second := by
  induction first with
  | nil => exact absurd rfl nonempty
  | cons piece rest ih =>
    cases rest with
    | nil => rw [List.singleton_append, List.intercalate_cons_of_ne_nil nonempty', List.intercalate_singleton]
    | cons next others =>
      have later := ih (List.cons_ne_nil _ _)
      rw [List.cons_append] at later ⊢
      rw [List.cons_append, List.intercalate_cons_cons, later, List.intercalate_cons_cons]
      simp only [List.append_assoc]

/-- A joined list holds the elements of the separator and of the pieces. -/
theorem mem_of_mem_intercalate {separator : List α} {pieces : List (List α)} {x : α}
    (member : x ∈ List.intercalate separator pieces) :
    x ∈ separator ∨ ∃ piece ∈ pieces, x ∈ piece := by
  induction pieces with
  | nil => simp at member
  | cons first rest ih =>
    cases rest with
    | nil => exact .inr ⟨first, List.mem_cons_self, by simpa using member⟩
    | cons second others =>
      rw [List.intercalate_cons_cons, List.mem_append, List.mem_append] at member
      rcases member with (inside | between) | later
      · exact .inr ⟨first, List.mem_cons_self, inside⟩
      · exact .inl between
      · refine (ih later).imp_right ?_
        rintro ⟨piece, present, inside⟩
        exact ⟨piece, List.mem_cons_of_mem _ present, inside⟩

theorem isPrefix_trimRight (drop : α → Bool) (xs : List α) : trimRight drop xs <+: xs := by
  have shorter := List.dropWhile_suffix (l := xs.reverse) drop
  rw [← List.reverse_prefix, List.reverse_reverse] at shorter
  exact shorter

theorem isInfix_trimEnds (drop : α → Bool) (xs : List α) : trimEnds drop xs <:+: xs :=
  (isPrefix_trimRight drop _).isInfix.trans (List.dropWhile_suffix drop).isInfix

theorem head?_trimEnds {drop : α → Bool} {xs : List α} {x : α}
    (first : (trimEnds drop xs).head? = some x) : drop x = false := by
  obtain ⟨rest, split⟩ := isPrefix_trimRight drop (trimLeft drop xs)
  have start : (trimLeft drop xs).head? = some x := by
    rw [← split, List.head?_append]
    exact Option.or_eq_some_iff.mpr (.inl first)
  have kept := List.head?_dropWhile_not drop xs
  rw [start] at kept
  simpa using kept

theorem getLast?_trimEnds {drop : α → Bool} {xs : List α} {x : α}
    (last : (trimEnds drop xs).getLast? = some x) : drop x = false := by
  rw [trimEnds, trimRight, List.getLast?_reverse] at last
  have kept := List.head?_dropWhile_not drop (trimLeft drop xs).reverse
  rw [last] at kept
  simpa using kept

/-- A filter that drops what trimming drops gives the same before and after it. -/
theorem filter_trimEnds {drop keep : α → Bool} (dropped : ∀ x, drop x = true → keep x = false)
    (xs : List α) : (trimEnds drop xs).filter keep = xs.filter keep := by
  have left (xs : List α) : (xs.dropWhile drop).filter keep = xs.filter keep := by
    have front : (xs.takeWhile drop).filter keep = [] := by
      rw [List.filter_eq_nil_iff]
      intro x member
      rw [dropped x (List.all_eq_true.mp List.all_takeWhile x member)]
      exact Bool.false_ne_true
    calc (xs.dropWhile drop).filter keep
        = (xs.takeWhile drop ++ xs.dropWhile drop).filter keep := by
          rw [List.filter_append, front, List.nil_append]
      _ = xs.filter keep := by rw [List.takeWhile_append_dropWhile]
  rw [trimEnds, trimRight, List.filter_reverse, left, List.filter_reverse, List.reverse_reverse, trimLeft,
    left]

private theorem dropWhile_of_head {drop : α → Bool} {xs : List α}
    (first : ∀ x, xs.head? = some x → drop x = false) : xs.dropWhile drop = xs := by
  cases xs with
  | nil => rfl
  | cons x rest => simp [first x rfl]

/-- Nothing is trimmed where both ends are to be kept. -/
theorem trimEnds_of_ends {drop : α → Bool} {xs : List α}
    (first : ∀ x, xs.head? = some x → drop x = false)
    (last : ∀ x, xs.getLast? = some x → drop x = false) : trimEnds drop xs = xs := by
  rw [trimEnds, trimLeft, dropWhile_of_head first, trimRight, dropWhile_of_head, List.reverse_reverse]
  intro x start
  rw [List.head?_reverse] at start
  exact last x start

/-- A single element is trimmed from the end of a list whose own end is to be kept. -/
theorem trimRight_append_singleton {drop : α → Bool} {xs : List α} {x : α} (dropped : drop x = true)
    (last : ∀ y, xs.getLast? = some y → drop y = false) : trimRight drop (xs ++ [x]) = xs := by
  rw [trimRight, List.reverse_concat, List.dropWhile_cons_of_pos dropped, dropWhile_of_head,
    List.reverse_reverse]
  intro y start
  rw [List.head?_reverse] at start
  exact last y start

end QuerySynth.Text
