import Mathlib.Data.List.Infix
import Mathlib.Tactic.MkIffOfInductiveProp
import QuerySynth.Proofs.Text.Pieces
import QuerySynth.Schema.Comment

/-! # Notes at the end of documented filter fields

A description that ends with a group of parentheses loses it: exactly one, whatever groups it holds or
follows. A closing parenthesis that closes nothing stays, with the description. The line of a field is found
among the lines of its comment, so a group that goes on over several lines is none.
-/

namespace QuerySynth.Comment

open Text

/-- A text whose parentheses match: none closes before it opens, and all that open close. -/
structure Balanced (text : List Char) : Prop where
  opened : ∀ front, front <+: text → front.count ')' ≤ front.count '('
  closed : text.count '(' = text.count ')'

instance : DecidablePred Balanced := fun text =>
  decidable_of_iff ((∀ front ∈ text.inits, front.count ')' ≤ front.count '(') ∧
      text.count '(' = text.count ')')
    ⟨fun ⟨opened, closed⟩ => ⟨fun front first => opened front ((List.mem_inits _ _).mpr first), closed⟩,
      fun ⟨opened, closed⟩ => ⟨fun front first => opened front ((List.mem_inits _ _).mp first), closed⟩⟩

/-- A balanced text in parentheses: the last character closes the first. -/
def IsGroup (text : List Char) : Prop :=
  ∃ inner, Balanced inner ∧ text = '(' :: inner ++ [')']

/-- What a scan from the right that is `depth` groups deep in another one reads up to the start of that one:
a group that starts there is one of these or ended there, and all of these start. -/
@[mk_iff]
structure Within (depth : Nat) (inner : List Char) : Prop where
  closed : ∀ front, front <+: inner → front.count '(' ≤ front.count ')' + depth
  opened : inner.count '(' = inner.count ')' + depth

section Within

variable {depth : Nat} {c : Char} {inner text before : List Char}

theorem within_nil_iff : Within depth [] ↔ depth = 0 := by
  constructor
  · rintro ⟨-, opened⟩
    simpa using opened.symm
  · rintro rfl
    exact ⟨by simp, rfl⟩

theorem within_cons_iff : Within depth (c :: inner) ↔
    (∀ front, front <+: inner → (c :: front).count '(' ≤ (c :: front).count ')' + depth) ∧
      (c :: inner).count '(' = (c :: inner).count ')' + depth := by
  rw [within_iff]
  refine and_congr_left fun _ => ⟨fun closed front first => ?_, fun closed front first => ?_⟩
  · exact closed _ (List.cons_prefix_cons.mpr ⟨rfl, first⟩)
  · rcases List.prefix_cons_iff.mp first with rfl | ⟨shorter, rfl, shorterFirst⟩
    · simp
    · exact closed shorter shorterFirst

theorem within_close_iff : Within depth (')' :: inner) ↔ Within (depth + 1) inner := by
  rw [within_cons_iff, within_iff]
  refine and_congr (forall₂_congr fun front _ => ?_) ?_ <;> simp <;> omega

theorem not_within_zero_open : ¬ Within 0 ('(' :: inner) := by
  rintro ⟨closed, -⟩
  exact absurd (closed ['('] (List.prefix_append ['('] inner)) (by decide)

theorem within_succ_open_iff : Within (depth + 1) ('(' :: inner) ↔ Within depth inner := by
  rw [within_cons_iff, within_iff]
  refine and_congr (forall₂_congr fun front _ => ?_) ?_ <;> simp <;> omega

theorem within_other_iff (opens : c ≠ '(') (closes : c ≠ ')') :
    Within depth (c :: inner) ↔ Within depth inner := by
  rw [within_cons_iff, within_iff]
  simp only [List.count_cons_of_ne opens, List.count_cons_of_ne closes]

/-- The group that the scan is in starts with the next character or with a later one. -/
theorem exists_within_cons_iff : (∃ inner, Within depth inner ∧ c :: text = inner ++ '(' :: before) ↔
    (depth = 0 ∧ c = '(' ∧ text = before) ∨
      ∃ inner, Within depth (c :: inner) ∧ text = inner ++ '(' :: before := by
  simp only [List.cons_eq_append_iff]
  constructor
  · rintro ⟨inner, within, ⟨rfl, start⟩ | ⟨inner, rfl, split⟩⟩
    · obtain ⟨rfl, rfl⟩ := List.cons.inj start
      exact .inl ⟨within_nil_iff.mp within, rfl, rfl⟩
    · exact .inr ⟨inner, within, split⟩
  · rintro (⟨rfl, rfl, rfl⟩ | ⟨inner, within, split⟩)
    · exact ⟨[], within_nil_iff.mpr rfl, .inl ⟨rfl, rfl⟩⟩
    · exact ⟨c :: inner, within, .inr ⟨inner, rfl, split⟩⟩

theorem beforeGroup_close : beforeGroup depth (')' :: text) = beforeGroup (depth + 1) text := by
  cases depth <;> rfl

theorem beforeGroup_one_open : beforeGroup 1 ('(' :: text) = some text :=
  rfl

theorem beforeGroup_open : beforeGroup (depth + 2) ('(' :: text) = beforeGroup (depth + 1) text :=
  rfl

theorem beforeGroup_other (opens : c ≠ '(') (closes : c ≠ ')') :
    beforeGroup depth (c :: text) = beforeGroup depth text := by
  cases depth <;> simp [beforeGroup, opens, closes]

/-- The scan finds the start of the group that it is in. -/
theorem beforeGroup_eq_some_iff : beforeGroup (depth + 1) text = some before ↔
    ∃ inner, Within depth inner ∧ text = inner ++ '(' :: before := by
  -- On what is still to be scanned, at every depth: a closing parenthesis makes it deeper.
  induction text generalizing depth with
  | nil => simp [beforeGroup]
  | cons c rest ih =>
    rw [exists_within_cons_iff]
    by_cases closes : c = ')'
    · subst closes
      simp [beforeGroup_close, ih, within_close_iff]
    by_cases opens : c = '('
    · subst opens
      cases depth with
      | zero => simp [beforeGroup_one_open, not_within_zero_open]
      | succ depth => simp [beforeGroup_open, ih, within_succ_open_iff]
    · simp [beforeGroup_other opens closes, ih, opens, within_other_iff opens closes]

/-- What the scan meets of the group that a text ends with is balanced when it is read from the left. -/
theorem within_zero_iff : Within 0 inner ↔ Balanced inner.reverse := by
  have count (front back : List Char) (split : front ++ back = inner) (mark : Char) :
      inner.count mark = front.count mark + back.reverse.count mark := by
    rw [← split, List.count_append, List.count_reverse]
  constructor
  · rintro ⟨closed, opened⟩
    refine ⟨fun front first => ?_, by rw [List.count_reverse, List.count_reverse, opened, Nat.add_zero]⟩
    obtain ⟨back, split⟩ := first
    have parts : back.reverse ++ front.reverse = inner := by
      rw [← List.reverse_append, split, List.reverse_reverse]
    have bound := closed back.reverse ⟨_, parts⟩
    have opens := count _ _ parts '('
    have closes := count _ _ parts ')'
    rw [List.reverse_reverse] at opens closes
    omega
  · rintro ⟨opened, closed⟩
    rw [List.count_reverse, List.count_reverse] at closed
    refine ⟨fun front first => ?_, closed⟩
    obtain ⟨back, split⟩ := first
    have parts : back.reverse ++ front.reverse = inner.reverse := by rw [← List.reverse_append, split]
    have bound := opened back.reverse ⟨_, parts⟩
    have opens := count _ _ split '('
    have closes := count _ _ split ')'
    omega

end Within

section Drop

variable {text before : List Char}

/-- The text before a group is what is left without the group. -/
theorem dropGroup?_eq_some_iff :
    dropGroup? text = some before ↔ ∃ group, IsGroup group ∧ text = before ++ group := by
  rw [dropGroup?]
  constructor
  · intro dropped
    split at dropped
    · rename_i rest reversed
      obtain ⟨front, scanned, rfl⟩ := Option.map_eq_some_iff.mp dropped
      obtain ⟨inner, within, rfl⟩ := beforeGroup_eq_some_iff.mp scanned
      refine ⟨_, ⟨inner.reverse, within_zero_iff.mp within, rfl⟩, ?_⟩
      rw [← List.reverse_reverse text, reversed]
      simp
    · exact absurd dropped nofun
  · rintro ⟨_, ⟨inner, balanced, rfl⟩, rfl⟩
    have within : Within 0 inner.reverse := within_zero_iff.mpr (by rwa [List.reverse_reverse])
    have scanned : beforeGroup 1 (inner.reverse ++ '(' :: before.reverse) = some before.reverse :=
      beforeGroup_eq_some_iff.mpr ⟨_, within, rfl⟩
    have reversed : (before ++ ('(' :: inner ++ [')'])).reverse =
        ')' :: (inner.reverse ++ '(' :: before.reverse) := by
      simp
    rw [reversed]
    simp [scanned]

/-- Without a group at its end a text has nothing to leave out. -/
theorem dropGroup?_eq_none_iff :
    dropGroup? text = none ↔ ∀ before group, IsGroup group → text ≠ before ++ group := by
  rw [Option.eq_none_iff_forall_ne_some]
  constructor
  · rintro kept before group isGroup split
    exact kept before (dropGroup?_eq_some_iff.mpr ⟨group, isGroup, split⟩)
  · rintro kept before dropped
    obtain ⟨group, isGroup, split⟩ := dropGroup?_eq_some_iff.mp dropped
    exact kept before group isGroup split

/-- A group is a text that leaves nothing without the group that it ends with. -/
theorem isGroup_iff : IsGroup text ↔ dropGroup? text = some [] := by
  simp [dropGroup?_eq_some_iff]

instance : DecidablePred IsGroup := fun _ =>
  decidable_of_iff _ isGroup_iff.symm

end Drop

/-- A comment whose first line that starts like that of a filter field is for `field` and goes on with
`rest`, blanks around the line aside. -/
structure Documents (comment : String) (field rest : List Char) : Prop where
  unbroken : ∀ c ∈ field, isBlank c = false
  line : ∃ earlier line later, splitOn '\n' comment.toList = earlier ++ line :: later ∧
    (∀ other ∈ earlier, ¬ lead <+: trim other) ∧ trim line = lead ++ field ++ dash ++ rest

/-- A text, unless it is empty. -/
def stated? (text : List Char) : Option String :=
  if text = [] then none else some (String.ofList text)

section Documents

variable {comment : String} {field rest before group : List Char}

theorem filterLine?_of_documents (documents : Documents comment field rest) :
    filterLine? comment.toList = some (field ++ (dash ++ rest)) := by
  obtain ⟨-, earlier, line, later, split, others, here⟩ := documents
  rw [filterLine?, List.findSome?_eq_some_iff]
  refine ⟨earlier, line, later, split, ?_, fun other member => ?_⟩
  · rw [dropStem?_eq_some_iff, here]
    simp only [List.append_assoc]
  · refine Option.eq_none_iff_forall_ne_some.mpr fun after started => others other member ?_
    exact ⟨after, (dropStem?_eq_some_iff.mp started).symm⟩

/-- The description is the rest of the line without the group that it ends with. -/
theorem filterDescription?_of_documents (documents : Documents comment field rest) :
    filterDescription? comment =
      stated? (((dropGroup? (trim rest)).map (trimRight isBlank)).getD (trim rest)) := by
  have absent : ' ' ∉ field := fun inside => absurd (documents.unbroken ' ' inside) (by decide)
  have cut : splitOnce? dash (field ++ (dash ++ rest)) = some (field, rest) :=
    splitOnce?_append absent _ rest
  rw [filterDescription?, description?, filterLine?_of_documents documents, Option.bind_eq_bind,
    Option.bind_some, cut, Option.bind_eq_bind, Option.bind_some, stated?]
  simp only [List.isEmpty_iff]
  split <;> rfl

theorem filterDescription?_of_group (documents : Documents comment field rest) (isGroup : IsGroup group)
    (split : trim rest = before ++ group) :
    filterDescription? comment = stated? (trimRight isBlank before) := by
  have dropped : dropGroup? (trim rest) = some before := dropGroup?_eq_some_iff.mpr ⟨group, isGroup, split⟩
  rw [filterDescription?_of_documents documents, dropped, Option.map_some, Option.getD_some]

theorem filterDescription?_of_no_group (documents : Documents comment field rest)
    (none : ∀ before group, IsGroup group → trim rest ≠ before ++ group) :
    filterDescription? comment = stated? (trim rest) := by
  rw [filterDescription?_of_documents documents, dropGroup?_eq_none_iff.mpr none, Option.map_none,
    Option.getD_none]

end Documents

section Lines

/-- A text of one line, without blanks at its ends. -/
structure IsLine (text : List Char) : Prop where
  single : '\n' ∉ text
  trimmed : trim text = text

variable {field text group : List Char}

theorem IsGroup.getLast?_eq (isGroup : IsGroup group) : group.getLast? = some ')' := by
  obtain ⟨inner, -, rfl⟩ := isGroup
  exact List.getLast?_concat

theorem IsLine.append_group (line : IsLine text) (nonempty : text ≠ []) (isGroup : IsGroup group)
    (single : '\n' ∉ group) : IsLine (text ++ ' ' :: group) := by
  constructor
  · simp [line.single, single]
  · apply trimEnds_of_ends
    · intro c first
      rw [List.head?_append_of_ne_nil _ nonempty, ← line.trimmed] at first
      exact head?_trimEnds first
    · intro c last
      rw [List.getLast?_append, List.getLast?_cons, isGroup.getLast?_eq] at last
      obtain rfl : ')' = c := by simpa using last
      decide

/-- A line that is that of a filter field is a comment by itself. -/
theorem documents_line {comment : String} (unbroken : ∀ c ∈ field, isBlank c = false) (nonempty : text ≠ [])
    (line : IsLine text) (characters : comment.toList = lead ++ field ++ dash ++ text) :
    Documents comment field text := by
  have single : '\n' ∉ lead ++ field ++ dash ++ text := by
    have within : '\n' ∉ field := fun inside => absurd (unbroken '\n' inside) (by decide)
    have marks : '\n' ∉ lead ∧ '\n' ∉ dash := by decide
    simp only [List.mem_append, marks.1, marks.2, within, line.single, or_self, not_false_eq_true]
  have trimmed : trim (lead ++ field ++ dash ++ text) = lead ++ field ++ dash ++ text := by
    apply trimEnds_of_ends
    · intro c first
      obtain rfl : 'F' = c := Option.some.inj first
      decide
    · intro c last
      rw [List.getLast?_append_of_ne_nil _ nonempty, ← line.trimmed] at last
      exact getLast?_trimEnds last
  refine ⟨unbroken, [], lead ++ field ++ dash ++ text, [], ?_, by simp, trimmed⟩
  rw [characters, splitOn_of_notMem single, List.nil_append]

/-- The blank between a text and its note is left out with the note. -/
theorem IsLine.trimRight_append_blank (line : IsLine text) : trimRight isBlank (text ++ [' ']) = text := by
  apply trimRight_append_singleton
  · decide
  · intro c last
    rw [← line.trimmed] at last
    exact getLast?_trimEnds last

end Lines

/-- The characters of six texts in a row, with the literal ones unknown so that they stay folded. -/
theorem toList_append_six (first field second text third group : String) :
    (first ++ field ++ second ++ text ++ third ++ group).toList =
      first.toList ++ field.toList ++ second.toList ++ (text.toList ++ (third.toList ++ group.toList)) := by
  simp only [String.toList_append, List.append_assoc]

/-- One group is left out of the description of a filter field, if it ends with one: in the first line of a
comment that documents a filter field, and so in a comment that is such a line. -/
theorem filterDescription?_drops_one_group :
    (∀ (comment : String) (field rest : List Char), Documents comment field rest →
      (∀ before group, IsGroup group → trim rest = before ++ group →
        filterDescription? comment = stated? (trimRight isBlank before)) ∧
      ((∀ before group, IsGroup group → trim rest ≠ before ++ group) →
        filterDescription? comment = stated? (trim rest))) ∧
    ∀ field text group : String, (∀ c ∈ field.toList, isBlank c = false) → text ≠ "" →
      IsLine text.toList → IsGroup group.toList → '\n' ∉ group.toList →
        filterDescription? ("Filter by " ++ field ++ " - " ++ text ++ " " ++ group) = some text := by
  refine ⟨fun comment field rest documents => ⟨fun before group isGroup split => ?_, fun none => ?_⟩, ?_⟩
  · exact filterDescription?_of_group documents isGroup split
  · exact filterDescription?_of_no_group documents none
  intro field text group unbroken nonempty line isGroup single
  have present : text.toList ≠ [] := by simpa using nonempty
  have whole : IsLine (text.toList ++ ' ' :: group.toList) := line.append_group present isGroup single
  have documents : Documents ("Filter by " ++ field ++ " - " ++ text ++ " " ++ group) field.toList
      (text.toList ++ ' ' :: group.toList) :=
    documents_line unbroken (by simp) whole (toList_append_six ..)
  have split : trim (text.toList ++ ' ' :: group.toList) = (text.toList ++ [' ']) ++ group.toList := by
    rw [whole.trimmed, List.append_assoc, List.singleton_append]
  rw [filterDescription?_of_group documents isGroup split, line.trimRight_append_blank, stated?,
    if_neg present, String.ofList_toList]

/-- A note is left out as a whole, from the line that documents the field; an unmatched parenthesis stays,
and so does the group before a note. -/
theorem drops_one_group_of_notes :
    filterDescription? "Paging.\n Filter by x - f(y) in seconds (see (docs))\n" = some "f(y) in seconds" ∧
    filterDescription? "Filter by x - desc b)" = some "desc b)" ∧
    filterDescription? "Filter by epoch - Epoch (32 slots) (partition (key))" = some "Epoch (32 slots)" := by
  obtain ⟨reads, alone⟩ := filterDescription?_drops_one_group
  -- Not decided as it stands: that may run through all characters.
  have unbroken {field : List Char} (all : field.all (!isBlank ·) = true) :
      ∀ c ∈ field, isBlank c = false := by
    simpa using all
  refine ⟨?_, ?_, ?_⟩
  · have documents : Documents "Paging.\n Filter by x - f(y) in seconds (see (docs))\n" ['x']
        "f(y) in seconds (see (docs))".toList :=
      ⟨unbroken (by decide), ["Paging.".toList], " Filter by x - f(y) in seconds (see (docs))".toList, [[]],
        by decide +kernel, by decide +kernel, by decide +kernel⟩
    have isGroup : IsGroup "(see (docs))".toList := by decide +kernel
    rw [(reads _ _ _ documents).1 "f(y) in seconds ".toList _ isGroup (by decide +kernel)]
    decide +kernel
  · have documents : Documents "Filter by x - desc b)" ['x'] "desc b)".toList :=
      ⟨unbroken (by decide), [], "Filter by x - desc b)".toList, [],
        by decide +kernel, by simp, by decide +kernel⟩
    rw [(reads _ _ _ documents).2 (dropGroup?_eq_none_iff.mp (by decide +kernel))]
    decide +kernel
  · exact alone "epoch" "Epoch (32 slots)" "(partition (key))" (unbroken (by decide +kernel)) (by decide)
      ⟨by decide +kernel, by decide +kernel⟩ (by decide +kernel) (by decide +kernel)

/-- A group that goes on over two lines stays, as far as its first line goes. -/
theorem keeps_broken_group :
    IsLine "e".toList ∧ IsGroup "(a\nb)".toList ∧
      filterDescription? ("Filter by " ++ "f" ++ " - " ++ "e" ++ " " ++ "(a\nb)") = some "e (a" ∧
      filterDescription? ("Filter by " ++ "f" ++ " - " ++ "e" ++ " " ++ "(a\nb)") ≠ some "e" := by
  have reads : filterDescription? ("Filter by " ++ "f" ++ " - " ++ "e" ++ " " ++ "(a\nb)") = some "e (a" := by
    decide +kernel
  refine ⟨⟨by decide +kernel, by decide +kernel⟩, by decide +kernel, reads, ?_⟩
  rw [reads]
  decide

end QuerySynth.Comment
