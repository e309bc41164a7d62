import QuerySynth.Proofs.Text.Ascii
import QuerySynth.Proofs.Text.Pieces
import QuerySynth.Rest.Normalize

/-! # Marks in names

No change of letter case makes a slash or a tilde out of another character. So the canonical name of a
schema has these marks only where its name has them.
-/

namespace QuerySynth

namespace Text

/-- The characters with a meaning of their own in a pointer. -/
def pointerMarks : List Char := ['/', '~']

/-- No mapping of the tables ends at a mark. -/
def keepsMarks (expansions : List (Nat × List Nat)) (shifts : List (Nat × Nat × Nat × Int)) : Bool :=
  pointerMarks.all fun mark =>
    (expansions.all fun (_, codes) => !codes.contains mark.toNat) &&
      shifts.all fun (first, last, _, distance) =>
        decide ((mark.toNat : Int) < first + distance) || decide (last + distance < (mark.toNat : Int))

variable {mark c : Char}

theorem toNat_ne_zero (isMark : mark ∈ pointerMarks) : mark.toNat ≠ 0 := by
  simp only [pointerMarks, List.mem_cons, List.not_mem_nil, or_false] at isMark
  rcases isMark with rfl | rfl <;> decide

/-- A code point that is none of a character gives the character zero, which is no mark. -/
theorem ofNat_eq_iff {code : Nat} (isMark : mark ∈ pointerMarks) :
    Char.ofNat code = mark ↔ code = mark.toNat := by
  constructor
  · intro made
    by_cases valid : code.isValidChar
    · rw [← made, Char.ofNat, dif_pos valid]
      rfl
    · rw [Char.ofNat, dif_neg valid] at made
      exact absurd (made ▸ rfl) (toNat_ne_zero isMark)
  · rintro rfl
    exact Char.ofNat_toNat mark

theorem eq_of_mem_mapCase {expansions : List (Nat × List Nat)} {shifts : List (Nat × Nat × Nat × Int)}
    (keeps : keepsMarks expansions shifts = true) (isMark : mark ∈ pointerMarks)
    (member : mark ∈ mapCase expansions shifts c) : c = mark := by
  obtain ⟨expanded, shifted⟩ := Bool.and_eq_true_iff.mp (List.all_eq_true.mp keeps mark isMark)
  rw [mapCase] at member
  split at member
  · rename_i codes found
    obtain ⟨code, inside, made⟩ := List.mem_map.mp member
    rw [ofNat_eq_iff isMark] at made
    obtain ⟨before, after, split, -⟩ := List.lookup_eq_some_iff.mp found
    have listed : (c.toNat, codes) ∈ expansions := split ▸ List.mem_append_right _ List.mem_cons_self
    have free := List.all_eq_true.mp expanded _ listed
    simp [← made, inside] at free
  · dsimp only at member
    split at member
    · rename_i first last step distance found
      have made := (ofNat_eq_iff isMark).mp (List.mem_singleton.mp member).symm
      have visible := toNat_ne_zero isMark
      have covers := List.find?_some found
      have clear := List.all_eq_true.mp shifted _ (List.mem_of_find?_eq_some found)
      simp only [CodeSet.holds, List.any_cons, List.any_nil, Bool.or_false, Bool.and_eq_true,
        decide_eq_true_eq] at covers
      simp only [Bool.or_eq_true, decide_eq_true_eq] at clear
      omega
    · exact (List.mem_singleton.mp member).symm

/-- Only a mark itself has a mark in its lower-case form. -/
theorem eq_of_mem_lowerCase (isMark : mark ∈ pointerMarks) (member : mark ∈ lowerCase c) : c = mark := by
  by_cases ascii : IsAscii c
  · rw [lowerCase_of_ascii ascii, List.mem_singleton] at member
    have same := forall_ascii (P := fun c => c.toLower ∈ pointerMarks → c.toLower = c) (by decide) ascii
    rw [← same (member ▸ isMark), member]
  · rw [lowerCase, if_neg (show ¬c.toNat < 128 from ascii)] at member
    exact eq_of_mem_mapCase (by decide +kernel) isMark member

/-- Only a mark itself has a mark in its upper-case form. -/
theorem eq_of_mem_upperCase (isMark : mark ∈ pointerMarks) (member : mark ∈ upperCase c) : c = mark := by
  by_cases ascii : IsAscii c
  · rw [upperCase, if_pos (show c.toNat < 128 from ascii), List.mem_singleton] at member
    have same := forall_ascii (P := fun c => c.toUpper ∈ pointerMarks → c.toUpper = c) (by decide) ascii
    rw [← same (member ▸ isMark), member]
  · rw [upperCase, if_neg (show ¬c.toNat < 128 from ascii)] at member
    exact eq_of_mem_mapCase (by decide +kernel) isMark member

end Text

namespace Name

open Text

variable {mark : Char} {name : List Char}

theorem mem_of_mem_capitalize (isMark : mark ∈ pointerMarks) (member : mark ∈ capitalize name) : mark ∈ name := by
  have split := List.takeWhile_append_dropWhile (p := Char.isDigit) (l := name)
  rw [← split]
  rw [capitalize] at member
  rcases List.mem_append.mp member with digits | later
  · exact List.mem_append_left _ digits
  · refine List.mem_append_right _ ?_
    cases after : name.dropWhile Char.isDigit with
    | nil => simp [after] at later
    | cons c rest =>
      simp only [after, List.mem_append] at later
      rcases later with first | inRest
      · exact eq_of_mem_upperCase isMark first ▸ List.mem_cons_self
      · exact List.mem_cons_of_mem _ inRest

/-- The capitalised form has the marks of the name only. -/
theorem mem_of_mem_pascal (isMark : mark ∈ pointerMarks) (member : mark ∈ pascal name) : mark ∈ name := by
  obtain ⟨token, kept, inside⟩ := List.mem_flatMap.mp member
  exact (mem_of_mem_splitOn (List.mem_filter.mp kept).1 (mem_of_mem_capitalize isMark inside)).1

theorem mem_of_mem_delimited (isMark : mark ∈ pointerMarks) {previous : Option Char}
    (member : mark ∈ delimited previous name) : mark ∈ name := by
  have other : mark ≠ delimiter := by
    rintro rfl
    revert isMark
    decide
  induction name generalizing previous with
  | nil => exact member
  | cons c rest ih =>
    rw [delimited, List.mem_append, List.mem_append] at member
    rcases member with (wordStart | here) | later
    · split at wordStart
      · exact absurd (List.mem_singleton.mp wordStart) other
      · exact absurd wordStart List.not_mem_nil
    · split at here
      · exact absurd here List.not_mem_nil
      · exact eq_of_mem_lowerCase isMark here ▸ List.mem_cons_self
    · exact List.mem_cons_of_mem _ (ih later)

/-- The delimited form has the marks of the name only. -/
theorem mem_of_mem_snake (isMark : mark ∈ pointerMarks) (member : mark ∈ snake name) : mark ∈ name :=
  mem_of_mem_delimited isMark ((isInfix_trimEnds _ _).subset member)

end Name

/-- The canonical name of a schema has the marks of its name only. -/
theorem Rest.mem_of_mem_canonicalName {mark : Char} {name : String} (isMark : mark ∈ Text.pointerMarks)
    (member : mark ∈ (canonicalName name).toList) : mark ∈ name.toList := by
  rw [canonicalName, Name.toPascal, Name.toSnake, String.toList_ofList, String.toList_ofList] at member
  exact Name.mem_of_mem_snake isMark (Name.mem_of_mem_pascal isMark member)

end QuerySynth
