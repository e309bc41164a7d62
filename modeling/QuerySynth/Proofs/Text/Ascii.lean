import QuerySynth.Text.Case

/-! # ASCII characters

On ASCII the classes and mappings of any script are those of the core library, and the facts about
a single character are checked on all 128 of them.
-/

namespace QuerySynth.Text

/-- Characters of the first 128 code points. -/
def IsAscii (c : Char) : Prop := c.toNat < 128

instance (c : Char) : Decidable (IsAscii c) := inferInstanceAs (Decidable (c.toNat < 128))

/-- A fact about a single ASCII character is a finite check. -/
theorem forall_ascii {P : Char → Prop} (checked : ∀ code : Fin 128, P (Char.ofNat code)) {c : Char}
    (ascii : IsAscii c) : P c := by
  have known := checked ⟨c.toNat, ascii⟩
  rwa [Char.ofNat_toNat] at known

variable {c : Char}

theorem isAlpha_of_isUpper (capital : c.isUpper = true) : c.isAlpha = true :=
  Bool.or_eq_true_iff.mpr (.inl capital)

theorem isAlpha_of_isLower (small : c.isLower = true) : c.isAlpha = true :=
  Bool.or_eq_true_iff.mpr (.inr small)

theorem isAlphanum_of_isAlpha (letter : c.isAlpha = true) : c.isAlphanum = true :=
  Bool.or_eq_true_iff.mpr (.inl letter)

theorem isAlphanum_of_isDigit (digit : c.isDigit = true) : c.isAlphanum = true :=
  Bool.or_eq_true_iff.mpr (.inr digit)

/-- Letters and digits of the core library are ASCII. -/
theorem isAscii_of_isAlphanum (word : c.isAlphanum = true) : IsAscii c := by
  -- Each of their classes is a range that ends below the bound.
  have below {last : UInt32} (inside : c.val ≤ last) (small : last.toNat < 128) : IsAscii c :=
    Nat.lt_of_le_of_lt (UInt32.le_iff_toNat_le.mp inside) small
  rcases Bool.or_eq_true_iff.mp word with letter | digit
  · rcases Bool.or_eq_true_iff.mp letter with upper | lower
    · exact below (of_decide_eq_true upper).2 (by decide)
    · exact below (of_decide_eq_true (Bool.and_eq_true_iff.mp lower).2) (by decide)
  · exact below (of_decide_eq_true (Bool.and_eq_true_iff.mp digit).2) (by decide)

theorem isAscii_of_isAlpha (letter : c.isAlpha = true) : IsAscii c :=
  isAscii_of_isAlphanum (isAlphanum_of_isAlpha letter)

theorem isAscii_of_isLower (small : c.isLower = true) : IsAscii c :=
  isAscii_of_isAlpha (isAlpha_of_isLower small)

theorem isAscii_of_isDigit (digit : c.isDigit = true) : IsAscii c :=
  isAscii_of_isAlphanum (isAlphanum_of_isDigit digit)

theorem isDigit_of_isAlpha (letter : c.isAlpha = true) : c.isDigit = false :=
  forall_ascii (P := fun c => c.isAlpha = true → c.isDigit = false) (by decide)
    (isAscii_of_isAlpha letter) letter

theorem isDigit_of_isLower (small : c.isLower = true) : c.isDigit = false :=
  isDigit_of_isAlpha (isAlpha_of_isLower small)

theorem isAlpha_of_isDigit (digit : c.isDigit = true) : c.isAlpha = false :=
  forall_ascii (P := fun c => c.isDigit = true → c.isAlpha = false) (by decide)
    (isAscii_of_isDigit digit) digit

theorem isUpper_of_isLower (small : c.isLower = true) : c.isUpper = false :=
  forall_ascii (P := fun c => c.isLower = true → c.isUpper = false) (by decide)
    (isAscii_of_isLower small) small

theorem isUpper_of_isDigit (ascii : IsAscii c) (digit : c.isDigit = true) : c.isUpper = false :=
  forall_ascii (P := fun c => c.isDigit = true → c.isUpper = false) (by decide) ascii digit

theorem lowerCase_of_ascii (ascii : IsAscii c) : lowerCase c = [c.toLower] := if_pos ascii

theorem upperCase_of_ascii (ascii : IsAscii c) : upperCase c = [c.toUpper] := if_pos ascii

theorem isUpperCase_of_ascii (ascii : IsAscii c) : isUpperCase c = c.isUpper := if_pos ascii

theorem isLowerCase_of_ascii (ascii : IsAscii c) : isLowerCase c = c.isLower := if_pos ascii

theorem isAlphabetic_of_ascii (ascii : IsAscii c) : isAlphabetic c = c.isAlpha := if_pos ascii

theorem isAscii_toLower (ascii : IsAscii c) : IsAscii c.toLower :=
  forall_ascii (P := fun c => IsAscii c.toLower) (by decide) ascii

theorem isUpper_toLower (ascii : IsAscii c) : c.toLower.isUpper = false :=
  forall_ascii (P := fun c => c.toLower.isUpper = false) (by decide) ascii

theorem isAlpha_toLower (ascii : IsAscii c) : c.toLower.isAlpha = c.isAlpha :=
  forall_ascii (P := fun c => c.toLower.isAlpha = c.isAlpha) (by decide) ascii

theorem isDigit_toLower (ascii : IsAscii c) : c.toLower.isDigit = c.isDigit :=
  forall_ascii (P := fun c => c.toLower.isDigit = c.isDigit) (by decide) ascii

theorem toLower_of_not_isUpper (ascii : IsAscii c) (lower : c.isUpper = false) : c.toLower = c :=
  forall_ascii (P := fun c => c.isUpper = false → c.toLower = c) (by decide) ascii lower

theorem toLower_toLower (ascii : IsAscii c) : c.toLower.toLower = c.toLower :=
  toLower_of_not_isUpper (isAscii_toLower ascii) (isUpper_toLower ascii)

/-- Only letters change their case. -/
theorem toLower_eq_iff {mark : Char} (plain : mark.isAlpha = false) (ascii : IsAscii c) :
    c.toLower = mark ↔ c = mark := by
  constructor
  · intro same
    have noLetter : c.isAlpha = false := by rw [← isAlpha_toLower ascii, same, plain]
    have noCapital : c.isUpper = false := by
      exact (Bool.or_eq_false_iff.mp noLetter).1
    rwa [toLower_of_not_isUpper ascii noCapital] at same
  · rintro rfl
    exact toLower_of_not_isUpper ascii (Bool.or_eq_false_iff.mp plain).1

theorem isAscii_toUpper (ascii : IsAscii c) : IsAscii c.toUpper :=
  forall_ascii (P := fun c => IsAscii c.toUpper) (by decide) ascii

theorem isLower_toUpper (ascii : IsAscii c) : c.toUpper.isLower = false :=
  forall_ascii (P := fun c => c.toUpper.isLower = false) (by decide) ascii

theorem isUpper_toUpper (letter : c.isAlpha = true) : c.toUpper.isUpper = true :=
  forall_ascii (P := fun c => c.isAlpha = true → c.toUpper.isUpper = true) (by decide)
    (isAscii_of_isAlpha letter) letter

theorem isAlpha_toUpper (ascii : IsAscii c) : c.toUpper.isAlpha = c.isAlpha :=
  forall_ascii (P := fun c => c.toUpper.isAlpha = c.isAlpha) (by decide) ascii

theorem isAlphanum_toUpper (ascii : IsAscii c) : c.toUpper.isAlphanum = c.isAlphanum :=
  forall_ascii (P := fun c => c.toUpper.isAlphanum = c.isAlphanum) (by decide) ascii

theorem toUpper_of_isDigit (digit : c.isDigit = true) : c.toUpper = c :=
  forall_ascii (P := fun c => c.isDigit = true → c.toUpper = c) (by decide) (isAscii_of_isDigit digit) digit

theorem toUpper_toLower (ascii : IsAscii c) : c.toLower.toUpper = c.toUpper :=
  forall_ascii (P := fun c => c.toLower.toUpper = c.toUpper) (by decide) ascii

theorem toLower_toUpper (ascii : IsAscii c) : c.toUpper.toLower = c.toLower :=
  forall_ascii (P := fun c => c.toUpper.toLower = c.toLower) (by decide) ascii

/-- The capital of a small letter is an ASCII capital, and the letter is its lower-case form. -/
theorem toUpper_of_isLower (small : c.isLower = true) :
    IsAscii c.toUpper ∧ c.toUpper.isUpper = true ∧ c.toUpper.toLower = c := by
  have ascii := isAscii_of_isLower small
  refine ⟨isAscii_toUpper ascii, isUpper_toUpper (isAlpha_of_isLower small), ?_⟩
  rw [toLower_toUpper ascii, toLower_of_not_isUpper ascii (isUpper_of_isLower small)]

end QuerySynth.Text
