import Mathlib.Data.List.TakeWhile
import QuerySynth.Proofs.Name.Canonical
import QuerySynth.Schema.Basic

/-! # Names that survive both conversions

The tokens of a regular name are two or more letters, or digits followed by letters; the last one may
be digits alone. The capitalised form of such a name has no delimiters, and `snake` finds all of them
again and no other one. So regular names have distinct capitalised forms, and distinct resources have
distinct request messages.

A single letter is no token: its capital would stand in one run with the capital after it.
-/

namespace QuerySynth

namespace Name

open Text

/-- Letters from a to z. -/
def Letters (text : List Char) : Prop :=
  ∀ c ∈ text, c.isLower = true

/-- One or more digits. -/
def Numeral (text : List Char) : Prop :=
  text ≠ [] ∧ ∀ c ∈ text, c.isDigit = true

/-- A token that may stand anywhere in a regular name. -/
inductive Token : List Char → Prop where
  /-- Two or more letters. -/
  | word {letters : List Char} (small : Letters letters) (long : 2 ≤ letters.length) : Token letters
  /-- Digits followed by one or more letters. -/
  | counted {digits letters : List Char} (numeral : Numeral digits) (small : Letters letters)
      (nonempty : letters ≠ []) : Token (digits ++ letters)

/-- The tokens of a regular name, in order. Only the last one may be digits alone. -/
inductive Tokens : List (List Char) → Prop where
  | last {token : List Char} (known : Token token ∨ Numeral token) : Tokens [token]
  | cons {token : List Char} {rest : List (List Char)} (first : Token token) (later : Tokens rest) :
      Tokens (token :: rest)

/-- A name that is made of tokens, joined by delimiters. -/
def Regular (name : String) : Prop :=
  ∃ tokens, Tokens tokens ∧ name.toList = List.intercalate [delimiter] tokens

section Characters

variable {c previous : Char}

theorem startsWord_of_isLower (small : c.isLower = true) (previous : Char) (next : Option Char) :
    startsWord previous c next = false := by
  rw [startsWord, isUpperCase_of_ascii (isAscii_of_isLower small), isUpper_of_isLower small,
    isDigit_of_isLower small]
  rfl

/-- Digits start a word exactly after a letter. -/
theorem startsWord_of_isDigit (digit : c.isDigit = true) (before : IsAscii previous)
    (next : Option Char) : startsWord previous c next = previous.isAlpha := by
  have ascii := isAscii_of_isDigit digit
  rw [startsWord, isUpperCase_of_ascii ascii, isUpper_of_isDigit ascii digit, digit,
    isAlphabetic_of_ascii before]
  rfl

/-- A letter starts a word if it is a capital, after a small letter or before one. -/
theorem startsWord_of_isAlpha (letter : c.isAlpha = true) (before : IsAscii previous) (next : Option Char) :
    startsWord previous c next =
      (c.isUpper && (previous.isLower || (previous.isUpper && next.any isLowerCase))) := by
  rw [startsWord, isUpperCase_of_ascii (isAscii_of_isAlpha letter), isDigit_of_isAlpha letter,
    isLowerCase_of_ascii before, isUpperCase_of_ascii before]
  cases c.isUpper <;> rfl

/-- After a letter a capital starts a word if a small letter follows. -/
theorem startsWord_toUpper_of_isAlpha {next : Char} (small : c.isLower = true)
    (letter : previous.isAlpha = true) (follows : next.isLower = true) :
    startsWord previous c.toUpper (some next) = true := by
  obtain ⟨-, capital, -⟩ := toUpper_of_isLower small
  have smallNext : isLowerCase next = true := by
    rwa [isLowerCase_of_ascii (isAscii_of_isLower follows)]
  have known : previous.isUpper = true ∨ previous.isLower = true := Bool.or_eq_true_iff.mp letter
  rw [startsWord_of_isAlpha (isAlpha_of_isUpper capital) (isAscii_of_isAlpha letter), capital,
    Option.any_some, smallNext]
  rcases known with upper | lower
  · simp [upper]
  · simp [lower]

/-- After a digit a capital starts no word. -/
theorem startsWord_toUpper_of_isDigit (small : c.isLower = true) (digit : previous.isDigit = true)
    (next : Option Char) : startsWord previous c.toUpper next = false := by
  obtain ⟨-, capital, -⟩ := toUpper_of_isLower small
  obtain ⟨noUpper, noLower⟩ : previous.isUpper = false ∧ previous.isLower = false :=
    Bool.or_eq_false_iff.mp (isAlpha_of_isDigit digit)
  rw [startsWord_of_isAlpha (isAlpha_of_isUpper capital) (isAscii_of_isDigit digit), noUpper, noLower,
    Bool.false_and, Bool.or_false, Bool.and_false]

end Characters

theorem capitalize_of_letter {digits rest : List Char} {c : Char} (numeral : ∀ d ∈ digits, d.isDigit = true)
    (small : c.isLower = true) : capitalize (digits ++ c :: rest) = digits ++ c.toUpper :: rest := by
  have noDigit : c.isDigit = false := isDigit_of_isLower small
  rw [capitalize, List.takeWhile_append_of_pos numeral, List.dropWhile_append_of_pos numeral]
  simp [noDigit, upperCase_of_ascii (isAscii_of_isLower small)]

theorem capitalize_of_numeral {digits : List Char} (numeral : ∀ d ∈ digits, d.isDigit = true) :
    capitalize digits = digits := by
  rw [capitalize, List.takeWhile_eq_self_iff.mpr numeral, List.dropWhile_eq_nil_iff.mpr numeral,
    List.append_nil]

section Delimited

variable {previous : Option Char} {c : Char} {text rest : List Char}

/-- A character that is no delimiter is written in lower case, after a delimiter if it starts a word. -/
theorem delimited_cons (ascii : IsAscii c) (mark : c ≠ delimiter) :
    delimited previous (c :: rest) =
      (if previous.any (startsWord · c rest.head?) then [delimiter] else []) ++
        c.toLower :: delimited (some c) rest := by
  have kept : ¬(c = delimiter ∧ previous = some delimiter) := fun both => mark both.1
  simp [delimited, lowerCase_of_ascii ascii, kept]

theorem ne_delimiter_of_isAlphanum (word : c.isAlphanum = true) : c ≠ delimiter := by
  rintro rfl
  exact absurd word (by decide)

/-- Small letters after a letter stay as they are. -/
theorem delimited_letters {before : Char} (letter : before.isAlpha = true) (small : Letters text) :
    ∃ last : Char, last.isAlpha = true ∧
      ∀ rest, delimited (some before) (text ++ rest) = text ++ delimited (some last) rest := by
  induction text generalizing before with
  | nil => exact ⟨before, letter, fun rest => rfl⟩
  | cons c text ih =>
    have here : c.isLower = true := small c List.mem_cons_self
    have alpha : c.isAlpha = true := isAlpha_of_isLower here
    obtain ⟨last, isLetter, same⟩ := ih alpha fun d inside => small d (List.mem_cons_of_mem _ inside)
    refine ⟨last, isLetter, fun rest => ?_⟩
    have ascii := isAscii_of_isLower here
    rw [List.cons_append,
      delimited_cons ascii (ne_delimiter_of_isAlphanum (isAlphanum_of_isAlpha alpha)), same]
    simp [startsWord_of_isLower here, toLower_of_not_isUpper ascii (isUpper_of_isLower here)]

/-- Digits after a digit stay as they are. -/
theorem delimited_digits {before : Char} (digit : before.isDigit = true)
    (numeral : ∀ c ∈ text, c.isDigit = true) :
    ∃ last : Char, last.isDigit = true ∧
      ∀ rest, delimited (some before) (text ++ rest) = text ++ delimited (some last) rest := by
  induction text generalizing before with
  | nil => exact ⟨before, digit, fun rest => rfl⟩
  | cons c text ih =>
    have here : c.isDigit = true := numeral c List.mem_cons_self
    obtain ⟨last, isDigit, same⟩ := ih here fun d inside => numeral d (List.mem_cons_of_mem _ inside)
    refine ⟨last, isDigit, fun rest => ?_⟩
    have ascii := isAscii_of_isDigit here
    have noLetter := isAlpha_of_isDigit digit
    rw [List.cons_append,
      delimited_cons ascii (ne_delimiter_of_isAlphanum (isAlphanum_of_isDigit here)), same]
    simp [startsWord_of_isDigit here (isAscii_of_isDigit digit), noLetter,
      toLower_of_not_isUpper ascii (isUpper_of_isDigit ascii here)]

/-- The delimiter between what ended with `previous` and the next token. -/
def separator (previous : Option Char) : List Char :=
  if previous.isSome then [delimiter] else []

/-- A numeral after a letter, or in front, is set off from what precedes it. -/
theorem delimited_numeral (letter : ∀ p, previous = some p → p.isAlpha = true) (numeral : Numeral text) :
    ∃ last : Char, last.isDigit = true ∧ ∀ rest, delimited previous (text ++ rest) =
      separator previous ++ text ++ delimited (some last) rest := by
  obtain ⟨nonempty, digits⟩ := numeral
  obtain ⟨c, text, rfl⟩ := List.exists_cons_of_ne_nil nonempty
  have here : c.isDigit = true := digits c List.mem_cons_self
  obtain ⟨last, isDigit, same⟩ :=
    delimited_digits here fun d inside => digits d (List.mem_cons_of_mem _ inside)
  refine ⟨last, isDigit, fun rest => ?_⟩
  have ascii := isAscii_of_isDigit here
  rw [List.cons_append,
    delimited_cons ascii (ne_delimiter_of_isAlphanum (isAlphanum_of_isDigit here)), same,
    toLower_of_not_isUpper ascii (isUpper_of_isDigit ascii here)]
  cases previous with
  | none => rfl
  | some p =>
    have before := letter p rfl
    simp [separator, startsWord_of_isDigit here (isAscii_of_isAlpha before), before]

/-- A capitalised token after a letter, or in front, is set off from what precedes it, and not divided. -/
theorem delimited_token (letter : ∀ p, previous = some p → p.isAlpha = true) (token : Token text) :
    ∃ last : Char, last.isAlpha = true ∧ ∀ rest, delimited previous (capitalize text ++ rest) =
      separator previous ++ text ++ delimited (some last) rest := by
  cases token with
  | word small long =>
    obtain ⟨first, second, others, rfl⟩ : ∃ first second others, text = first :: second :: others := by
      match text, long with
      | first :: second :: others, _ => exact ⟨first, second, others, rfl⟩
    have smallFirst : first.isLower = true := small first (by simp)
    have smallSecond : second.isLower = true := small second (by simp)
    obtain ⟨ascii, capital, lowered⟩ := toUpper_of_isLower smallFirst
    have alpha : first.toUpper.isAlpha = true := isAlpha_of_isUpper capital
    have smallRest : Letters (second :: others) := fun c inside => small c (List.mem_cons_of_mem _ inside)
    obtain ⟨last, isLetter, same⟩ := delimited_letters alpha smallRest
    refine ⟨last, isLetter, fun rest => ?_⟩
    have capitalized : capitalize (first :: second :: others) = first.toUpper :: second :: others :=
      capitalize_of_letter (List.forall_mem_nil _) smallFirst
    rw [capitalized, List.cons_append,
      delimited_cons ascii (ne_delimiter_of_isAlphanum (isAlphanum_of_isAlpha alpha)), same, lowered]
    cases previous with
    | none => rfl
    | some p =>
      -- The capital starts a word because a second letter follows it.
      simp [separator, startsWord_toUpper_of_isAlpha smallFirst (letter p rfl) smallSecond]
  | @counted digits letters numeral small nonempty =>
    obtain ⟨c, others, rfl⟩ := List.exists_cons_of_ne_nil nonempty
    have smallFirst : c.isLower = true := small c List.mem_cons_self
    obtain ⟨ascii, capital, lowered⟩ := toUpper_of_isLower smallFirst
    have alpha : c.toUpper.isAlpha = true := isAlpha_of_isUpper capital
    obtain ⟨digit, isDigit, setOff⟩ := delimited_numeral letter numeral
    have smallRest : Letters others := fun d inside => small d (List.mem_cons_of_mem _ inside)
    obtain ⟨last, isLetter, same⟩ := delimited_letters alpha smallRest
    refine ⟨last, isLetter, fun rest => ?_⟩
    rw [capitalize_of_letter numeral.2 smallFirst, List.append_assoc, setOff, List.cons_append,
      delimited_cons ascii (ne_delimiter_of_isAlphanum (isAlphanum_of_isAlpha alpha)), same, lowered]
    -- The digits are set off from the letter before them, and the capital stays with its digits.
    simp [startsWord_toUpper_of_isDigit smallFirst isDigit]

/-- The whole name: every delimiter between tokens is found again, and no other one. -/
theorem delimited_tokens {tokens : List (List Char)} (known : Tokens tokens)
    (letter : ∀ p, previous = some p → p.isAlpha = true) :
    delimited previous (tokens.flatMap capitalize) =
      separator previous ++ List.intercalate [delimiter] tokens := by
  induction known generalizing previous with
  | @last token known =>
    rw [List.flatMap_singleton, List.intercalate_singleton]
    rcases known with token | numeral
    · obtain ⟨last, -, same⟩ := delimited_token letter token
      have whole := same []
      rwa [List.append_nil, delimited, List.append_nil] at whole
    · obtain ⟨last, -, same⟩ := delimited_numeral letter numeral
      have whole := same []
      rw [List.append_nil, delimited, List.append_nil] at whole
      rw [capitalize_of_numeral numeral.2, whole]
  | @cons token rest first later ih =>
    -- A token that is not the last one ends with a letter, as the rest of the name requires.
    obtain ⟨last, isLetter, same⟩ := delimited_token letter first
    have nonempty : rest ≠ [] := by cases later <;> simp
    rw [List.flatMap_cons, same, ih (by rintro p ⟨⟩; exact isLetter),
      List.intercalate_cons_of_ne_nil nonempty]
    simp [separator]

end Delimited

section Regular

variable {token : List Char} {tokens : List (List Char)} {c : Char}

/-- Tokens and numerals hold small letters and digits only. -/
theorem isLower_or_isDigit_of_mem (known : Token token ∨ Numeral token) (inside : c ∈ token) :
    c.isLower = true ∨ c.isDigit = true := by
  rcases known with token | numeral
  · cases token with
    | word small long => exact .inl (small c inside)
    | counted numeral small nonempty =>
      rcases List.mem_append.mp inside with digit | letter
      · exact .inr (numeral.2 c digit)
      · exact .inl (small c letter)
  · exact .inr (numeral.2 c inside)

theorem ne_nil_of_known (known : Token token ∨ Numeral token) : token ≠ [] := by
  rcases known with token | numeral
  · cases token with
    | word small long =>
      rintro rfl
      simp at long
    | counted numeral small nonempty => simp [nonempty]
  · exact numeral.1

private theorem separated_of_isLower {a b : Char} (small : b.isLower = true) : Separated a b := by
  constructor
  · rintro ⟨-, rfl⟩
    exact absurd small (by decide)
  · rintro ⟨-, digit⟩
    rw [isDigit_of_isLower small] at digit
    exact absurd digit (by decide)

private theorem separated_of_isDigit {a b : Char} (digit : a.isDigit = true) : Separated a b := by
  constructor
  · rintro ⟨rfl, -⟩
    exact absurd digit (by decide)
  · rintro ⟨letter, -⟩
    rw [isAlpha_of_isDigit digit] at letter
    exact absurd letter (by decide)

private theorem pairwise_letters {letters : List Char} (small : Letters letters) :
    letters.Pairwise Separated :=
  List.pairwise_iff_getElem.mpr fun _ _ _ later _ =>
    separated_of_isLower (small _ (List.getElem_mem later))

private theorem pairwise_digits {digits : List Char} (numeral : ∀ c ∈ digits, c.isDigit = true) :
    digits.Pairwise Separated :=
  List.pairwise_iff_getElem.mpr fun _ _ earlier _ _ =>
    separated_of_isDigit (numeral _ (List.getElem_mem earlier))

private theorem pairwise_of_known (known : Token token ∨ Numeral token) : token.Pairwise Separated := by
  rcases known with token | numeral
  · cases token with
    | word small long => exact pairwise_letters small
    | counted numeral small nonempty =>
      refine List.pairwise_append.mpr ⟨pairwise_digits numeral.2, pairwise_letters small, ?_⟩
      intro a digit b letter
      exact separated_of_isLower (small b letter)
  · exact pairwise_digits numeral.2

theorem canonical_of_known (known : Token token ∨ Numeral token) : Canonical token := by
  have word {c : Char} (inside : c ∈ token) : c.isLower = true ∨ c.isDigit = true :=
    isLower_or_isDigit_of_mem known inside
  have notMark {c : Char} (inside : c ∈ token) : c ≠ delimiter := by
    rintro rfl
    rcases word inside with small | digit
    · exact absurd small (by decide)
    · exact absurd digit (by decide)
  refine ⟨?_, ?_, ?_, ?_, ?_⟩
  · intro c inside
    rcases word inside with small | digit
    · exact isAscii_of_isLower small
    · exact isAscii_of_isDigit digit
  · intro c inside
    rcases word inside with small | digit
    · exact isUpper_of_isLower small
    · exact isUpper_of_isDigit (isAscii_of_isDigit digit) digit
  · intro c first
    exact notMark (List.mem_of_head? first)
  · intro c last
    exact notMark (List.mem_of_getLast? last)
  · exact (pairwise_of_known known).isChain

theorem Tokens.ne_nil (known : Tokens tokens) : tokens ≠ [] := by
  cases known <;> simp

theorem Tokens.known (known : Tokens tokens) : ∀ token ∈ tokens, Token token ∨ Numeral token := by
  induction known with
  | last known =>
    intro token member
    exact List.mem_singleton.mp member ▸ known
  | cons first later ih =>
    intro token member
    rcases List.mem_cons.mp member with rfl | inRest
    · exact .inl first
    · exact ih token inRest

/-- Regular names are canonical. -/
theorem canonical_of_tokens (known : Tokens tokens) : Canonical (List.intercalate [delimiter] tokens) :=
  canonical_intercalate (fun token member => canonical_of_known (known.known token member))
    (fun token member => ne_nil_of_known (known.known token member))

/-- The capitalised form of a regular name is that of its tokens. -/
theorem pascal_of_tokens (known : Tokens tokens) :
    pascal (List.intercalate [delimiter] tokens) = tokens.flatMap capitalize := by
  have noMark : ∀ token ∈ tokens, delimiter ∉ token := by
    intro token member inside
    rcases isLower_or_isDigit_of_mem (known.known token member) inside with small | digit
    · exact absurd small (by decide)
    · exact absurd digit (by decide)
  have nonempty : tokens.filter (!·.isEmpty) = tokens := by
    apply List.filter_eq_self.mpr
    intro token member
    simp [ne_nil_of_known (known.known token member)]
  rw [pascal, splitOn_eq_splitOn, List.splitOn_intercalate delimiter noMark known.ne_nil, nonempty]

/-- The delimited form of a capitalised regular name is the name. -/
theorem snake_pascal_of_tokens (known : Tokens tokens) :
    snake (pascal (List.intercalate [delimiter] tokens)) = List.intercalate [delimiter] tokens := by
  have front : ∀ p, (none : Option Char) = some p → p.isAlpha = true := by simp
  have found := delimited_tokens known front
  have canonical := canonical_of_tokens known
  rw [pascal_of_tokens known, snake, found]
  apply trimEnds_of_ends
  · intro c first
    simpa using canonical.head c first
  · intro c last
    simpa using canonical.last c last

end Regular

/-- A regular name survives both conversions. -/
theorem toSnake_toPascal {name : String} (regular : Regular name) : toSnake (toPascal name) = name := by
  obtain ⟨tokens, known, text⟩ := regular
  rw [toSnake, toPascal, String.toList_ofList, text, snake_pascal_of_tokens known, ← text,
    String.ofList_toList]

/-- Regular names with the same capitalised form are the same. -/
theorem toPascal_injective {first second : String} (regular : Regular first) (regular' : Regular second)
    (same : toPascal first = toPascal second) : first = second := by
  rw [← toSnake_toPascal regular, same, toSnake_toPascal regular']

end Name

/-- Requests of two kinds or of two regular resources have two names. -/
theorem MethodKind.requestName_injective {kind other : MethodKind} {first second : String}
    (regular : Name.Regular first) (regular' : Name.Regular second)
    (same : kind.requestName first = other.requestName second) : kind = other ∧ first = second := by
  have sameWord : kind = other := by
    have heads := congrArg (fun name => name.toList.head?) same
    cases kind <;> cases other
    · rfl
    · exact absurd heads (by simp [requestName, word])
    · exact absurd heads (by simp [requestName, word])
    · rfl
  subst sameWord
  simp only [requestName, String.append_left_inj, String.append_right_inj] at same
  exact ⟨rfl, Name.toPascal_injective regular regular' same⟩

/-- A regular name survives both conversions; so no other regular name has its capitalised form, and no
other regular resource its request messages. -/
theorem Name.Regular.roundTrip {name : String} (regular : Name.Regular name) :
    Name.toSnake (Name.toPascal name) = name ∧
      (∀ other, Name.Regular other → Name.toPascal other = Name.toPascal name → other = name) ∧
      ∀ other kind otherKind, Name.Regular other →
        MethodKind.requestName otherKind other = MethodKind.requestName kind name →
          otherKind = kind ∧ other = name := by
  refine ⟨toSnake_toPascal regular, ?_, ?_⟩
  · intro other regular' same
    exact toPascal_injective regular' regular same
  · intro other kind otherKind regular' same
    exact MethodKind.requestName_injective regular' regular same

/-- A name with a counted token in the middle and a numeral at its end. -/
theorem Name.roundTrip_lastHours :
    Name.Regular "last_24h_slots_7" ∧
      Name.toSnake (Name.toPascal "last_24h_slots_7") = "last_24h_slots_7" ∧
      (∀ other, Name.Regular other →
        Name.toPascal other = Name.toPascal "last_24h_slots_7" → other = "last_24h_slots_7") ∧
      ∀ other kind otherKind, Name.Regular other →
        MethodKind.requestName otherKind other = MethodKind.requestName kind "last_24h_slots_7" →
          otherKind = kind ∧ other = "last_24h_slots_7" := by
  have counted : Name.Token (['2', '4'] ++ ['h']) :=
    .counted ⟨by decide, List.all_eq_true.mp (by decide)⟩ (List.all_eq_true.mp (by decide)) (by decide)
  have numeral : Name.Numeral ['7'] := ⟨by decide, List.all_eq_true.mp (by decide)⟩
  have last : Name.Token ['l', 'a', 's', 't'] := .word (List.all_eq_true.mp (by decide)) (by decide)
  have slots : Name.Token ['s', 'l', 'o', 't', 's'] := .word (List.all_eq_true.mp (by decide)) (by decide)
  have regular : Name.Regular "last_24h_slots_7" :=
    ⟨_, .cons last (.cons counted (.cons slots (.last (.inr numeral)))), by decide⟩
  exact ⟨regular, regular.roundTrip⟩

example : Name.toSnake (Name.toPascal "a_b") = "ab" := by decide

end QuerySynth
