import QuerySynth.Proofs.Code.Identifier
import QuerySynth.Proofs.Name.RoundTrip
import QuerySynth.Rest.Normalize

/-! # Capitalised names that settle

Without delimiters some word starts of a name are not found again, so its capitalised form may change once
more. After that it stays: in a capitalised form both conversions only choose anew which letters are
capitals, and with that choice every word still starts where it did.
-/

namespace QuerySynth

namespace Name

open Text
open Code (isWordChar)

theorem isAlpha_or_isDigit {c : Char} (word : isWordChar c = true) (mark : c ≠ delimiter) :
    c.isAlpha = true ∨ c.isDigit = true :=
  Bool.or_eq_true_iff.mp ((Bool.or_eq_true_iff.mp word).resolve_right fun same => mark (beq_iff_eq.mp same))

/-- The capitalised form, read character by character: a letter that follows no letter becomes a capital. -/
def raised (previous : Option Char) : List Char → List Char
  | [] => []
  | c :: rest =>
    (if c = delimiter then [] else if previous.any Char.isAlpha then [c] else [c.toUpper]) ++
      raised (some c) rest

theorem capitalize_cons_of_digit {c : Char} (digit : c.isDigit = true) (rest : List Char) :
    capitalize (c :: rest) = c :: capitalize rest := by
  simp [capitalize, digit]

theorem capitalize_cons_of_letter {c : Char} (letter : c.isAlpha = true) (rest : List Char) :
    capitalize (c :: rest) = c.toUpper :: rest := by
  simp [capitalize, isDigit_of_isAlpha letter, upperCase_of_ascii (isAscii_of_isAlpha letter)]

/-- The first piece goes on with the token that `previous` is in, the others are tokens of their own. -/
theorem raised_eq_of_splitOn {previous : Option Char} {name piece : List Char} {pieces : List (List Char)}
    (separated : (previous.toList ++ name).IsChain Separated) (words : ∀ c ∈ name, isWordChar c = true)
    (split : splitOn delimiter name = piece :: pieces) :
    raised previous name =
      (if previous.any Char.isAlpha then piece else capitalize piece) ++ pieces.flatMap capitalize := by
  induction name generalizing previous piece pieces with
  | nil =>
    obtain ⟨rfl, rfl⟩ : [] = piece ∧ [] = pieces := by simpa [splitOn] using split
    cases previous.any Char.isAlpha <;> rfl
  | cons c rest ih =>
    have separatedRest : ((some c).toList ++ rest).IsChain Separated := separated.right_of_append
    obtain ⟨word, wordsRest⟩ := List.forall_mem_cons.mp words
    obtain ⟨first, others, later⟩ := List.exists_cons_of_ne_nil (splitOn_ne_nil delimiter rest)
    have tail := ih separatedRest wordsRest later
    by_cases mark : c = delimiter
    · subst mark
      obtain ⟨rfl, rfl⟩ : [] = piece ∧ first :: others = pieces := by simpa [splitOn, later] using split
      rw [raised, if_pos rfl, tail]
      cases previous.any Char.isAlpha <;> rfl
    · obtain ⟨rfl, rfl⟩ : c :: first = piece ∧ others = pieces := by
        simpa [splitOn, later, mark] using split
      have known := isAlpha_or_isDigit word mark
      rw [raised, if_neg mark, tail]
      cases inToken : previous.any Char.isAlpha with
      | true =>
        obtain ⟨p, rfl, letter⟩ := (Option.any_eq_true _ _).mp inToken
        have fits : Separated p c := (List.isChain_cons_cons.mp separated).1
        have alpha : c.isAlpha = true := known.resolve_right fun digit => fits.2 ⟨letter, digit⟩
        simp [alpha]
      | false =>
        rcases known with alpha | digit
        · simp [alpha, capitalize_cons_of_letter alpha]
        · simp [isAlpha_of_isDigit digit, capitalize_cons_of_digit digit, toUpper_of_isDigit digit]

theorem pascal_eq_raised {name : List Char} (canonical : Canonical name)
    (words : ∀ c ∈ name, isWordChar c = true) : pascal name = raised none name := by
  obtain ⟨piece, pieces, split⟩ := List.exists_cons_of_ne_nil (splitOn_ne_nil delimiter name)
  have empty (tokens : List (List Char)) :
      (tokens.filter (!·.isEmpty)).flatMap capitalize = tokens.flatMap capitalize := by
    induction tokens with
    | nil => rfl
    | cons token tokens ih => cases token <;> simp [ih, capitalize]
  rw [raised_eq_of_splitOn (by simpa using canonical.separated) words split, pascal, empty, split]
  rfl

/-- Neighbours in a capitalised form: a small letter follows a letter. -/
def Follows (a b : Char) : Prop :=
  b.isLower = true → a.isAlpha = true

/-- Texts of letters and digits where every small letter follows a letter. A delimiter stands for what is in
front. -/
structure Capitalized (text : List Char) : Prop where
  words : ∀ c ∈ text, c.isAlphanum = true
  follows : (delimiter :: text).IsChain Follows

/-- The invariant of `raised`: what is emitted fits what was emitted before, a letter where the name has one. -/
theorem follows_raised {before : Char} {previous : Option Char} {name : List Char}
    (words : ∀ c ∈ name, isWordChar c = true)
    (letter : previous.any Char.isAlpha = true → before.isAlpha = true) :
    (before :: raised previous name).IsChain Follows := by
  induction name generalizing before previous with
  | nil => exact .singleton _
  | cons c rest ih =>
    obtain ⟨word, wordsRest⟩ := List.forall_mem_cons.mp words
    have ascii := Code.isAscii_of_isWordChar word
    rw [raised]
    split
    · rename_i mark
      subst mark
      exact ih wordsRest fun inToken => absurd inToken (by decide)
    · split
      · rename_i inToken
        exact .cons_cons (fun _ => letter inToken) (ih wordsRest id)
      · refine .cons_cons (fun small => ?_) (ih wordsRest fun alpha => ?_)
        · rw [isLower_toUpper ascii] at small
          cases small
        · rwa [isAlpha_toUpper ascii]

theorem isAlphanum_of_mem_raised {previous : Option Char} {name : List Char}
    (words : ∀ c ∈ name, isWordChar c = true) {c : Char} (member : c ∈ raised previous name) :
    c.isAlphanum = true := by
  induction name generalizing previous with
  | nil => cases member
  | cons d rest ih =>
    obtain ⟨word, wordsRest⟩ := List.forall_mem_cons.mp words
    rw [raised, List.mem_append] at member
    rcases member with here | later
    · split at here
      · cases here
      · rename_i mark
        have known : d.isAlphanum = true := Bool.or_eq_true_iff.mpr (isAlpha_or_isDigit word mark)
        split at here
        · rwa [List.mem_singleton.mp here]
        · rwa [List.mem_singleton.mp here, isAlphanum_toUpper (isAscii_of_isAlphanum known)]
    · exact ih wordsRest later

theorem capitalized_pascal {name : List Char} (canonical : Canonical name)
    (words : ∀ c ∈ name, isWordChar c = true) : Capitalized (pascal name) := by
  rw [pascal_eq_raised canonical words]
  refine ⟨fun c member => isAlphanum_of_mem_raised words member, follows_raised words ?_⟩
  intro inToken
  cases inToken

section Delimited

variable {text : List Char} (words : ∀ c ∈ text, c.isAlphanum = true)

include words

theorem getLast?_delimited {previous : Option Char} {last : Char}
    (ends : (delimited previous text).getLast? = some last) : last ≠ delimiter := by
  induction text generalizing previous with
  | nil => cases ends
  | cons c rest ih =>
    obtain ⟨word, wordsRest⟩ := List.forall_mem_cons.mp words
    have ascii := isAscii_of_isAlphanum word
    have mark := ne_delimiter_of_isAlphanum word
    rw [delimited_cons ascii mark, List.getLast?_append_of_ne_nil _ (List.cons_ne_nil _ _),
      List.getLast?_cons] at ends
    cases later : (delimited (some c) rest).getLast? with
    | none =>
      rw [later] at ends
      obtain rfl : c.toLower = last := Option.some.inj ends
      rwa [Ne, toLower_eq_iff (by decide) ascii]
    | some d =>
      rw [later] at ends
      obtain rfl : d = last := Option.some.inj ends
      exact ih wordsRest later

/-- Letters and digits are divided by delimiters inside only. -/
theorem snake_eq_delimited : snake text = delimited none text := by
  apply trimEnds_of_ends
  · intro first starts
    cases text with
    | nil => cases starts
    | cons c rest =>
      have word := words c List.mem_cons_self
      have ascii := isAscii_of_isAlphanum word
      have mark := ne_delimiter_of_isAlphanum word
      rw [delimited_cons ascii mark] at starts
      obtain rfl : c.toLower = first := Option.some.inj starts
      rw [beq_eq_false_iff_ne, Ne, toLower_eq_iff (by decide) ascii]
      exact mark
  · intro last ends
    simpa using getLast?_delimited words ends

end Delimited

/-- The case of a letter after both conversions: capital in front, after a digit and where a word starts. -/
def recase (previous : Option Char) (c : Char) (next : Option Char) : Char :=
  if previous.any fun p => p.isAlpha && !startsWord p c next then c.toLower else c.toUpper

def recased (previous : Option Char) : List Char → List Char
  | [] => []
  | c :: rest => recase previous c rest.head? :: recased (some c) rest

/-- A letter is raised again after a delimiter that was put in, and where it follows no letter. -/
theorem raised_delimited (previous : Option Char) {text : List Char}
    (ascii : ∀ p, previous = some p → IsAscii p) (words : ∀ c ∈ text, c.isAlphanum = true) :
    raised (previous.map Char.toLower) (delimited previous text) = recased previous text := by
  induction text generalizing previous with
  | nil => rfl
  | cons c rest ih =>
    obtain ⟨word, wordsRest⟩ := List.forall_mem_cons.mp words
    have asciiHead : IsAscii c := isAscii_of_isAlphanum word
    have mark : c ≠ delimiter := ne_delimiter_of_isAlphanum word
    have mark' : c.toLower ≠ delimiter := by rwa [Ne, toLower_eq_iff (by decide) asciiHead]
    have tail : raised (some c.toLower) (delimited (some c) rest) = recased (some c) rest :=
      ih (some c) (by rintro p ⟨⟩; exact asciiHead) wordsRest
    rw [delimited_cons asciiHead mark, recased, recase]
    cases previous with
    | none => simp [raised, mark', tail, toUpper_toLower asciiHead]
    | some p =>
      have asciiBefore : IsAscii p := ascii p rfl
      have noLetter : delimiter.isAlpha = false := by decide
      cases starts : startsWord p c rest.head? with
      | true => simp [raised, mark', starts, noLetter, tail, toUpper_toLower asciiHead]
      | false =>
        cases letter : p.isAlpha <;>
          simp [raised, mark', starts, letter, isAlpha_toLower asciiBefore, tail, toUpper_toLower asciiHead]

section Recase

variable {a c : Char} (ascii : IsAscii c) (previous next : Option Char)

include ascii in
theorem isAscii_recase : IsAscii (recase previous c next) := by
  rw [recase]
  split
  · exact isAscii_toLower ascii
  · exact isAscii_toUpper ascii

include ascii in
theorem isAlpha_recase : (recase previous c next).isAlpha = c.isAlpha := by
  rw [recase]
  split
  · exact isAlpha_toLower ascii
  · exact isAlpha_toUpper ascii

include ascii in
theorem toLower_recase : (recase previous c next).toLower = c.toLower := by
  rw [recase]
  split
  · exact toLower_toLower ascii
  · exact toLower_toUpper ascii

theorem recase_ne_delimiter (word : c.isAlphanum = true) : recase previous c next ≠ delimiter := by
  have ascii := isAscii_of_isAlphanum word
  intro same
  have lowered := toLower_recase ascii previous next
  rw [same] at lowered
  exact ne_delimiter_of_isAlphanum word ((toLower_eq_iff (by decide) ascii).mp lowered.symm)

/-- A small letter that follows a letter stays small: no word starts there. -/
theorem recase_of_isLower (small : c.isLower = true) (letter : a.isAlpha = true) :
    recase (some a) c next = c := by
  have ascii := isAscii_of_isLower small
  simp [recase, letter, startsWord_of_isLower small, toLower_of_not_isUpper ascii (isUpper_of_isLower small)]

end Recase

section WordStarts

variable {a a' c : Char} {rest : List Char}

/-- A word starts where it did when the characters around it are letters as before, and small if they were. -/
theorem startsWord_recase {next next' : Option Char} (word : c.isAlphanum = true) (ascii : IsAscii a)
    (ascii' : IsAscii a') (letter : a'.isAlpha = a.isAlpha) (small : a.isLower = true → a'.isLower = true)
    (smallNext : next.any isLowerCase = true → next'.any isLowerCase = true) :
    startsWord a' (recase (some a) c next) next' = startsWord a c next := by
  rcases Bool.or_eq_true_iff.mp word with alpha | digit
  · have asciiHead := isAscii_of_isAlpha alpha
    have kept : (recase (some a) c next).isAlpha = true := (isAlpha_recase asciiHead _ _).trans alpha
    rw [startsWord_of_isAlpha kept ascii']
    cases starts : startsWord a c next with
    | true =>
      have raised : recase (some a) c next = c.toUpper := by simp [recase, starts]
      rw [startsWord_of_isAlpha alpha ascii, Bool.and_eq_true, Bool.or_eq_true, Bool.and_eq_true] at starts
      rw [raised, isUpper_toUpper alpha, Bool.true_and, Bool.or_eq_true, Bool.and_eq_true]
      -- A small letter before it is one still. Of two capitals the second has a small letter after it.
      rcases starts.2 with lower | ⟨upper, follows⟩
      · exact .inl (small lower)
      · rw [isAlpha_of_isUpper upper] at letter
        exact (Bool.or_eq_true_iff.mp letter).symm.imp_right fun upper' => ⟨upper', smallNext follows⟩
    | false =>
      cases inWord : a.isAlpha with
      | true =>
        have lowered : recase (some a) c next = c.toLower := by simp [recase, starts, inWord]
        rw [lowered, isUpper_toLower asciiHead, Bool.false_and]
      | false =>
        rw [inWord] at letter
        obtain ⟨noUpper, noLower⟩ := Bool.or_eq_false_iff.mp letter
        rw [noUpper, noLower, Bool.false_and, Bool.or_false, Bool.and_false]
  · have same : recase (some a) c next = c := by
      have ascii := isAscii_of_isDigit digit
      rw [recase, toUpper_of_isDigit digit, toLower_of_not_isUpper ascii (isUpper_of_isDigit ascii digit),
        ite_self]
    rw [same, startsWord_of_isDigit digit ascii', startsWord_of_isDigit digit ascii, letter]

/-- What follows starts with a small letter if it did. -/
theorem any_head?_recased (words : ∀ c ∈ rest, c.isAlphanum = true) (follows : (a :: rest).IsChain Follows)
    (small : rest.head?.any isLowerCase = true) : (recased (some a) rest).head?.any isLowerCase = true := by
  cases rest with
  | nil => exact small
  | cons c rest =>
    have ascii := isAscii_of_isAlphanum (words c List.mem_cons_self)
    have isSmall : c.isLower = true := (isLowerCase_of_ascii ascii).symm.trans small
    have letter := (List.isChain_cons_cons.mp follows).1 isSmall
    rw [recased, recase_of_isLower _ isSmall letter]
    exact small

/-- With the capitals chosen anew the words start where they did. -/
theorem delimited_recased (ascii : IsAscii a) (ascii' : IsAscii a') (letter : a'.isAlpha = a.isAlpha)
    (small : a.isLower = true → a'.isLower = true) (words : ∀ c ∈ rest, c.isAlphanum = true)
    (follows : (a :: rest).IsChain Follows) :
    delimited (some a') (recased (some a) rest) = delimited (some a) rest := by
  induction rest generalizing a a' with
  | nil => rfl
  | cons c rest ih =>
    obtain ⟨word, wordsRest⟩ := List.forall_mem_cons.mp words
    obtain ⟨here, later⟩ := List.isChain_cons_cons.mp follows
    have asciiHead := isAscii_of_isAlphanum word
    have kept : c.isLower = true → (recase (some a) c rest.head?).isLower = true := by
      intro isSmall
      rwa [recase_of_isLower _ isSmall (here isSmall)]
    have tail := ih asciiHead (isAscii_recase asciiHead _ _) (isAlpha_recase asciiHead _ _) kept wordsRest later
    have starts := startsWord_recase word ascii ascii' letter small (any_head?_recased wordsRest later)
    rw [recased, delimited_cons (isAscii_recase asciiHead _ _) (recase_ne_delimiter _ _ word), tail,
      toLower_recase asciiHead, delimited_cons asciiHead (ne_delimiter_of_isAlphanum word), Option.any_some,
      starts, Option.any_some]

end WordStarts

section Settled

variable {text : List Char} (capitalized : Capitalized text)

include capitalized

theorem delimited_recased_none : delimited none (recased none text) = delimited none text := by
  cases text with
  | nil => rfl
  | cons c rest =>
    obtain ⟨word, wordsRest⟩ := List.forall_mem_cons.mp capitalized.words
    obtain ⟨front, follows⟩ := List.isChain_cons_cons.mp capitalized.follows
    have ascii := isAscii_of_isAlphanum word
    have large : c.isLower ≠ true := fun small => absurd (front small) (by decide)
    have tail := delimited_recased ascii (isAscii_recase ascii none rest.head?)
      (isAlpha_recase ascii none rest.head?) (fun small => absurd small large) wordsRest follows
    rw [recased, delimited_cons (isAscii_recase ascii _ _) (recase_ne_delimiter _ _ word), tail,
      toLower_recase ascii, delimited_cons ascii (ne_delimiter_of_isAlphanum word), Option.any_none,
      Option.any_none]

/-- Both conversions of a capitalised form keep its delimited form. -/
theorem snake_pascal_snake : snake (pascal (snake text)) = snake text := by
  have canonical : Canonical (snake text) :=
    canonical_snake fun c inside => isAscii_of_isAlphanum (capitalized.words c inside)
  have words : ∀ c ∈ snake text, isWordChar c = true := fun _ =>
    Code.isWordChar_of_mem_snake fun c inside => Code.isWordChar_of_isAlphanum (capitalized.words c inside)
  have both : pascal (snake text) = recased none text := by
    rw [pascal_eq_raised canonical words, snake_eq_delimited capitalized.words]
    exact raised_delimited none nofun capitalized.words
  have wordsBoth : ∀ c ∈ recased none text, c.isAlphanum = true :=
    both ▸ (capitalized_pascal canonical words).words
  rw [both, snake_eq_delimited wordsBoth, delimited_recased_none capitalized,
    snake_eq_delimited capitalized.words]

end Settled

end Name

namespace Rest

open Name

/-- The canonical name of a schema may have a canonical name of its own, but that one stays. -/
theorem canonicalName_settles {name : String} (words : ∀ c ∈ name.toList, Code.isWordChar c = true) :
    toSnake (canonicalName (canonicalName name)) = toSnake (canonicalName name) ∧
      canonicalName (canonicalName (canonicalName name)) = canonicalName (canonicalName name) := by
  have canonical : Canonical (snake name.toList) :=
    canonical_snake fun c inside => Code.isAscii_of_isWordChar (words c inside)
  have capitalized := capitalized_pascal canonical fun _ => Code.isWordChar_of_mem_snake words
  have settled : toSnake (canonicalName (canonicalName name)) = toSnake (canonicalName name) := by
    simp only [canonicalName, toSnake, toPascal, String.toList_ofList, snake_pascal_snake capitalized]
  refine ⟨settled, ?_⟩
  rw [canonicalName, settled, ← canonicalName]

/-- A name with words of one letter: both are one word at first, and its capital comes last. -/
theorem canonicalName_settles_letters :
    (∀ c ∈ "a_b_1c".toList, Code.isWordChar c = true) ∧
      canonicalName "a_b_1c" = "AB1C" ∧ canonicalName "AB1C" = "Ab1C" ∧
      toSnake "Ab1C" = toSnake "AB1C" ∧ canonicalName "Ab1C" = "Ab1C" := by
  have words : ∀ c ∈ "a_b_1c".toList, Code.isWordChar c = true := List.all_eq_true.mp (by decide)
  have first : canonicalName "a_b_1c" = "AB1C" := by decide
  have second : canonicalName "AB1C" = "Ab1C" := by decide
  obtain ⟨found, stays⟩ := canonicalName_settles words
  rw [first, second] at found stays
  exact ⟨words, first, second, found, stays⟩

end Rest

end QuerySynth
