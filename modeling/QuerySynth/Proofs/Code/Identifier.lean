import QuerySynth.Code.Identifier
import QuerySynth.Proofs.Name.Canonical

/-! # Names and their identifiers

An identifier does not tell foreign characters apart, and the mark of an escaped name may be part of
another name. Apart from that, different names have different identifiers: the escaping of a name can be
undone.
-/

namespace QuerySynth.Code

section Words

theorem isWordChar_of_isAlphanum {c : Char} (known : c.isAlphanum = true) : isWordChar c = true :=
  Bool.or_eq_true_iff.mpr (.inl known)

theorem isAscii_of_isWordChar {c : Char} (word : isWordChar c = true) : Text.IsAscii c := by
  rcases Bool.or_eq_true_iff.mp word with known | mark
  · exact Text.isAscii_of_isAlphanum known
  · rw [beq_iff_eq.mp mark]
    decide

theorem isWordChar_toLower {c : Char} (word : isWordChar c = true) : isWordChar c.toLower = true :=
  Text.forall_ascii (P := fun c => isWordChar c = true → isWordChar c.toLower = true) (by decide)
    (isAscii_of_isWordChar word) word

/-- The delimited form of a name of word characters has no others. -/
theorem isWordChar_of_mem_snake {name : List Char} (words : ∀ c ∈ name, isWordChar c = true) {c : Char}
    (member : c ∈ Name.snake name) : isWordChar c = true := by
  have ascii : ∀ c ∈ name, Text.IsAscii c := fun c inside => isAscii_of_isWordChar (words c inside)
  rcases Name.mem_delimited ascii ((Text.isInfix_trimEnds _ _).subset member) with rfl | ⟨d, inside, rfl⟩
  · decide
  · exact isWordChar_toLower (words d inside)

end Words

/-- A name as its identifier shows it: all foreign characters look the same. -/
def spelled (name : String) : List Char :=
  name.toList.map fun c => if isWordChar c then c else '_'

/-- Names that stand for an escaped name. -/
def escapedNames : List (List Char) :=
  ("_" :: pathKeywords).map fun name => name.toList ++ ['_']

/-- A name that does not look like an escaped one. -/
structure Unescaped (name : String) : Prop where
  front : (spelled name).head? ≠ some '_'
  back : spelled name ∉ escapedNames

@[simp] theorem spelled_append (first second : String) :
    spelled (first ++ second) = spelled first ++ spelled second := by
  rw [spelled, String.toList_append, List.map_append, spelled, spelled]

/-- Names of word characters are spelled as they are. -/
theorem spelled_of_words {name : String} (words : ∀ c ∈ name.toList, isWordChar c = true) :
    spelled name = name.toList := by
  refine (List.map_congr_left ?_).trans (List.map_id _)
  intro c member
  exact if_pos (words c member)

/-- A name does not look escaped if the start of its spelling shows so. -/
theorem unescaped_of_isPrefix {name : String} {start : List Char} (starts : start <+: spelled name)
    (front : ∃ c, start.head? = some c ∧ c ≠ '_') (back : ∀ text ∈ escapedNames, ¬ start <+: text) :
    Unescaped name := by
  obtain ⟨rest, split⟩ := starts
  obtain ⟨c, first, letter⟩ := front
  constructor
  · rw [← split, List.head?_append, first]
    simpa using letter
  · intro escaped
    exact back _ escaped ⟨rest, split⟩

/-- The name that was escaped to a legal one. -/
def unescape (text : List Char) : List Char :=
  match text with
  | 'r' :: '#' :: rest => rest
  | _ => if text ∈ escapedNames then text.dropLast else text

theorem unescape_append {name : String} (escaped : name ∈ "_" :: pathKeywords) :
    unescape (name.toList ++ ['_']) = name.toList := by
  revert name
  decide

/-- Legal names can be told from each other when none of them looks escaped before. -/
theorem unescape_legalized {clean : String} (words : ∀ c ∈ clean.toList, isWordChar c = true)
    (plain : clean.toList ∉ escapedNames) : unescape (legalized clean).toList = clean.toList := by
  rw [legalized]
  split
  · rename_i place
    rw [String.toList_append]
    exact unescape_append (List.mem_cons_of_mem _ (List.contains_iff_mem.mp place))
  · split
    · rename_i lone
      rw [beq_iff_eq.mp lone]
      decide
    · split
      · rw [String.toList_append]
        rfl
      · rw [unescape]
        · rw [if_neg plain]
        · intro rest same
          -- A raw mark is no word character, so no clean name starts with one.
          have mark := words '#' (by simp [same])
          exact absurd mark (by decide)

variable {name first second : String}

theorem cleaned_eq (name : String) :
    cleaned name.toList =
      if (spelled name).head?.all Char.isDigit then '_' :: spelled name else spelled name := rfl

theorem isWordChar_of_mem_spelled {c : Char} (member : c ∈ spelled name) : isWordChar c = true := by
  obtain ⟨original, -, rfl⟩ := List.mem_map.mp member
  split
  · assumption
  · decide

theorem isWordChar_of_mem_cleaned {c : Char} (member : c ∈ cleaned name.toList) : isWordChar c = true := by
  rw [cleaned_eq] at member
  split at member
  · rcases List.mem_cons.mp member with rfl | inside
    · decide
    · exact isWordChar_of_mem_spelled inside
  · exact isWordChar_of_mem_spelled member

/-- Cleaning puts an underscore only in front of names that have none. -/
theorem cleaned_eq_iff (plain : Unescaped first) (other : Unescaped second) :
    cleaned first.toList = cleaned second.toList ↔ spelled first = spelled second := by
  rw [cleaned_eq, cleaned_eq]
  constructor
  · intro same
    split at same
    · split at same
      · exact List.tail_eq_of_cons_eq same
      · exact absurd (by rw [← same]; rfl) other.front
    · split at same
      · exact absurd (by rw [same]; rfl) plain.front
      · exact same
  · intro same
    rw [same]

theorem cleaned_notMem_escapedNames (plain : Unescaped name) : cleaned name.toList ∉ escapedNames := by
  rw [cleaned_eq]
  split
  · intro escaped
    have single : ∀ text ∈ escapedNames, text.head? = some '_' → text = ['_', '_'] := by decide
    have alone := List.tail_eq_of_cons_eq (single _ escaped rfl)
    exact plain.front (by rw [alone]; rfl)
  · exact plain.back

/-- Names that do not look escaped have one identifier exactly when they are spelled alike. -/
theorem ident_eq_iff (plain : Unescaped first) (other : Unescaped second) :
    ident first = ident second ↔ spelled first = spelled second := by
  rw [← cleaned_eq_iff plain other]
  constructor
  · intro same
    have undone {name : String} (plain : Unescaped name) :
        unescape (ident name).toList = cleaned name.toList := by
      rw [ident, unescape_legalized, String.toList_ofList]
      · rw [String.toList_ofList]
        exact fun c => isWordChar_of_mem_cleaned
      · rw [String.toList_ofList]
        exact cleaned_notMem_escapedNames plain
    rw [← undone plain, ← undone other, same]
  · intro same
    rw [ident, ident, same]

/-- Small letters and digits, with single underscores between them. -/
structure Underscored (name : String) : Prop where
  chars : ∀ c ∈ name.toList, c.isLower = true ∨ c.isDigit = true ∨ c = '_'
  head : name.toList.head? ≠ some '_'
  last : name.toList.getLast? ≠ some '_'
  single : name.toList.IsChain fun a b => ¬(a = '_' ∧ b = '_')

section Underscored

variable {name first second : String}

theorem Underscored.spelled_eq (underscored : Underscored name) : spelled name = name.toList := by
  apply spelled_of_words
  intro c member
  rcases underscored.chars c member with small | digit | rfl
  · exact isWordChar_of_isAlphanum (Text.isAlphanum_of_isAlpha (Text.isAlpha_of_isLower small))
  · exact isWordChar_of_isAlphanum (Text.isAlphanum_of_isDigit digit)
  · decide

theorem Underscored.unescaped (underscored : Underscored name) : Unescaped name := by
  constructor
  · rw [underscored.spelled_eq]
    exact underscored.head
  · rw [underscored.spelled_eq]
    intro escaped
    have ending : ∀ text ∈ escapedNames, text.getLast? = some '_' := by decide
    exact underscored.last (ending _ escaped)

theorem ident_injective_of_underscored (underscored : Underscored first) (underscored' : Underscored second)
    (same : ident first = ident second) : first = second := by
  rw [ident_eq_iff underscored.unescaped underscored'.unescaped, underscored.spelled_eq,
    underscored'.spelled_eq] at same
  exact String.toList_inj.mp same

end Underscored

/-- The delimited form of a name of word characters. -/
theorem underscored_snake {name : List Char} (words : ∀ c ∈ name, isWordChar c = true) :
    Underscored (String.ofList (Name.snake name)) := by
  have canonical : Name.Canonical (Name.snake name) :=
    Name.canonical_snake fun c inside => isAscii_of_isWordChar (words c inside)
  constructor <;> rw [String.toList_ofList]
  · intro c member
    rcases Bool.or_eq_true_iff.mp (isWordChar_of_mem_snake words member) with known | mark
    · rcases Bool.or_eq_true_iff.mp known with letter | digit
      · have noCapital : c.isUpper ≠ true := Bool.eq_false_iff.mp (canonical.noCapital c member)
        exact .inl ((Bool.or_eq_true_iff.mp letter).resolve_left noCapital)
      · exact .inr (.inl digit)
    · exact .inr (.inr (beq_iff_eq.mp mark))
  · exact fun front => canonical.head _ front rfl
  · exact fun back => canonical.last _ back rfl
  · exact canonical.separated.imp fun _ _ separated => separated.1

end QuerySynth.Code
