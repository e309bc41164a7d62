import QuerySynth.Parameter.Name
import QuerySynth.Proofs.Text.Ascii
import QuerySynth.Proofs.Text.Pieces
import Mathlib.Data.List.Chain

/-! # Canonical names

A canonical name has no capitals, no delimiter at its ends or beside another one, and no digit right
after a letter. On ASCII texts `snake` and `normalized` produce canonical names and leave them as they
are, so both are idempotent there. What `snake` changes is letter case and delimiters, nothing else.
-/

namespace QuerySynth.Name

open Text

/-- Neighbours in a canonical name: not two delimiters, and no digit right after a letter. -/
def Separated (a b : Char) : Prop :=
  ¬(a = delimiter ∧ b = delimiter) ∧ ¬(a.isAlpha = true ∧ b.isDigit = true)

/-- The ASCII names in delimited lower-case form. -/
structure Canonical (name : List Char) : Prop where
  ascii : ∀ c ∈ name, IsAscii c
  noCapital : ∀ c ∈ name, c.isUpper = false
  head : ∀ c, name.head? = some c → c ≠ delimiter
  last : ∀ c, name.getLast? = some c → c ≠ delimiter
  separated : name.IsChain Separated

theorem canonical_nil : Canonical [] := ⟨by simp, by simp, by simp, by simp, .nil⟩

private theorem delimiter_ascii : IsAscii delimiter := by decide

/-- A delimiter neither starts a word nor precedes the start of one. -/
private theorem ne_delimiter_of_startsWord {previous c : Char} {next : Option Char}
    (word : startsWord previous c next = true) : previous ≠ delimiter ∧ c ≠ delimiter := by
  have notLower : isLowerCase delimiter = false := by decide
  have notUpper : isUpperCase delimiter = false := by decide
  have noLetter : isAlphabetic delimiter = false := by decide
  have noDigit : delimiter.isDigit = false := by decide
  constructor
  · rintro rfl
    simp [startsWord, notLower, notUpper, noLetter] at word
  · rintro rfl
    simp [startsWord, notUpper, noDigit] at word

private theorem startsWord_of_digit {previous c : Char} {next : Option Char}
    (asciiPrevious : IsAscii previous) (ascii : IsAscii c) (letter : previous.isAlpha = true)
    (digit : c.isDigit = true) : startsWord previous c next = true := by
  simp [startsWord, isUpperCase_of_ascii ascii, isUpper_of_isDigit ascii digit, digit,
    isAlphabetic_of_ascii asciiPrevious, letter]

private theorem startsWord_of_separated {previous c : Char} {next : Option Char}
    (asciiPrevious : IsAscii previous) (ascii : IsAscii c) (noCapital : c.isUpper = false)
    (separated : Separated previous c) : startsWord previous c next = false := by
  simp only [startsWord, isUpperCase_of_ascii ascii, noCapital, Bool.false_eq_true, if_false,
    isAlphabetic_of_ascii asciiPrevious]
  split
  · rename_i digit
    exact Bool.eq_false_iff.mpr fun letter => separated.2 ⟨letter, digit⟩
  · rfl

/-- Every character of the delimited form is a delimiter or a lowered character of the text. -/
theorem mem_delimited {previous : Option Char} {text : List Char} (ascii : ∀ c ∈ text, IsAscii c)
    {c : Char} (member : c ∈ delimited previous text) :
    c = delimiter ∨ ∃ d ∈ text, c = d.toLower := by
  induction text generalizing previous with
  | nil => simp [delimited] at member
  | cons d rest ih =>
    have asciiHead : IsAscii d := ascii d List.mem_cons_self
    rw [delimited, List.mem_append, List.mem_append] at member
    rcases member with (inserted | lowered) | later
    · split at inserted
      · exact .inl (List.mem_singleton.mp inserted)
      · simp at inserted
    · split at lowered
      · simp at lowered
      · rw [lowerCase_of_ascii asciiHead, List.mem_singleton] at lowered
        exact .inr ⟨d, List.mem_cons_self, lowered⟩
    · rcases ih (fun e inside => ascii e (List.mem_cons_of_mem _ inside)) later with here | there
      · exact .inl here
      · obtain ⟨e, inside, same⟩ := there
        exact .inr ⟨e, List.mem_cons_of_mem _ inside, same⟩

private theorem separated_toLower {previous c : Char} {next : Option Char}
    (asciiPrevious : IsAscii previous) (ascii : IsAscii c)
    (noWord : startsWord previous c next = false)
    (notBoth : ¬(c = delimiter ∧ previous = delimiter)) :
    Separated previous.toLower c.toLower := by
  constructor
  · rintro ⟨first, second⟩
    rw [toLower_eq_iff (by decide) asciiPrevious] at first
    rw [toLower_eq_iff (by decide) ascii] at second
    exact notBoth ⟨second, first⟩
  · rintro ⟨letter, digit⟩
    rw [isAlpha_toLower asciiPrevious] at letter
    rw [isDigit_toLower ascii] at digit
    simp [startsWord_of_digit asciiPrevious ascii letter digit] at noWord

/-- The invariant of `delimited`: what is emitted fits what was emitted just before, which is the
previous character in lower case. -/
theorem isChain_delimited (previous : Option Char) (text : List Char)
    (asciiPrevious : ∀ p, previous = some p → IsAscii p) (ascii : ∀ c ∈ text, IsAscii c) :
    ((previous.map Char.toLower).toList ++ delimited previous text).IsChain Separated := by
  induction text generalizing previous with
  | nil => cases previous <;> simp [delimited]
  | cons c rest ih =>
    have asciiHead : IsAscii c := ascii c List.mem_cons_self
    have tail : (c.toLower :: delimited (some c) rest).IsChain Separated := by
      refine ih (some c) ?_ ?_
      · rintro p ⟨⟩
        exact asciiHead
      · intro d inside
        exact ascii d (List.mem_cons_of_mem _ inside)
    rw [delimited, lowerCase_of_ascii asciiHead]
    cases previous with
    | none => simpa using tail
    | some p =>
      have asciiBefore : IsAscii p := asciiPrevious p rfl
      cases word : startsWord p c rest.head? with
      | true =>
        obtain ⟨beforeNe, headNe⟩ := ne_delimiter_of_startsWord word
        have beforeNe' : p.toLower ≠ delimiter := by
          rwa [Ne, toLower_eq_iff (by decide) asciiBefore]
        have headNe' : c.toLower ≠ delimiter := by
          rwa [Ne, toLower_eq_iff (by decide) asciiHead]
        simp only [Option.any_some, word, headNe, if_true, if_false, false_and, Option.map_some,
          Option.toList_some, List.cons_append, List.nil_append]
        refine .cons_cons ⟨fun both => beforeNe' both.1, fun both => ?_⟩
          (.cons_cons ⟨fun both => headNe' both.2, fun both => ?_⟩ tail)
        · simp [delimiter] at both
        · simp [delimiter] at both
      | false =>
        by_cases both : c = delimiter ∧ p = delimiter
        · obtain ⟨rfl, rfl⟩ := both
          have lowered : delimiter.toLower = delimiter := by decide
          simpa [word, lowered] using tail
        · simp only [Option.any_some, word, both, Bool.false_eq_true, if_false, Option.some.injEq,
            Option.map_some, Option.toList_some, List.cons_append, List.nil_append]
          exact .cons_cons (separated_toLower asciiBefore asciiHead word both) tail

/-- The delimited form of an ASCII text is canonical. -/
theorem canonical_snake {text : List Char} (ascii : ∀ c ∈ text, IsAscii c) :
    Canonical (snake text) := by
  have middle : snake text <:+: delimited none text := isInfix_trimEnds _ _
  have origin {c : Char} (member : c ∈ snake text) : c = delimiter ∨ ∃ d ∈ text, c = d.toLower :=
    mem_delimited ascii (middle.subset member)
  refine ⟨?_, ?_, ?_, ?_, ?_⟩
  · intro c member
    rcases origin member with rfl | ⟨d, inside, rfl⟩
    · exact delimiter_ascii
    · exact isAscii_toLower (ascii d inside)
  · intro c member
    rcases origin member with rfl | ⟨d, inside, rfl⟩
    · rfl
    · exact isUpper_toLower (ascii d inside)
  · intro c first
    simpa using head?_trimEnds first
  · intro c last
    simpa using getLast?_trimEnds last
  · have chain := isChain_delimited none text (by simp) ascii
    exact List.IsChain.infix (by simpa using chain) middle

private theorem delimited_of_canonical (previous : Option Char) (text : List Char)
    (ascii : ∀ c ∈ previous.toList ++ text, IsAscii c)
    (noCapital : ∀ c ∈ text, c.isUpper = false)
    (separated : (previous.toList ++ text).IsChain Separated) : delimited previous text = text := by
  induction text generalizing previous with
  | nil => rfl
  | cons c rest ih =>
    have asciiHead : IsAscii c := ascii c (by simp)
    have headLower : c.isUpper = false := noCapital c List.mem_cons_self
    have tail : delimited (some c) rest = rest := by
      apply ih
      · intro d inside
        exact ascii d (List.mem_append_right _ inside)
      · intro d inside
        exact noCapital d (List.mem_cons_of_mem _ inside)
      · exact separated.right_of_append
    rw [delimited, tail, lowerCase_of_ascii asciiHead, toLower_of_not_isUpper asciiHead headLower]
    cases previous with
    | none => simp
    | some p =>
      have fits : Separated p c := by
        have chain : (p :: c :: rest).IsChain Separated := separated
        exact (List.isChain_cons_cons.mp chain).1
      have noWord : startsWord p c rest.head? = false :=
        startsWord_of_separated (ascii p (by simp)) asciiHead headLower fits
      have notBoth : ¬(c = delimiter ∧ p = delimiter) := fun both => fits.1 ⟨both.2, both.1⟩
      simp [noWord, notBoth]

/-- A canonical name is its own delimited form. -/
theorem snake_of_canonical {name : List Char} (canonical : Canonical name) : snake name = name := by
  have unchanged : delimited none name = name := by
    apply delimited_of_canonical
    · simpa using canonical.ascii
    · exact canonical.noCapital
    · simpa using canonical.separated
  rw [snake, unchanged]
  apply trimEnds_of_ends
  · intro c first
    simpa using canonical.head c first
  · intro c last
    simpa using canonical.last c last

def undelimited (name : List Char) : List Char :=
  name.filter (· ≠ delimiter)

theorem undelimited_append (first second : List Char) :
    undelimited (first ++ second) = undelimited first ++ undelimited second :=
  List.filter_append ..

theorem undelimited_cons_of_ne {c : Char} (other : c ≠ delimiter) (rest : List Char) :
    undelimited (c :: rest) = c :: undelimited rest :=
  List.filter_cons_of_pos (by simpa using other)

/-- Apart from delimiters, the delimited form is the text in lower case. -/
theorem undelimited_delimited (previous : Option Char) {text : List Char}
    (ascii : ∀ c ∈ text, IsAscii c) :
    undelimited (delimited previous text) = (undelimited text).map Char.toLower := by
  induction text generalizing previous with
  | nil => rfl
  | cons c rest ih =>
    have asciiHead : IsAscii c := ascii c List.mem_cons_self
    have inserted (word : Bool) : undelimited (if word then [delimiter] else []) = [] := by
      cases word <;> rfl
    rw [delimited, undelimited_append, undelimited_append, inserted, List.nil_append,
      ih (some c) fun d inside => ascii d (List.mem_cons_of_mem _ inside), lowerCase_of_ascii asciiHead]
    by_cases mark : c = delimiter
    · subst mark
      split <;> rfl
    · have lowered : c.toLower ≠ delimiter := by rwa [Ne, toLower_eq_iff (by decide) asciiHead]
      rw [if_neg fun both => mark both.1, undelimited_cons_of_ne lowered, undelimited_cons_of_ne mark]
      rfl

theorem undelimited_snake {text : List Char} (ascii : ∀ c ∈ text, IsAscii c) :
    undelimited (snake text) = (undelimited text).map Char.toLower := by
  rw [← undelimited_delimited none ascii, undelimited, snake, filter_trimEnds]
  · rfl
  · intro c mark
    simpa using mark

/-- On ASCII texts exactly the canonical names are their own delimited form. -/
theorem snake_eq_self_iff {text : List Char} (ascii : ∀ c ∈ text, IsAscii c) :
    snake text = text ↔ Canonical text := by
  constructor
  · intro same
    rw [← same]
    exact canonical_snake ascii
  · exact snake_of_canonical

/-- Canonical names that are not empty, joined by delimiters, are one canonical name. -/
theorem canonical_intercalate {pieces : List (List Char)}
    (canonical : ∀ piece ∈ pieces, Canonical piece) (nonempty : ∀ piece ∈ pieces, piece ≠ []) :
    Canonical (List.intercalate [delimiter] pieces) := by
  induction pieces with
  | nil => exact canonical_nil
  | cons piece rest ih =>
    have here : Canonical piece := canonical piece List.mem_cons_self
    cases rest with
    | nil => simpa using here
    | cons second others =>
      have later := ih (fun p inside => canonical p (List.mem_cons_of_mem _ inside))
        (fun p inside => nonempty p (List.mem_cons_of_mem _ inside))
      have joined : List.intercalate [delimiter] (piece :: second :: others) =
          piece ++ delimiter :: List.intercalate [delimiter] (second :: others) := by simp
      have laterNonempty : List.intercalate [delimiter] (second :: others) ≠ [] := by
        have secondNonempty := nonempty second (by simp)
        cases others <;> simp [List.intercalate, secondNonempty]
      generalize List.intercalate [delimiter] (second :: others) = tail at joined later laterNonempty
      rw [joined]
      refine ⟨?_, ?_, ?_, ?_, ?_⟩
      · intro c member
        rcases List.mem_append.mp member with inside | inside
        · exact here.ascii c inside
        · rcases List.mem_cons.mp inside with rfl | inside
          · exact delimiter_ascii
          · exact later.ascii c inside
      · intro c member
        rcases List.mem_append.mp member with inside | inside
        · exact here.noCapital c inside
        · rcases List.mem_cons.mp inside with rfl | inside
          · rfl
          · exact later.noCapital c inside
      · intro c first
        apply here.head
        rwa [List.head?_append_of_ne_nil _ (nonempty piece List.mem_cons_self)] at first
      · intro c last
        apply later.last
        rwa [List.getLast?_append_of_ne_nil _ (by simp), List.getLast?_cons_of_ne_nil laterNonempty] at last
      · refine here.separated.append (.cons later.separated ?_) ?_
        · intro c first
          refine ⟨fun both => later.head c first both.2, fun both => ?_⟩
          simp [delimiter] at both
        · rintro a last _ ⟨⟩
          refine ⟨fun both => here.last a last both.1, fun both => ?_⟩
          simp [delimiter] at both

/-- The delimited form of an ASCII parameter name is canonical and has no dot. -/
theorem canonical_normalized {raw : List Char} (ascii : ∀ c ∈ raw, IsAscii c) :
    Canonical (normalized raw) ∧ '.' ∉ normalized raw := by
  have asciiPiece {piece : List Char} (member : piece ∈ splitOn '.' raw) : ∀ c ∈ piece, IsAscii c :=
    fun c inside => ascii c (mem_of_mem_splitOn member inside).1
  constructor
  · apply canonical_intercalate
    · intro piece member
      obtain ⟨source, present, rfl⟩ := List.mem_map.mp (List.mem_of_mem_filter member)
      exact canonical_snake (asciiPiece present)
    · intro piece member
      have kept := (List.mem_filter.mp member).2
      rintro rfl
      simp at kept
  · intro dot
    rcases mem_of_mem_intercalate dot with between | ⟨piece, member, inside⟩
    · simp [delimiter] at between
    · obtain ⟨source, present, rfl⟩ := List.mem_map.mp (List.mem_of_mem_filter member)
      have origin := mem_delimited (asciiPiece present) ((isInfix_trimEnds _ _).subset inside)
      rcases origin with same | ⟨d, inSource, same⟩
      · simp [delimiter] at same
      · obtain ⟨inRaw, noDot⟩ := mem_of_mem_splitOn present inSource
        exact noDot ((toLower_eq_iff (by decide) (ascii d inRaw)).mp same.symm)

/-- A canonical name without dots is its own delimited form. -/
theorem normalized_of_canonical {name : List Char} (canonical : Canonical name) (noDot : '.' ∉ name) :
    normalized name = name := by
  rw [normalized, splitOn_of_notMem noDot, List.map_singleton, snake_of_canonical canonical]
  cases name <;> simp

/-- Normalising an ASCII parameter name twice is normalising it once. -/
theorem normalize_normalize {raw : String} (ascii : ∀ c ∈ raw.toList, IsAscii c) :
    normalize (normalize raw) = normalize raw := by
  obtain ⟨canonical, noDot⟩ := canonical_normalized ascii
  rw [normalize, normalize, String.toList_ofList, normalized_of_canonical canonical noDot]

/-- Delimited forms of ASCII names are canonical and hold the characters of the name in lower case, in their
order. Exactly the canonical names stay as they are, so both conversions of names are idempotent. -/
theorem canonicalForm_toSnake {name : String} (ascii : ∀ c ∈ name.toList, IsAscii c) :
    Canonical (toSnake name).toList ∧
      undelimited (toSnake name).toList = (undelimited name.toList).map Char.toLower ∧
      (toSnake name = name ↔ Canonical name.toList) ∧
      toSnake (toSnake name) = toSnake name ∧
      normalize (normalize name) = normalize name := by
  have canonical : Canonical (toSnake name).toList := by
    rw [toSnake, String.toList_ofList]
    exact canonical_snake ascii
  have kept {other : String} (ascii : ∀ c ∈ other.toList, IsAscii c) :
      toSnake other = other ↔ Canonical other.toList := by
    rw [← snake_eq_self_iff ascii, toSnake, ← String.toList_inj, String.toList_ofList]
  refine ⟨canonical, ?_, kept ascii, (kept canonical.ascii).mpr canonical, normalize_normalize ascii⟩
  rw [toSnake, String.toList_ofList, undelimited_snake ascii]

/-- Two capitals at a word end, a number and doubled delimiters. -/
theorem canonicalForm_httpServer :
    (∀ c ∈ "HTTPServer__Last24H_".toList, IsAscii c) ∧
      toSnake "HTTPServer__Last24H_" = "http_server_last_24h" ∧
      Canonical "http_server_last_24h".toList ∧
      undelimited "http_server_last_24h".toList =
        (undelimited "HTTPServer__Last24H_".toList).map Char.toLower ∧
      ¬Canonical "HTTPServer__Last24H_".toList ∧
      toSnake "http_server_last_24h" = "http_server_last_24h" ∧
      normalize (normalize "HTTPServer__Last24H_") = normalize "HTTPServer__Last24H_" := by
  have ascii : ∀ c ∈ "HTTPServer__Last24H_".toList, IsAscii c := by simp [IsAscii]
  have form : toSnake "HTTPServer__Last24H_" = "http_server_last_24h" := by decide
  obtain ⟨canonical, erased, kept, again, normalized⟩ := canonicalForm_toSnake ascii
  rw [form] at canonical erased kept again
  exact ⟨ascii, form, canonical, erased, fun other => absurd (kept.mpr other) (by decide), again, normalized⟩

end QuerySynth.Name
