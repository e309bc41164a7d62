import QuerySynth.Text.Case

/-! # Words of a mixed-case text

A word ends at every character that is no letter or digit, between a lower-case and an upper-case
character, and before the last upper-case character of a run that a lower-case one follows. A
digit keeps the case mode of what precedes it. The two joined forms, `UpperCamelCase` and
`snake_case`, are built from the words.
-/

namespace QuerySynth.Text

/-- The case of the characters read so far in a word. -/
inductive CaseMode where
  | fresh
  | lower
  | upper
deriving DecidableEq, Repr

/-- The mode after a character that does not end its word. -/
def CaseMode.next (mode : CaseMode) (c : Char) : CaseMode :=
  if isLowerCase c then .lower else if isUpperCase c then .upper else mode

/-- The words of a run of letters and digits; `word` holds the open word, last character first. -/
def wordsOfRun (mode : CaseMode) (word : List Char) : List Char → List (List Char)
  | [] => [word.reverse]
  | [c] => [(c :: word).reverse]
  | c :: d :: rest =>
    if mode.next c = .lower ∧ isUpperCase d then
      (c :: word).reverse :: wordsOfRun .fresh [] (d :: rest)
    else if mode = .upper ∧ isUpperCase c ∧ isLowerCase d then
      word.reverse :: wordsOfRun .fresh [c] (d :: rest)
    else wordsOfRun (mode.next c) (c :: word) (d :: rest)

/-- The maximal runs of letters and digits; `run` holds the open run, last character first. -/
def alphanumericRuns (run : List Char) : List Char → List (List Char)
  | [] => if run.isEmpty then [] else [run.reverse]
  | c :: rest =>
    if isAlphanumeric c then alphanumericRuns (c :: run) rest
    else if run.isEmpty then alphanumericRuns [] rest
    else run.reverse :: alphanumericRuns [] rest

def words (text : List Char) : List (List Char) :=
  (alphanumericRuns [] text).flatMap (wordsOfRun .fresh [])

/-- A word in lower case; a capital sigma at its end becomes the final form. -/
def lowerWord : List Char → List Char
  | [] => []
  | ['Σ'] => ['ς']
  | c :: rest => lowerCase c ++ lowerWord rest

/-- A word with its first character in upper case and the rest in lower case. -/
def capitalWord : List Char → List Char
  | [] => []
  | c :: rest => upperCase c ++ lowerWord rest

/-- The words capitalised and put together. -/
def upperCamel (text : List Char) : List Char :=
  (words text).flatMap capitalWord

/-- The words in lower case, joined by underscores. -/
def snakeWords (text : List Char) : List Char :=
  List.intercalate ['_'] ((words text).map lowerWord)

end QuerySynth.Text
