import QuerySynth.Text.Case
import QuerySynth.Text.Pieces

/-! # Names

Resources, parameters and messages share names in two forms: delimited lower case
(`fct_node_active_last_24h`) and capitalised (`FctNodeActiveLast24H`). `pascal` and `snake` turn
any text into one of them; neither fails.
-/

namespace QuerySynth.Name

open Text

/-- The character between the words of a delimited name. -/
def delimiter : Char := '_'

/-- Capitalise the first character after the leading digits of a token. -/
def capitalize (token : List Char) : List Char :=
  token.takeWhile Char.isDigit ++
    match token.dropWhile Char.isDigit with
    | [] => []
    | c :: rest => upperCase c ++ rest

/-- The capitalised form: delimiters go, and every token between them is capitalised. -/
def pascal (name : List Char) : List Char :=
  ((splitOn delimiter name).filter (!·.isEmpty)).flatMap capitalize

/-- Whether a word starts at `c`: a capital after a lower-case letter, the last capital of a run
before a lower-case letter, or the first digit after a letter. -/
def startsWord (previous c : Char) (next : Option Char) : Bool :=
  if isUpperCase c then
    isLowerCase previous || (isUpperCase previous && next.any isLowerCase)
  else if c.isDigit then isAlphabetic previous
  else false

/-- Lower case with a delimiter before every word start; repeated delimiters collapse. -/
def delimited (previous : Option Char) : List Char → List Char
  | [] => []
  | c :: rest =>
    (if previous.any (startsWord · c rest.head?) then [delimiter] else []) ++
      (if c = delimiter ∧ previous = some delimiter then [] else lowerCase c) ++
      delimited (some c) rest

/-- The delimited lower-case form, without delimiters at its ends. -/
def snake (name : List Char) : List Char :=
  trimEnds (· == delimiter) (delimited none name)

def toPascal (name : String) : String :=
  String.ofList (pascal name.toList)

def toSnake (name : String) : String :=
  String.ofList (snake name.toList)

end QuerySynth.Name
