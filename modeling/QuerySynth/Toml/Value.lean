import QuerySynth.Text.Digit
import QuerySynth.Text.Pieces

/-! # TOML values

Texts and whole numbers. A text stands between single quotes as it is, or between double quotes
with escapes; three quotes let it run over several lines. Numbers are decimal, or announce base
sixteen, eight or two; single underscores may stand between their digits.
-/

namespace QuerySynth.Toml

/-- A value of a setting. -/
inductive Value where
  | text (value : String)
  | integer (value : Int)
deriving DecidableEq, Repr

def isBlank (c : Char) : Bool :=
  c = ' ' || c = '\t'

/-- Characters that need no escape in a text or a comment. -/
def isPlain (c : Char) : Bool :=
  c = '\t' || (0x20 ≤ c.toNat && c.toNat ≠ 0x7F)

/-- What follows the end of a line. -/
def afterLineEnd? : List Char → Option (List Char)
  | '\n' :: rest => some rest
  | '\r' :: '\n' :: rest => some rest
  | _ => none

/-- Escapes of one character. -/
def simpleEscapes : List (Char × Char) :=
  [('b', '\x08'), ('t', '\t'), ('n', '\n'), ('f', '\x0c'), ('r', '\r'), ('e', '\x1b'),
   ('"', '"'), ('\\', '\\')]

/-- Escapes by number, with the count of their digits. -/
def numberEscapes : List (Char × Nat) :=
  [('x', 2), ('u', 4), ('U', 8)]

/-- The character of an escape, given after its backslash, and what follows. -/
def escape? : List Char → Option (Char × List Char)
  | [] => none
  | mark :: rest =>
    match simpleEscapes.lookup mark, numberEscapes.lookup mark with
    | some c, _ => some (c, rest)
    | none, some count =>
      if rest.length < count then none
      else (Text.hexChar? (rest.take count)).map (·, rest.drop count)
    | none, none => none

/-- Skip blanks and line ends. -/
def skipLines : (fuel : Nat) → List Char → List Char
  | 0, text => text
  | fuel + 1, text =>
    let rest := text.dropWhile isBlank
    match afterLineEnd? rest with
    | some next => skipLines fuel next
    | none => rest

/-- What follows a backslash at the end of a line, from the next visible character on. -/
def continuation? (text : List Char) : Option (List Char) :=
  (afterLineEnd? (text.dropWhile isBlank)).map (skipLines text.length)

/-- The rest of a text on one line; `quote` ends it, and a backslash escapes in double quotes. -/
def lineText? (quote : Char) : (fuel : Nat) → List Char → Option (List Char × List Char)
  | 0, _ | _, [] => none
  | fuel + 1, c :: rest =>
    if c = quote then some ([], rest)
    else if c = '\\' ∧ quote = '"' then do
      let (escaped, rest) ← escape? rest
      let (text, rest) ← lineText? quote fuel rest
      return (escaped :: text, rest)
    else if isPlain c then do
      let (text, rest) ← lineText? quote fuel rest
      return (c :: text, rest)
    else none

/-- The rest of a text of several lines. Of a run of three to five quotes the last three end it. -/
def longText? (quote : Char) : (fuel : Nat) → List Char → Option (List Char × List Char)
  | 0, _ | _, [] => none
  | fuel + 1, c :: rest =>
    let prepend (first : List Char) (after : List Char) := do
      let (text, rest) ← longText? quote fuel after
      return (first ++ text, rest)
    if c = quote then
      let run := (c :: rest).takeWhile (· = quote)
      if run.length < 3 then prepend [c] rest
      else some (List.replicate (min run.length 5 - 3) quote, (c :: rest).drop (min run.length 5))
    else if c = '\\' ∧ quote = '"' then
      match continuation? rest with
      | some after => prepend [] after
      | none => do
        let (escaped, after) ← escape? rest
        prepend [escaped] after
    else
      match afterLineEnd? (c :: rest) with
      | some after => prepend ['\n'] after
      | none => if isPlain c then prepend [c] rest else none

/-- The text after its first quote; a line end after three quotes does not count. -/
def textAfter? (quote : Char) (text : List Char) : Option (List Char × List Char) :=
  match Text.dropStem? [quote, quote] text with
  | some long => longText? quote (long.length + 1) ((afterLineEnd? long).getD long)
  | none => lineText? quote (text.length + 1) text

/-- The number of digits with single underscores between them. -/
def spacedDigits? (base : Nat) (text : List Char) : Option Nat :=
  let groups := Text.splitOn '_' text
  if groups.any List.isEmpty then none else Text.digits? base groups.flatten

/-- A decimal number has no leading zero. -/
def decimal? (text : List Char) : Option Nat :=
  match text with
  | '0' :: _ :: _ => none
  | _ => spacedDigits? 10 text

def integer? : List Char → Option Int
  | '0' :: 'x' :: digits => (spacedDigits? 16 digits).map Int.ofNat
  | '0' :: 'o' :: digits => (spacedDigits? 8 digits).map Int.ofNat
  | '0' :: 'b' :: digits => (spacedDigits? 2 digits).map Int.ofNat
  | '-' :: digits => (decimal? digits).map fun n => -(n : Int)
  | '+' :: digits => (decimal? digits).map Int.ofNat
  | digits => (decimal? digits).map Int.ofNat

def isNumberChar (c : Char) : Bool :=
  c.isAlphanum || c = '_' || c = '+' || c = '-' || c = '.' || c = ':'

/-- The value at the start of a text, and what follows. -/
def value? : List Char → Option (Value × List Char)
  | '"' :: rest => (textAfter? '"' rest).map fun (text, rest) => (.text (String.ofList text), rest)
  | '\'' :: rest =>
    (textAfter? '\'' rest).map fun (text, rest) => (.text (String.ofList text), rest)
  | text =>
    (integer? (text.takeWhile isNumberChar)).map
      fun n => (.integer n, text.dropWhile isNumberChar)

end QuerySynth.Toml
