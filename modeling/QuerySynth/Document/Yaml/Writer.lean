import QuerySynth.Document.Yaml.Cursor
import QuerySynth.Document.Yaml.Scalar
import QuerySynth.Number.Layout

/-! # Writing YAML

Block style with two columns for each level; a sequence that is a member of a mapping is not
indented further. Texts are plain where that reads back as the same text, quoted where it would
not, and literal when they have several lines.
-/

namespace QuerySynth.Yaml

/-- The exponent of a number has no plus sign. -/
def numberLayout : NumberLayout := ⟨-5, 15, ""⟩

def step : Nat := 2

/-- Blanks up to a column. -/
def pad (column : Nat) : String :=
  String.ofList (List.replicate column ' ')

/-- Whether a character may be written as it is. -/
def isPrintable (c : Char) : Bool :=
  let n := c.toNat
  n = 0x0A || (0x20 ≤ n && n ≤ 0x7E) || (0xA0 ≤ n && n ≤ 0xFFFD && n ≠ 0xFEFF) || 0x10000 ≤ n

/-- Whether a text is at its end or goes on with a blank or a line end. -/
def startsClear (text : List Char) : Bool :=
  text.head?.all fun c => isBlank c || isBreak c

/-- The marks that no plain text starts with. -/
def openingMarks : List Char := "#,[]\x7b\x7d&*!|>'\"%@\x60".toList

def startsWithMark (text : List Char) : Bool :=
  match text with
  | '-' :: '-' :: '-' :: _ | '.' :: '.' :: '.' :: _ => true
  | c :: rest =>
    openingMarks.contains c || ((c = '?' || c = '-') && startsClear rest)
  | [] => false

/-- Whether a colon before a blank or a number sign after one stands in a text. -/
def holdsMark (afterBlank : Bool) : List Char → Bool
  | [] => false
  | c :: rest =>
    (c = ':' && startsClear rest) || (c = '#' && afterBlank) ||
      holdsMark (isBlank c || isBreak c) rest

/-- Whether a pair of neighbours satisfies a test. -/
def hasNeighbours (test : Char → Char → Bool) : List Char → Bool
  | c :: d :: rest => test c d || hasNeighbours test (d :: rest)
  | _ => false

/-- Whether a blank or a line end stands at an end of a text. -/
def hasLooseEnd (text : List Char) : Bool :=
  let loose (c : Char) : Bool := c = ' ' || isBreak c
  text.head?.any loose || text.getLast?.any loose

/-- Whether a blank stands before a line end. -/
def hasTrailingBlank (text : List Char) : Bool :=
  hasNeighbours (fun c d => c = ' ' && isBreak d) text

/-- Whether a blank stands after a line end. -/
def hasIndentedLine (text : List Char) : Bool :=
  hasNeighbours (fun c d => isBreak c && d = ' ') text

/-- Whether a text can be written without escapes. -/
def isWritable (text : List Char) : Bool :=
  text.all isPrintable && !hasTrailingBlank text

def allowsPlain (text : List Char) : Bool :=
  isWritable text && !hasLooseEnd text && !text.any isBreak && !startsWithMark text &&
    !holdsMark true text

def allowsSingle (text : List Char) : Bool :=
  isWritable text && !hasIndentedLine text

def allowsLiteral (text : List Char) : Bool :=
  isWritable text && text.getLast? ≠ some ' '

/-- How a text is written. -/
inductive Style where
  | plain | single | double | literal
deriving DecidableEq, Repr

/-- The style of a text: one that reads back as the same text. -/
def styleOf (text : String) : Style :=
  let chars := text.toList
  if chars.contains '\n' then if allowsLiteral chars then .literal else .double
  else if plainMeaning text = .text && !isZeroLed chars && allowsPlain chars then .plain
  else if allowsSingle chars then .single
  else .double

/-- The inside of single quotes; a line goes on at a column. -/
def singleChars (column : Nat) (afterBreak : Bool) : List Char → String
  | [] => if afterBreak then pad column else ""
  | c :: rest =>
    if isBreak c then String.singleton c ++ singleChars column true rest
    else
      (if afterBreak then pad column else "") ++ (if c = '\'' then "''" else String.singleton c) ++
        singleChars column false rest

/-- Escapes of one character. -/
def shortEscapes : List (Char × Char) :=
  [('\x00', '0'), ('\x07', 'a'), ('\x08', 'b'), ('\t', 't'), ('\n', 'n'), ('\x0b', 'v'),
   ('\x0c', 'f'), ('\r', 'r'), ('\x1b', 'e'), ('"', '"'), ('\\', '\\'), ('\u0085', 'N'),
   ('\u00a0', '_'), ('\u2028', 'L'), ('\u2029', 'P')]

def hexDigits : Nat → Nat → List Char
  | 0, _ => []
  | count + 1, n => hexDigits count (n / 16) ++ [(Nat.digitChar (n % 16)).toUpper]

/-- An escape by number. -/
def numberEscape (c : Char) : List Char :=
  let n := c.toNat
  if n ≤ 0xFF then '\\' :: 'x' :: hexDigits 2 n
  else if n ≤ 0xFFFF then '\\' :: 'u' :: hexDigits 4 n
  else '\\' :: 'U' :: hexDigits 8 n

def doubleChar (c : Char) : List Char :=
  if !isPrintable c || isBreak c || c = '"' || c = '\\' then
    match shortEscapes.lookup c with
    | some mark => ['\\', mark]
    | none => numberEscape c
  else [c]

/-- What the header of a literal text says: its indentation when the first line does not show
it, and what becomes of the last line ends. -/
def literalHeader (text : List Char) : String :=
  let loose (c : Char) : Bool := c = ' ' || isBreak c
  let indentation := if text.head?.any loose then toString step else ""
  let chomping :=
    match text.reverse with
    | last :: before :: _ => if !isBreak last then "-" else if isBreak before then "+" else ""
    | [last] => if isBreak last then "+" else "-"
    | [] => "-"
  "|" ++ indentation ++ chomping

/-- The lines of a literal text at a column, the last one with a line end. -/
def literalLines (column : Nat) (afterBreak : Bool) : List Char → String
  | [] => if afterBreak then "" else "\n"
  | c :: rest =>
    if isBreak c then String.singleton c ++ literalLines column true rest
    else
      (if afterBreak then pad column else "") ++ String.singleton c ++
        literalLines column false rest

/-- A text with its line end; further lines start at a column. -/
def textLine (column : Nat) (text : String) : String :=
  let chars := text.toList
  match styleOf text with
  | .plain => text ++ "\n"
  | .single => "'" ++ singleChars column false chars ++ "'\n"
  | .double => "\"" ++ String.ofList (chars.flatMap doubleChar) ++ "\"\n"
  | .literal => literalHeader chars ++ "\n" ++ literalLines column true chars

/-- The most bytes of a key before its colon. -/
def maxKeyBytes : Nat := 128

/-- Whether a key stands on one line with its colon. -/
def isSimpleKey (key : String) : Bool :=
  !key.toList.any isBreak && key.utf8ByteSize ≤ maxKeyBytes

/-- A simple key without a line end. -/
def keyText (key : String) : String :=
  match styleOf key with
  | .plain => key
  | .single => "'" ++ singleChars 0 false key.toList ++ "'"
  | _ => "\"" ++ String.ofList (key.toList.flatMap doubleChar) ++ "\""

mutual

/-- A value after a key at a column. -/
def afterKey (column : Nat) : Document → String
  | .arr [] => " []\n"
  | .obj [] => " \x7b\x7d\n"
  | .arr items => "\n" ++ pad column ++ sequenceLines column items
  | .obj members => "\n" ++ pad (column + step) ++ mappingLines (column + step) members
  | .null => " null\n"
  | .bool value => if value then " true\n" else " false\n"
  | .int value => " " ++ toString value ++ "\n"
  | .float value => " " ++ numberLayout.render value ++ "\n"
  | .str text => " " ++ textLine (column + step) text

/-- A value after a mark at a column, or the document itself; a collection starts on the same
line. -/
def afterMark (column : Nat) : Document → String
  | .arr [] => "[]\n"
  | .obj [] => "\x7b\x7d\n"
  | .arr items => sequenceLines column items
  | .obj members => mappingLines column members
  | .null => "null\n"
  | .bool value => if value then "true\n" else "false\n"
  | .int value => toString value ++ "\n"
  | .float value => numberLayout.render value ++ "\n"
  | .str text => textLine column text

/-- The items of a sequence at a column; the first one starts at the end of what stands
before. -/
def sequenceLines (column : Nat) : List Document → String
  | [] => ""
  | item :: rest =>
    "- " ++ afterMark (column + step) item ++ (if rest.isEmpty then "" else pad column) ++
      sequenceLines column rest

/-- The members of a mapping at a column; the first one starts at the end of what stands
before. A key that does not fit a line with its colon has a line of its own. -/
def mappingLines (column : Nat) : List (String × Document) → String
  | [] => ""
  | (key, value) :: rest =>
    (if isSimpleKey key then keyText key ++ ":" ++ afterKey column value
      else
        "? " ++ textLine (column + step) key ++ pad column ++ ": " ++
          afterMark (column + step) value) ++
      (if rest.isEmpty then "" else pad column) ++ mappingLines column rest

end

def render : Document → String
  | .str text => textLine step text
  | document => afterMark 0 document

end QuerySynth.Yaml
