import QuerySynth.Text.Pieces

/-! # Reading positions in YAML text

A cursor is the rest of a text with the place it starts at. Five characters and one pair end a
line; indentation is counted in columns, and only within lines.
-/

namespace QuerySynth.Yaml

/-- The rest of a text and its place. -/
structure Cursor where
  rest : List Char
  index : Nat
  line : Nat
  column : Nat
deriving DecidableEq, Repr

def isBreak (c : Char) : Bool :=
  c = '\r' || c = '\n' || c = '\u0085' || c = '\u2028' || c = '\u2029'

def isBlank (c : Char) : Bool :=
  c = ' ' || c = '\t'

/-- The characters that a text may hold. -/
def isAllowed (c : Char) : Bool :=
  let n := c.toNat
  n = 0x09 || n = 0x0A || n = 0x0D || (0x20 ≤ n && n ≤ 0x7E) || n = 0x85 ||
    (0xA0 ≤ n && n ≤ 0xD7FF) || (0xE000 ≤ n && n ≤ 0xFFFD) || 0x10000 ≤ n

/-- The characters of anchors, handles and directive names. -/
def isWordChar (c : Char) : Bool :=
  c.isAlphanum || c = '_' || c = '-'

/-- The first line end of a text as it is read, how many characters it takes, and what follows.
Only the two separator characters keep their form. -/
def lineEnd? : List Char → Option (Char × Nat × List Char)
  | '\r' :: '\n' :: rest => some ('\n', 2, rest)
  | c :: rest =>
    if c = '\u2028' || c = '\u2029' then some (c, 1, rest)
    else if isBreak c then some ('\n', 1, rest)
    else none
  | [] => none

namespace Cursor

def start (text : List Char) : Cursor :=
  ⟨text, 0, 0, 0⟩

def atEnd (c : Cursor) : Bool :=
  c.rest.isEmpty

def peek? (c : Cursor) : Option Char :=
  c.rest.head?

def sees (c : Cursor) (wanted : Char) : Bool :=
  c.peek? = some wanted

def seesAny (c : Cursor) (test : Char → Bool) : Bool :=
  c.peek?.any test

/-- Whether the character at a distance is a blank, a line end, or the end of the text. -/
def isClear (c : Cursor) (distance : Nat) : Bool :=
  (c.rest[distance]?).all fun d => isBlank d || isBreak d

/-- Pass over characters of the same line. -/
def advance (c : Cursor) (count : Nat) : Cursor :=
  ⟨c.rest.drop count, c.index + count, c.line, c.column + count⟩

/-- The characters up to the first one that fails a test. -/
def word (c : Cursor) (test : Char → Bool) : List Char :=
  c.rest.takeWhile test

def pastWord (c : Cursor) (test : Char → Bool) : Cursor :=
  c.advance (c.word test).length

def restOfLine (c : Cursor) : List Char :=
  c.word (!isBreak ·)

/-- The start of the line after a line end of `width` characters. -/
def nextLine (c : Cursor) (width : Nat) (rest : List Char) : Cursor :=
  ⟨rest, c.index + width, c.line + 1, 0⟩

/-- The line end at the cursor and the start of the next line. -/
def lineEnd? (c : Cursor) : Option (Char × Cursor) :=
  (Yaml.lineEnd? c.rest).map fun (read, width, rest) => (read, c.nextLine width rest)

def pastComment (c : Cursor) : Cursor :=
  if c.sees '#' then c.advance c.restOfLine.length else c

/-- Whether three equal characters that bound a document start the line. -/
def atBoundary (c : Cursor) : Bool :=
  c.column = 0 && c.isClear 3 &&
    (c.rest.take 3 = ['-', '-', '-'] || c.rest.take 3 = ['.', '.', '.'])

end Cursor

end QuerySynth.Yaml
