import QuerySynth.Document.Yaml.Cursor
import QuerySynth.Text.Digit

/-! # The text of scalars

Plain and quoted scalars may run over several lines; the gap between two words is then folded: a
single line end becomes a blank, further ones stay. Block scalars keep the lines that are
indented deeply enough, literally or folded. Every function is given a limit: a number of steps
that no scalar of the text needs.
-/

namespace QuerySynth.Yaml

/-- The text between two words of a scalar. -/
structure Gap where
  /-- The blanks, as long as no line ends. -/
  blanks : List Char := []
  /-- The first line end; empty when it is escaped. -/
  first : Option (List Char) := none
  /-- The further line ends. -/
  more : List Char := []

namespace Gap

/-- What a gap stands for. -/
def fold (gap : Gap) : List Char :=
  match gap.first with
  | none => gap.blanks
  | some ['\n'] => if gap.more.isEmpty then [' '] else gap.more
  | some first => first ++ gap.more

def addLineEnd (gap : Gap) (read : Char) : Gap :=
  match gap.first with
  | none => { gap with blanks := [], first := some [read] }
  | some _ => { gap with more := gap.more ++ [read] }

/-- Read a gap. A tab before the column `least` of a new line is refused. `fuel` bounds the
characters. -/
def read? (least : Nat) (fuel : Nat) (gap : Gap) (c : Cursor) : Option (Gap × Cursor) :=
  match fuel with
  | 0 => some (gap, c)
  | fuel + 1 =>
    match c.lineEnd? with
    | some (read, next) => read? least fuel (gap.addLineEnd read) next
    | none =>
      match c.peek? with
      | some d =>
        if !isBlank d then some (gap, c)
        else if gap.first.isNone then
          read? least fuel { gap with blanks := gap.blanks ++ [d] } (c.advance 1)
        else if d = '\t' && c.column < least then none
        else read? least fuel gap (c.advance 1)
      | none => some (gap, c)

end Gap

/-- What a scanner of plain scalars has to know of its surroundings. -/
structure PlainContext where
  /-- Whether the scalar stands in a bracketed collection. -/
  inFlow : Bool
  /-- The least column of its further lines. -/
  least : Nat

/-- Whether a plain scalar ends before a colon or a mark of a bracketed collection. -/
def endsPlain (inFlow : Bool) (c : Cursor) : Bool :=
  (c.sees ':' && c.isClear 1) ||
    (inFlow && c.seesAny fun d => [',', '[', ']', '{', '}'].contains d)

/-- A colon that a bracketed collection does not allow. -/
def isStrayColon (inFlow : Bool) (c : Cursor) : Bool :=
  inFlow && c.sees ':' && (c.rest[1]?).any fun d => [',', '?', '[', ']', '{', '}'].contains d

/-- One word of a plain scalar. -/
def plainWord? (inFlow : Bool) (fuel : Nat) (read : List Char) (c : Cursor) :
    Option (List Char × Cursor) :=
  match fuel with
  | 0 => some (read.reverse, c)
  | fuel + 1 =>
    if c.isClear 0 then some (read.reverse, c)
    else if isStrayColon inFlow c then none
    else if endsPlain inFlow c then some (read.reverse, c)
    else
      match c.peek? with
      | some d => plainWord? inFlow fuel (d :: read) (c.advance 1)
      | none => some (read.reverse, c)

/-- A plain scalar as it is read so far: its text and whether a line has just ended. -/
structure PlainRun where
  text : List Char
  afterLine : Bool

/-- Read the words of a plain scalar; `gap` is what stands before the next one. -/
def plainRun? (context : PlainContext) (limit fuel : Nat) (text : List Char) (gap : Gap)
    (c : Cursor) : Option (PlainRun × Cursor) :=
  match fuel with
  | 0 => none
  | fuel + 1 =>
    if c.atBoundary || c.sees '#' then some (⟨text, gap.first.isSome⟩, c)
    else
      match plainWord? context.inFlow limit [] c with
      | none => none
      | some (word, next) =>
        let text := if word.isEmpty then text else text ++ gap.fold ++ word
        let pending := if word.isEmpty then gap else {}
        if !(next.seesAny isBlank || next.seesAny isBreak) then
          some (⟨text, pending.first.isSome⟩, next)
        else
          match Gap.read? context.least limit pending next with
          | none => none
          | some (gap, next) =>
            if !context.inFlow && next.column < context.least then
              some (⟨text, gap.first.isSome⟩, next)
            else plainRun? context limit fuel text gap next

def plain? (context : PlainContext) (limit : Nat) (c : Cursor) : Option (PlainRun × Cursor) :=
  plainRun? context limit limit [] {} c

/-- Escapes of one character. -/
def simpleEscapes : List (Char × Char) :=
  [('0', '\x00'), ('a', '\x07'), ('b', '\x08'), ('t', '\t'), ('\t', '\t'), ('n', '\n'),
   ('v', '\x0b'), ('f', '\x0c'), ('r', '\r'), ('e', '\x1b'), (' ', ' '), ('"', '"'), ('/', '/'),
   ('\\', '\\'), ('N', '\u0085'), ('_', '\u00a0'), ('L', '\u2028'), ('P', '\u2029')]

/-- Escapes by number, with the count of their digits. -/
def numberEscapes : List (Char × Nat) :=
  [('x', 2), ('u', 4), ('U', 8)]

/-- The character of an escape, given after its backslash, and the length of the escape. -/
def escape? (text : List Char) : Option (Char × Nat) :=
  match text with
  | [] => none
  | mark :: rest =>
    match simpleEscapes.lookup mark, numberEscapes.lookup mark with
    | some c, _ => some (c, 1)
    | none, some count =>
      if rest.length < count then none
      else (Text.hexChar? (rest.take count)).map fun c => (c, count + 1)
    | none, none => none

/-- The end of a word of a quoted scalar: whether its line end is escaped. -/
structure QuotedWord where
  text : List Char
  escapedEnd : Bool

/-- One word of a quoted scalar. -/
def quotedWord? (quote : Char) (fuel : Nat) (read : List Char) (c : Cursor) :
    Option (QuotedWord × Cursor) :=
  match fuel with
  | 0 => none
  | fuel + 1 =>
    match c.rest with
    | [] => some (⟨read.reverse, false⟩, c)
    | d :: rest =>
      if isBlank d || isBreak d then some (⟨read.reverse, false⟩, c)
      else if d = quote then
        if quote = '\'' && rest.head? = some '\'' then
          quotedWord? quote fuel ('\'' :: read) (c.advance 2)
        else some (⟨read.reverse, false⟩, c)
      else if quote = '"' && d = '\\' then
        match (c.advance 1).lineEnd? with
        | some (_, next) => some (⟨read.reverse, true⟩, next)
        | none =>
          match escape? rest with
          | some (e, length) => quotedWord? quote fuel (e :: read) (c.advance (length + 1))
          | none => none
      else quotedWord? quote fuel (d :: read) (c.advance 1)

/-- Read the words of a quoted scalar up to its closing quote. -/
def quotedRun? (quote : Char) (limit fuel : Nat) (text : List Char) (c : Cursor) :
    Option (List Char × Cursor) :=
  match fuel with
  | 0 => none
  | fuel + 1 =>
    if c.atBoundary || c.atEnd then none
    else
      match quotedWord? quote limit [] c with
      | none => none
      | some (word, next) =>
        let text := text ++ word.text
        if next.sees quote then some (text, next.advance 1)
        else
          let gap : Gap := if word.escapedEnd then { first := some [] } else {}
          match Gap.read? 0 limit gap next with
          | none => none
          | some (gap, next) => quotedRun? quote limit fuel (text ++ gap.fold) next

def quoted? (quote : Char) (limit : Nat) (c : Cursor) : Option (List Char × Cursor) :=
  quotedRun? quote limit limit [] (c.advance 1)

/-- What happens to the line ends after the last line of a block scalar. -/
inductive Chomping where
  | strip | clip | keep
deriving DecidableEq, Repr

/-- The header of a block scalar. -/
structure BlockHeader where
  chomping : Chomping := .clip
  /-- The indentation relative to the surroundings, when it is given. -/
  increment : Option Nat := none

def chomping? (c : Cursor) : Option Chomping :=
  if c.sees '+' then some .keep else if c.sees '-' then some .strip else none

/-- The indentation that a digit stands for; zero is refused. -/
def increment? (c : Cursor) : Option (Option Nat) :=
  match c.peek? with
  | some d =>
    if d = '0' then none else if d.isDigit then some (some (d.toNat - '0'.toNat)) else some none
  | none => some none

/-- The header after its mark: chomping and indentation in either order. -/
def blockHeader? (c : Cursor) : Option (BlockHeader × Cursor) :=
  match chomping? c with
  | some chomping =>
    (increment? (c.advance 1)).map fun increment =>
      (⟨chomping, increment⟩, c.advance (if increment.isSome then 2 else 1))
  | none =>
    match increment? c with
    | none => none
    | some none => some ({}, c)
    | some increment =>
      match chomping? (c.advance 1) with
      | some chomping => some (⟨chomping, increment⟩, c.advance 2)
      | none => some (⟨.clip, increment⟩, c.advance 1)

/-- The blank lines before a line of a block scalar. -/
structure BlankLines where
  lineEnds : List Char
  /-- The deepest column that the blank lines and the next line reach. -/
  deepest : Nat

/-- Read blank lines, and the indentation of the line after them: at most `indent` columns, any
number when it is not known yet. A tab in the indentation is refused. -/
def blankLines? (indent : Option Nat) (fuel : Nat) (read : BlankLines) (c : Cursor) :
    Option (BlankLines × Cursor) :=
  match fuel with
  | 0 => none
  | fuel + 1 =>
    let spaces := (c.word (· = ' ')).length
    let c := c.advance (match indent with
      | none => spaces
      | some least => min spaces (least - c.column))
    let deepest := max read.deepest c.column
    if indent.all (c.column < ·) && c.sees '\t' then none
    else
      match c.lineEnd? with
      | some (lineEnd, next) =>
        blankLines? indent fuel ⟨read.lineEnds ++ [lineEnd], deepest⟩ next
      | none => some (⟨read.lineEnds, deepest⟩, c)

/-- A block scalar as it is read so far. -/
structure BlockRun where
  text : List Char := []
  /-- The end of the last line. -/
  lineEnd : List Char := []
  /-- The ends of the blank lines after it. -/
  blank : List Char := []
  /-- Whether the last line starts with a blank. -/
  afterBlank : Bool := false

/-- What joins the next line to the text; folded lines that start with no blank are joined by
one. -/
def BlockRun.joint (run : BlockRun) (folded startsBlank : Bool) : List Char :=
  if folded && run.lineEnd = ['\n'] && !run.afterBlank && !startsBlank then
    if run.blank.isEmpty then [' '] else run.blank
  else run.lineEnd ++ run.blank

/-- Read the lines of a block scalar. -/
def blockLines? (folded : Bool) (indent limit fuel : Nat) (run : BlockRun) (c : Cursor) :
    Option (BlockRun × Cursor) :=
  match fuel with
  | 0 => none
  | fuel + 1 =>
    if c.column ≠ indent || c.atEnd then some (run, c)
    else
      let startsBlank := c.seesAny isBlank
      let line := c.restOfLine
      let text := run.text ++ run.joint folded startsBlank ++ line
      let next := c.advance line.length
      let (lineEnd, next) :=
        match next.lineEnd? with
        | some (lineEnd, next) => ([lineEnd], next)
        | none => ([], next)
      match blankLines? (some indent) limit ⟨[], 0⟩ next with
      | none => none
      | some (blank, next) =>
        blockLines? folded indent limit fuel ⟨text, lineEnd, blank.lineEnds, startsBlank⟩ next

def BlockRun.chomp (run : BlockRun) : Chomping → List Char
  | .strip => run.text
  | .clip => run.text ++ run.lineEnd
  | .keep => run.text ++ run.lineEnd ++ run.blank

/-- A block scalar, from its mark on; `parent` is the indentation around it. -/
def block? (folded : Bool) (parent : Int) (limit : Nat) (c : Cursor) :
    Option (List Char × Cursor) := do
  let (header, c) ← blockHeader? (c.advance 1)
  let c := (c.pastWord isBlank).pastComment
  let c ← if c.atEnd then some c else c.lineEnd?.map (·.2)
  let given := header.increment.map fun n => (max parent 0).toNat + n
  let (blank, c) ← blankLines? given limit ⟨[], 0⟩ c
  let indent := given.getD (max (max blank.deepest (parent + 1).toNat) 1)
  let (run, c) ← blockLines? folded indent limit limit { blank := blank.lineEnds } c
  return (run.chomp header.chomping, c)

end QuerySynth.Yaml
