import QuerySynth.Document.Yaml.Token

/-! # Reading tokens

One token after the other is read, under the indentation of the open block collections. That a
scalar is a key shows only at the colon after it; the key token is then put in front of it, and
so is the start of a block mapping. Such a key ends within its line and within 1024 characters.
-/

namespace QuerySynth.Yaml

/-- A token that turns out to be a key if a colon follows. -/
structure KeyCandidate where
  /-- The number of tokens before it. -/
  place : Nat
  index : Nat
  line : Nat
  column : Nat
  /-- Whether the text is wrong if no colon follows. -/
  required : Bool
deriving DecidableEq, Repr

/-- The tokens so far, and what decides about the next ones. -/
structure Reading where
  cursor : Cursor
  /-- The tokens so far, the latest first. -/
  tokens : List Token
  count : Nat
  /-- The column of the innermost block collection; -1 outside of all. -/
  indent : Int
  /-- The columns of the block collections around it. -/
  outer : List Int
  /-- The key candidate of every open bracketed collection and, last, of the block around them. -/
  candidates : List (Option KeyCandidate)
  /-- Whether a key may start here. -/
  keyAllowed : Bool

namespace Reading

/-- The start of a text. -/
def start (text : List Char) : Reading :=
  ⟨.start text, [], 0, -1, [], [none], true⟩

def inFlow (r : Reading) : Bool :=
  1 < r.candidates.length

def push (r : Reading) (token : Token) : Reading :=
  { r with tokens := token :: r.tokens, count := r.count + 1 }

/-- Put a token in front of the one at a place. -/
def insertAt (r : Reading) (place : Nat) (token : Token) : Reading :=
  let later := r.count - place
  { r with
    tokens := r.tokens.take later ++ token :: r.tokens.drop later
    count := r.count + 1 }

def moveTo (r : Reading) (cursor : Cursor) : Reading :=
  { r with cursor }

/-- Let a key start here or not. -/
def allowKey (r : Reading) (keyAllowed : Bool) : Reading :=
  { r with keyAllowed }

/-- The longest key of a single line. -/
def maxKeyLength : Nat := 1024

/-- Whether a candidate can no longer be a key. -/
def isStale (cursor : Cursor) (candidate : KeyCandidate) : Bool :=
  candidate.line < cursor.line || candidate.index + maxKeyLength < cursor.index

/-- Give up the candidates that can no longer be keys. -/
def dropStale? (r : Reading) : Option Reading := do
  let candidates ← r.candidates.mapM fun
    | none => some none
    | some candidate =>
      if !isStale r.cursor candidate then some (some candidate)
      else if candidate.required then none
      else some none
  return { r with candidates }

/-- Give up the innermost candidate. -/
def dropCandidate? (r : Reading) : Option Reading :=
  match r.candidates with
  | [] => some r
  | candidate :: rest =>
    if candidate.any (·.required) then none else some { r with candidates := none :: rest }

/-- Note that the next token may be a key. -/
def noteCandidate? (r : Reading) : Option Reading :=
  if !r.keyAllowed then some r
  else do
    let r ← r.dropCandidate?
    let c := r.cursor
    let candidate : KeyCandidate :=
      ⟨r.count, c.index, c.line, c.column, !r.inFlow && r.indent = c.column⟩
    return { r with candidates := some candidate :: r.candidates.drop 1 }

/-- Open a block collection at a column that is deeper than the innermost one; its token goes to
`place`, or to the end. -/
def openBlock (r : Reading) (column : Nat) (place : Option Nat) (token : Token) : Reading :=
  if r.inFlow || column ≤ r.indent then r
  else
    let r := { r with outer := r.indent :: r.outer, indent := column }
    match place with
    | some place => r.insertAt place token
    | none => r.push token

/-- Close the block collections that are deeper than a column. -/
def closeBlocks (column : Int) (indent : Int) (outer : List Int) (r : Reading) : Reading :=
  if indent ≤ column then { r with indent, outer }
  else
    match outer with
    | [] => { r with indent, outer }
    | next :: outer => closeBlocks column next outer (r.push .blockEnd)

def outdent (r : Reading) (column : Int) : Reading :=
  if r.inFlow then r else closeBlocks column r.indent r.outer r

/-- Pass over blanks, comments and line ends. A tab is a blank only where no key may start. -/
def skipSpace (fuel : Nat) (r : Reading) : Reading :=
  match fuel with
  | 0 => r
  | fuel + 1 =>
    let c := r.cursor
    let c := if c.column = 0 && c.sees '\ufeff' then c.advance 1 else c
    let tabs := r.inFlow || !r.keyAllowed
    let c := (c.pastWord fun d => d = ' ' || (tabs && d = '\t')).pastComment
    match c.lineEnd? with
    | some (_, next) =>
      skipSpace fuel { r with cursor := next, keyAllowed := r.keyAllowed || !r.inFlow }
    | none => { r with cursor := c }

/-- A token of the given width that no key may start with, and whether one may follow. -/
def mark? (r : Reading) (token : Token) (width : Nat) (keyAllowed : Bool) : Option Reading := do
  let r ← r.dropCandidate?
  return ((r.push token).moveTo (r.cursor.advance width)).allowKey keyAllowed

/-- A directive or a boundary of documents ends all block collections. -/
def outermost (r : Reading) : Reading :=
  r.outdent (-1)

def directive? (r : Reading) (limit : Nat) : Option Reading := do
  let r ← r.outermost.dropCandidate?
  let (token, next) ← Yaml.directive? limit r.cursor
  return ((r.push token).moveTo next).allowKey false

def openFlow? (r : Reading) (token : Token) : Option Reading := do
  let r ← r.noteCandidate?
  let r := { r with candidates := none :: r.candidates }
  return ((r.push token).moveTo (r.cursor.advance 1)).allowKey true

def closeFlow? (r : Reading) (token : Token) : Option Reading := do
  let r ← r.dropCandidate?
  let r := if r.inFlow then { r with candidates := r.candidates.drop 1 } else r
  return ((r.push token).moveTo (r.cursor.advance 1)).allowKey false

/-- Read a dash. -/
def item? (r : Reading) : Option Reading :=
  if r.inFlow then r.mark? .entry 1 true
  else if !r.keyAllowed then none
  else (r.openBlock r.cursor.column none .blockSequence).mark? .entry 1 true

/-- Read a question mark. -/
def explicitKey? (r : Reading) : Option Reading :=
  if r.inFlow then r.mark? .key 1 false
  else if !r.keyAllowed then none
  else (r.openBlock r.cursor.column none .blockMapping).mark? .key 1 true

/-- Read a colon: what stands before it on the line is a key, if it may be one. -/
def value? (r : Reading) : Option Reading :=
  match r.candidates with
  | some candidate :: rest =>
    let r := r.insertAt candidate.place .key
    let r := r.openBlock candidate.column (some candidate.place) .blockMapping
    let r := { r with candidates := none :: rest }
    some (((r.push .value).moveTo (r.cursor.advance 1)).allowKey false)
  | _ =>
    if r.inFlow then some (((r.push .value).moveTo (r.cursor.advance 1)).allowKey false)
    else if !r.keyAllowed then none
    else
      let r := r.openBlock r.cursor.column none .blockMapping
      some (((r.push .value).moveTo (r.cursor.advance 1)).allowKey true)

/-- Read a token that may be a key or be part of one. -/
def content? (r : Reading) (read : Cursor → Option (Token × Cursor)) : Option Reading := do
  let r ← r.noteCandidate?
  let (token, next) ← read r.cursor
  return ((r.push token).moveTo next).allowKey false

def scalarToken (plain : Bool) (text : List Char) : Token :=
  .scalar plain (String.ofList text)

def quotedScalar? (r : Reading) (limit : Nat) (quote : Char) : Option Reading :=
  r.content? fun c => (quoted? quote limit c).map fun (text, next) => (scalarToken false text, next)

/-- Read a plain scalar; after a line end a key may follow. -/
def plainScalar? (r : Reading) (limit : Nat) : Option Reading := do
  let r ← r.noteCandidate?
  let (run, next) ← plain? ⟨r.inFlow, (r.indent + 1).toNat⟩ limit r.cursor
  return ((r.push (scalarToken true run.text)).moveTo next).allowKey run.afterLine

def blockScalar? (r : Reading) (limit : Nat) (folded : Bool) : Option Reading := do
  let r ← r.dropCandidate?
  let (text, next) ← block? folded r.indent limit r.cursor
  return ((r.push (scalarToken false text)).moveTo next).allowKey true

/-- The marks that no plain scalar starts with. -/
def indicators : List Char := "-?:,[]\x7b\x7d#&*!|>'\"%@\x60".toList

/-- Whether a plain scalar may start here: at no mark, or at one that something follows. -/
def startsPlain (r : Reading) : Bool :=
  let c := r.cursor
  !(c.isClear 0 || c.seesAny indicators.contains) ||
    (c.sees '-' && !(c.rest[1]?).any isBlank) ||
    (!r.inFlow && (c.sees '?' || c.sees ':') && !c.isClear 1)

def token? (r : Reading) (limit : Nat) : Option Reading :=
  let c := r.cursor
  if c.column = 0 && c.sees '%' then r.directive? limit
  else if c.atBoundary then
    r.outermost.mark? (if c.sees '-' then .documentStart else .documentEnd) 3 false
  else if c.sees '[' then r.openFlow? .openSequence
  else if c.sees '\x7b' then r.openFlow? .openMapping
  else if c.sees ']' then r.closeFlow? .closeSequence
  else if c.sees '\x7d' then r.closeFlow? .closeMapping
  else if c.sees ',' then r.mark? .comma 1 true
  else if c.sees '-' && c.isClear 1 then r.item?
  else if c.sees '?' && (r.inFlow || c.isClear 1) then r.explicitKey?
  else if c.sees ':' && (r.inFlow || c.isClear 1) then r.value?
  else if c.sees '*' then
    r.content? fun c => (anchorName? c).map fun (name, next) => (.reference name, next)
  else if c.sees '&' then
    r.content? fun c => (anchorName? c).map fun (name, next) => (.anchor name, next)
  else if c.sees '!' then r.content? (tag? r.inFlow limit)
  else if c.sees '|' && !r.inFlow then r.blockScalar? limit false
  else if c.sees '>' && !r.inFlow then r.blockScalar? limit true
  else if c.sees '\'' then r.quotedScalar? limit '\''
  else if c.sees '"' then r.quotedScalar? limit '"'
  else if r.startsPlain then r.plainScalar? limit
  else none

/-- Read all tokens. `limit` exceeds the number of characters. -/
def tokens? (limit fuel : Nat) (r : Reading) : Option (List Token) :=
  match fuel with
  | 0 => none
  | fuel + 1 => do
    let r ← (r.skipSpace limit).dropStale?
    let r := r.outdent r.cursor.column
    if r.cursor.atEnd then
      let r ← r.outermost.dropCandidate?
      return r.tokens.reverse
    else tokens? limit fuel (← r.token? limit)

end Reading

def tokensOf? (text : List Char) : Option (List Token) :=
  let limit := text.length + 2
  if text.all isAllowed then (Reading.start text).tokens? limit limit else none

end QuerySynth.Yaml
