import QuerySynth.Document.Yaml.ScalarText
import QuerySynth.Text.Utf8

/-! # Tokens of YAML text

Marks, names and scalars. Block collections have no marks of their own: their starts and ends
are tokens that follow from the indentation.
-/

namespace QuerySynth.Yaml

/-- A token of YAML text. -/
inductive Token where
  | version (major minor : Nat)
  /-- What a tag handle stands for. -/
  | handle (handle leading : String)
  | documentStart
  | documentEnd
  | blockSequence
  | blockMapping
  | blockEnd
  | openSequence
  | closeSequence
  | openMapping
  | closeMapping
  /-- A dash before an item of a block sequence. -/
  | entry
  /-- A comma in a bracketed collection. -/
  | comma
  | key
  | value
  /-- The use of an anchor. -/
  | reference (name : String)
  | anchor (name : String)
  | tag (handle suffix : String)
  | scalar (plain : Bool) (text : String)
deriving DecidableEq, Repr, Inhabited

/-- An anchor or its use, from its mark on. -/
def anchorName? (c : Cursor) : Option (String × Cursor) :=
  let c := c.advance 1
  let name := c.word isWordChar
  let next := c.pastWord isWordChar
  if name.isEmpty then none
  else if next.isClear 0 ||
      next.seesAny fun d => ['?', ':', ',', ']', '}', '%', '@', '\x60'].contains d then
    some (String.ofList name, next)
  else none

/-- The characters of a tag besides letters, digits and escapes. -/
def tagMarks : List Char := ";/?:@&=+$.!~*'()".toList

/-- The marks that only a tag between angle brackets may hold. -/
def bracketMarks : List Char := [',', '[', ']']

/-- The number of bytes of a character, by the first of them. -/
def utf8Length? (first : Nat) : Option Nat :=
  if first < 0x80 then some 1
  else if 0xC0 ≤ first ∧ first < 0xE0 then some 2
  else if 0xE0 ≤ first ∧ first < 0xF0 then some 3
  else if 0xF0 ≤ first ∧ first < 0xF8 then some 4
  else none

/-- The byte of an escape. -/
def escapedByte? : List Char → Option (UInt8 × List Char)
  | '%' :: a :: b :: rest => do
    return ((16 * (← Text.hexDigit? a) + (← Text.hexDigit? b)).toUInt8, rest)
  | _ => none

/-- The given number of escaped bytes. -/
def escapedBytes? : Nat → List Char → Option (List UInt8 × List Char)
  | 0, text => some ([], text)
  | count + 1, text => do
    let (byte, rest) ← escapedByte? text
    let (bytes, rest) ← escapedBytes? count rest
    return (byte :: bytes, rest)

/-- An escaped character and the length of its escapes. -/
def escapedChar? (text : List Char) : Option (List Char × Nat) := do
  let (first, _) ← escapedByte? text
  let count ← utf8Length? first.toNat
  let (bytes, _) ← escapedBytes? count text
  let read ← textOfBytes? bytes
  return (read.toList, 3 * count)

/-- The characters of a tag. -/
def tagText? (brackets : Bool) (fuel : Nat) (read : List Char) (c : Cursor) :
    Option (List Char × Cursor) :=
  match fuel with
  | 0 => none
  | fuel + 1 =>
    match c.peek? with
    | some d =>
      if d = '%' then
        match escapedChar? c.rest with
        | some (chars, length) =>
          tagText? brackets fuel (chars.reverse ++ read) (c.advance length)
        | none => none
      else if isWordChar d || tagMarks.contains d || (brackets && bracketMarks.contains d) then
        tagText? brackets fuel (d :: read) (c.advance 1)
      else some (read.reverse, c)
    | none => some (read.reverse, c)

/-- A handle as far as it goes: the mark, letters, and perhaps a second mark. -/
def tagHandle? (c : Cursor) : Option (List Char × Cursor) :=
  if c.sees '!' then
    let name := (c.advance 1).word isWordChar
    let next := (c.advance 1).pastWord isWordChar
    if next.sees '!' then some ('!' :: name ++ ['!'], next.advance 1)
    else some ('!' :: name, next)
  else none

/-- A tag between angle brackets. -/
def verbatimTag? (limit : Nat) (c : Cursor) : Option (Token × Cursor) := do
  let (suffix, next) ← tagText? true limit [] (c.advance 2)
  if suffix.isEmpty || !next.sees '>' then none
  else some (.tag "" (String.ofList suffix), next.advance 1)

/-- A tag with a handle, or one whose first letters only looked like a handle. -/
def shorthandTag? (limit : Nat) (c : Cursor) : Option (Token × Cursor) := do
  let (handle, next) ← tagHandle? c
  if 1 < handle.length && handle.getLast? = some '!' then
    let (suffix, next) ← tagText? false limit [] next
    if suffix.isEmpty then none
    else some (.tag (String.ofList handle) (String.ofList suffix), next)
  else
    let (more, next) ← tagText? false limit [] next
    match handle.drop 1 ++ more with
    | [] => some (.tag "" "!", next)
    | suffix => some (.tag "!" (String.ofList suffix), next)

def tag? (inFlow : Bool) (limit : Nat) (c : Cursor) : Option (Token × Cursor) := do
  let (token, next) ← if c.rest[1]? = some '<' then verbatimTag? limit c else shorthandTag? limit c
  if (inFlow && next.sees ',') || next.isClear 0 then some (token, next) else none

/-- The most digits of a version number. -/
def maxVersionDigits : Nat := 9

def versionNumber? (c : Cursor) : Option (Nat × Cursor) :=
  let digits := c.word Char.isDigit
  if digits.isEmpty || maxVersionDigits < digits.length then none
  else some (digits.foldl (fun n d => 10 * n + (d.toNat - '0'.toNat)) 0, c.pastWord Char.isDigit)

def versionValue? (c : Cursor) : Option (Token × Cursor) := do
  let (major, next) ← versionNumber? c
  if !next.sees '.' then none
  else
    let (minor, next) ← versionNumber? (next.advance 1)
    return (.version major minor, next)

/-- The value of a directive that declares a handle. -/
def handleValue? (limit : Nat) (c : Cursor) : Option (Token × Cursor) := do
  let (handle, next) ← tagHandle? c
  if (1 < handle.length && handle.getLast? ≠ some '!') || !next.seesAny isBlank then none
  else
    let (leading, next) ← tagText? true limit [] (next.pastWord isBlank)
    if leading.isEmpty || !next.isClear 0 then none
    else some (.handle (String.ofList handle) (String.ofList leading), next)

/-- A directive with its line, from its mark on. -/
def directive? (limit : Nat) (c : Cursor) : Option (Token × Cursor) := do
  let c := c.advance 1
  let name := String.ofList (c.word isWordChar)
  let next := c.pastWord isWordChar
  let (token, next) ←
    if !next.isClear 0 then none
    else if name = "YAML" then versionValue? (next.pastWord isBlank)
    else if name = "TAG" then handleValue? limit (next.pastWord isBlank)
    else none
  let next := (next.pastWord isBlank).pastComment
  if next.atEnd then some (token, next) else next.lineEnd?.map fun (_, next) => (token, next)

end QuerySynth.Yaml
