import QuerySynth.Toml.Value

/-! # TOML tables

The lines of a table without inner tables: a key, an equals sign and a value. Settings need no
more, so everything else that the format offers is refused here.
-/

namespace QuerySynth.Toml

/-- What follows the rest of a line that says nothing more: blanks and a comment. -/
def endLine? (text : List Char) : Option (List Char) :=
  let rest :=
    match text.dropWhile isBlank with
    | '#' :: comment => comment.dropWhile isPlain
    | rest => rest
  if rest.isEmpty then some [] else afterLineEnd? rest

def isKeyChar (c : Char) : Bool :=
  c.isAlphanum || c = '_' || c = '-'

/-- The key at the start of a text, and what follows. -/
def key? : List Char → Option (String × List Char)
  | '"' :: rest =>
    (lineText? '"' (rest.length + 1) rest).map fun (key, rest) => (String.ofList key, rest)
  | '\'' :: rest =>
    (lineText? '\'' (rest.length + 1) rest).map fun (key, rest) => (String.ofList key, rest)
  | text =>
    let key := text.takeWhile isKeyChar
    if key.isEmpty then none else some (String.ofList key, text.dropWhile isKeyChar)

/-- The entry on a line, and what follows the line. -/
def line? (text : List Char) : Option ((String × Value) × List Char) := do
  let (key, rest) ← key? (text.dropWhile isBlank)
  match rest.dropWhile isBlank with
  | '=' :: rest =>
    let (value, rest) ← value? (rest.dropWhile isBlank)
    return ((key, value), ← endLine? rest)
  | _ => none

def entries? : (fuel : Nat) → List Char → Option (List (String × Value))
  | _, [] => some []
  | 0, _ :: _ => none
  | fuel + 1, text =>
    match endLine? text with
    | some rest => entries? fuel rest
    | none => do
      let (entry, rest) ← line? text
      return entry :: (← entries? fuel rest)

/-- The table of a text; each key may come once. A mark of the byte order at the start does not
count. -/
def table? (text : String) : Option (List (String × Value)) := do
  let content := text.toList
  let content := if content.head? = some '\ufeff' then content.drop 1 else content
  let entries ← entries? content.length content
  if (entries.map (·.1)).Nodup then some entries else none

end QuerySynth.Toml
