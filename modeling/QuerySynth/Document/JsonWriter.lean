import QuerySynth.Document.Basic
import QuerySynth.Number.Layout

/-! # Writing JSON

The compact form on one line, and the indented form with two spaces for each level.
-/

namespace QuerySynth.Json

/-- Positional from `0.00001` to sixteen digits before the point; otherwise `1.5e-6`, `1e+16`. -/
def numberLayout : NumberLayout := ⟨-5, 15, "+"⟩

/-- The two lower hexadecimal digits of a number. -/
def hexPair (n : Nat) : List Char :=
  [Nat.digitChar (n / 16 % 16), Nat.digitChar (n % 16)]

/-- A character inside a quoted text. -/
def quoteChar (c : Char) : List Char :=
  if c = '"' then ['\\', '"']
  else if c = '\\' then ['\\', '\\']
  else if c = '\x08' then ['\\', 'b']
  else if c = '\x0c' then ['\\', 'f']
  else if c = '\n' then ['\\', 'n']
  else if c = '\r' then ['\\', 'r']
  else if c = '\t' then ['\\', 't']
  else if c.toNat < 0x20 then ['\\', 'u', '0', '0'] ++ hexPair c.toNat
  else [c]

def quote (text : String) : String :=
  "\"" ++ String.ofList (text.toList.flatMap quoteChar) ++ "\""

mutual

def compact : Document → String
  | .null => "null"
  | .bool value => if value then "true" else "false"
  | .int value => toString value
  | .float value => numberLayout.render value
  | .str text => quote text
  | .arr items => "[" ++ compactItems items ++ "]"
  | .obj members => "\x7b" ++ compactMembers members ++ "\x7d"

def compactItems : List Document → String
  | [] => ""
  | [item] => compact item
  | item :: rest => compact item ++ "," ++ compactItems rest

def compactMembers : List (String × Document) → String
  | [] => ""
  | [(key, value)] => quote key ++ ":" ++ compact value
  | (key, value) :: rest => quote key ++ ":" ++ compact value ++ "," ++ compactMembers rest

end

mutual

/-- A document with its containers on lines of their own, indented from `margin` on. -/
def indented (margin : String) : Document → String
  | .arr [] => "[]"
  | .obj [] => "\x7b\x7d"
  | .arr items => "[\n" ++ indentedItems (margin ++ "  ") items ++ "\n" ++ margin ++ "]"
  | .obj members =>
    "\x7b\n" ++ indentedMembers (margin ++ "  ") members ++ "\n" ++ margin ++ "\x7d"
  | .null => "null"
  | .bool value => if value then "true" else "false"
  | .int value => toString value
  | .float value => numberLayout.render value
  | .str text => quote text

/-- The items of an array, one a line. -/
def indentedItems (margin : String) : List Document → String
  | [] => ""
  | [item] => margin ++ indented margin item
  | item :: rest => margin ++ indented margin item ++ ",\n" ++ indentedItems margin rest

/-- The members of an object, one a line. -/
def indentedMembers (margin : String) : List (String × Document) → String
  | [] => ""
  | [(key, value)] => margin ++ quote key ++ ": " ++ indented margin value
  | (key, value) :: rest =>
    margin ++ quote key ++ ": " ++ indented margin value ++ ",\n" ++ indentedMembers margin rest

end

end QuerySynth.Json
