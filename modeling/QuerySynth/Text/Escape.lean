import QuerySynth.Text.PrintTable

/-! # Escaped texts

Characters that would not show are written as escapes: the usual letters for tab, line feed and
carriage return, code points in braces for the rest.
-/

namespace QuerySynth.Text

/-- Whether a character shows as itself and does not join the one before it. -/
def showsPlainly (c : Char) : Bool :=
  if c.toNat < 128 then 0x20 ≤ c.toNat && c.toNat < 0x7F
  else !unprintableSet.holds c.toNat && !graphemeExtendSet.holds c.toNat

/-- A character with its escape where it needs one. A single quote is left alone. -/
def escapeChar (c : Char) : List Char :=
  if c = '\x00' then ['\\', '0']
  else if c = '\t' then ['\\', 't']
  else if c = '\n' then ['\\', 'n']
  else if c = '\r' then ['\\', 'r']
  else if c = '\\' then ['\\', '\\']
  else if c = '"' then ['\\', '"']
  else if showsPlainly c then [c]
  else ['\\', 'u', '\x7b'] ++ Nat.toDigits 16 c.toNat ++ ['\x7d']

/-- A text between double quotes, for messages. -/
def quoted (text : String) : String :=
  "\"" ++ String.ofList (text.toList.flatMap escapeChar) ++ "\""

/-- The characters of a string literal: as in messages, except that a NUL before an octal digit
is spelled out. -/
def literalChars : List Char → List Char
  | [] => []
  | c :: rest =>
    (if c = '\x00' ∧ rest.head?.any (fun d => '0' ≤ d && d ≤ '7') then ['\\', 'x', '0', '0']
      else escapeChar c) ++ literalChars rest

def literal (text : String) : String :=
  "\"" ++ String.ofList (literalChars text.toList) ++ "\""

end QuerySynth.Text
