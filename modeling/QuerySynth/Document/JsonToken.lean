import QuerySynth.Document.Basic
import QuerySynth.Text.Digit

/-! # Tokens of JSON text

The scanner is a state machine over characters: every character either extends the open token or
closes it and is then looked at afresh. Numbers are read as their leading digits, as many as fit
64 bits, scaled by a power of ten; whole numbers that fit 64 bits stay exact.
-/

namespace QuerySynth.Json

/-- A token of JSON text. -/
inductive Token where
  | openArray
  | closeArray
  | openObject
  | closeObject
  | comma
  | colon
  | scalar (value : Document)
deriving Repr, Inhabited

/-- What the scanner is in the middle of. Texts are kept last character first. -/
inductive Mode where
  | between
  | word (read : List Char)
  | number (read : List Char)
  | string (read : List Char)
  | escape (read : List Char)
  /-- Inside a code unit escape: the digits left and the value so far. -/
  | unit (read : List Char) (high : Option Nat) (left : Nat) (value : Nat)
  /-- After a high surrogate, before the backslash of its partner. -/
  | partner (read : List Char) (high : Nat)
  /-- After that backslash. -/
  | partnerEscape (read : List Char) (high : Nat)

def digit (c : Char) : Nat := c.toNat - '0'.toNat

/-- The greatest whole number that stays exact. -/
def maxUnsigned : Nat := Nat.pow 2 64 - 1

/-- Take leading digits into `significand` while it fits 64 bits; the rest are dropped. The
result is the significand and the numbers of digits taken and dropped. -/
def takeDigits (significand : Nat) (digits : List Char) : Nat × Nat × Nat :=
  match digits with
  | [] => (significand, 0, 0)
  | d :: rest =>
    let next := 10 * significand + digit d
    if maxUnsigned < next then (significand, 0, digits.length)
    else
      let (value, taken, dropped) := takeDigits next rest
      (value, taken + 1, dropped)

/-- The value of a signed exponent text. -/
def exponent? (text : List Char) : Option Int :=
  let (negative, digits) :=
    match text with
    | '-' :: rest => (true, rest)
    | '+' :: rest => (false, rest)
    | rest => (false, rest)
  if digits.isEmpty || !digits.all Char.isDigit then none
  else
    let value : Nat := digits.foldl (fun n d => 10 * n + digit d) 0
    some (if negative then -value else value)

/-- The parts of a number: whole digits, fraction digits and exponent text, if written. -/
def numberParts (text : List Char) : List Char × Option (List Char) × Option (List Char) :=
  let whole := text.takeWhile Char.isDigit
  let rest := text.dropWhile Char.isDigit
  let (fraction, rest) :=
    match rest with
    | '.' :: after => (some (after.takeWhile Char.isDigit), after.dropWhile Char.isDigit)
    | _ => (none, rest)
  match rest with
  | [] => (whole, fraction, none)
  | c :: after => (whole, fraction, some (if c = 'e' ∨ c = 'E' then after else ['!']))

/-- The number that a text without sign stands for. -/
def unsigned? (negative : Bool) (text : List Char) : Option Document := do
  let (whole, fraction, exponent) := numberParts text
  guard (!whole.isEmpty && (whole.head? != some '0' || whole.length == 1))
  guard (fraction.all (!·.isEmpty))
  let (significand, _, droppedWhole) := takeDigits 0 whole
  if fraction.isNone && exponent.isNone && droppedWhole == 0 then
    if !negative then return .int significand
    else if significand = 0 ∨ Nat.pow 2 63 < significand then
      return .float (← Binary64.ofQuotient true significand 1)
    else return .int (-significand)
  else
    let (significand, takenFraction, _) := takeDigits significand (fraction.getD [])
    let written ← (exponent.map exponent?).getD (some 0)
    return .float
      (← Binary64.ofScaled? negative significand (droppedWhole - takenFraction + written))

def number? : List Char → Option Document
  | '-' :: text => unsigned? true text
  | text => unsigned? false text

/-- The scalar that a bare word stands for. -/
def word? (text : List Char) : Option Document :=
  match String.ofList text with
  | "null" => some .null
  | "true" => some (.bool true)
  | "false" => some (.bool false)
  | _ => none

/-- Look at a character between tokens. -/
def start (c : Char) : Option (List Token × Mode) :=
  if c = ' ' ∨ c = '\n' ∨ c = '\t' ∨ c = '\r' then some ([], .between)
  else if c = '"' then some ([], .string [])
  else if c = '[' then some ([.openArray], .between)
  else if c = ']' then some ([.closeArray], .between)
  else if c = '{' then some ([.openObject], .between)
  else if c = '}' then some ([.closeObject], .between)
  else if c = ',' then some ([.comma], .between)
  else if c = ':' then some ([.colon], .between)
  else if c = '-' ∨ c.isDigit then some ([], .number [c])
  else if c.isAlpha then some ([], .word [c])
  else none

/-- The characters that may stand in a number. -/
def isNumberChar (c : Char) : Bool :=
  c.isDigit || c == '-' || c == '+' || c == '.' || c == 'e' || c == 'E'

/-- Close a token whose end is seen only on the next character. -/
def close (mode : Mode) : Option (List Token) :=
  match mode with
  | .between => some []
  | .word read => (word? read.reverse).map fun value => [.scalar value]
  | .number read => (number? read.reverse).map fun value => [.scalar value]
  | _ => none

/-- The character that a one-letter escape stands for. -/
def escape? (c : Char) : Option Char :=
  match c with
  | '"' => some '"'
  | '\\' => some '\\'
  | '/' => some '/'
  | 'b' => some '\x08'
  | 'f' => some '\x0c'
  | 'n' => some '\n'
  | 'r' => some '\r'
  | 't' => some '\t'
  | _ => none

/-- Take a complete code unit: a character, or the first half of a pair. -/
def takeUnit (read : List Char) (high : Option Nat) (value : Nat) : Option Mode :=
  match high with
  | none =>
    if 0xD800 ≤ value ∧ value < 0xDC00 then some (.partner read value)
    else if 0xDC00 ≤ value ∧ value < 0xE000 then none
    else some (.string (Char.ofNat value :: read))
  | some first =>
    if 0xDC00 ≤ value ∧ value < 0xE000 then
      some (.string (Char.ofNat (0x10000 + (first - 0xD800) * 0x400 + (value - 0xDC00)) :: read))
    else none

/-- One character of the scanner. -/
def scanChar (mode : Mode) (c : Char) : Option (List Token × Mode) :=
  match mode with
  | .between => start c
  | .word read =>
    if c.isAlpha then some ([], .word (c :: read))
    else do
      let closed ← close mode
      let (opened, next) ← start c
      return (closed ++ opened, next)
  | .number read =>
    if isNumberChar c then some ([], .number (c :: read))
    else do
      let closed ← close mode
      let (opened, next) ← start c
      return (closed ++ opened, next)
  | .string read =>
    if c = '"' then some ([.scalar (.str (String.ofList read.reverse))], .between)
    else if c = '\\' then some ([], .escape read)
    else if c.toNat < 0x20 then none
    else some ([], .string (c :: read))
  | .escape read =>
    if c = 'u' then some ([], .unit read none 4 0)
    else (escape? c).map fun e => ([], .string (e :: read))
  | .unit read high left value => do
    let d ← Text.hexDigit? c
    if left ≤ 1 then
      let next ← takeUnit read high (16 * value + d)
      return ([], next)
    else return ([], .unit read high (left - 1) (16 * value + d))
  | .partner read high => if c = '\\' then some ([], .partnerEscape read high) else none
  | .partnerEscape read high => if c = 'u' then some ([], .unit read (some high) 4 0) else none

def tokensFrom? (mode : Mode) : List Char → Option (List Token)
  | [] => close mode
  | c :: rest =>
    match scanChar mode c with
    | none => none
    | some (tokens, next) => (tokensFrom? next rest).map (tokens ++ ·)

def tokens? (text : String) : Option (List Token) :=
  tokensFrom? .between text.toList

end QuerySynth.Json
