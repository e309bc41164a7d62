import QuerySynth.Document.Basic
import QuerySynth.Text.Digit
import QuerySynth.Text.Pieces

/-! # What scalars mean

A plain scalar is null, a truth value or a number when it is spelled like one, and a text
otherwise. Digits after a leading zero are a text.
-/

namespace QuerySynth.Yaml

def isNullWord (text : String) : Bool :=
  ["null", "Null", "NULL", "~"].contains text

def boolWord? (text : String) : Option Bool :=
  if ["true", "True", "TRUE"].contains text then some true
  else if ["false", "False", "FALSE"].contains text then some false
  else none

/-- The bases that a number may announce. -/
def announcedBases : List (List Char × Nat) :=
  [(['0', 'x'], 16), (['0', 'o'], 8), (['0', 'b'], 2)]

/-- Whether a text is digits after a leading zero, perhaps with a sign. -/
def isZeroLed (text : List Char) : Bool :=
  let body :=
    match text with
    | '-' :: rest | '+' :: rest => rest
    | rest => rest
  match body with
  | '0' :: rest => !rest.isEmpty && rest.all Char.isDigit
  | _ => false

/-- The magnitude of a whole number without a minus sign or with one. -/
def magnitude? (text body : List Char) : Option Nat :=
  let announced := announcedBases.findSome? fun (start, base) =>
    (Text.dropStem? start body).bind (Text.digits? base)
  match announced with
  | some value => some value
  | none => if isZeroLed text then none else Text.digits? 10 body

def unsigned? (text : List Char) : Option Nat :=
  match text with
  | '+' :: body => magnitude? text body
  | _ => magnitude? text text

/-- The magnitude of a whole number with a minus sign. -/
def negative? (text : List Char) : Option Nat :=
  match text with
  | '-' :: body => magnitude? text body
  | _ => none

/-- What a spelling of a whole number comes to. -/
inductive Whole where
  | exact (value : Int)
  /-- A number of more than 64 but at most 128 bits, which documents do not hold. -/
  | tooWide
deriving DecidableEq, Repr

/-- The whole number that a text spells; beyond 128 bits it is none. -/
def whole? (text : List Char) : Option Whole :=
  match unsigned? text, negative? text with
  | some n, _ =>
    if n < Nat.pow 2 64 then some (.exact n) else if n < Nat.pow 2 128 then some .tooWide else none
  | none, some n =>
    if n ≤ Nat.pow 2 63 then some (.exact (-n)) else if n ≤ Nat.pow 2 127 then some .tooWide else none
  | none, none => none

def signedExponent? (text : List Char) : Option Int :=
  match text with
  | '-' :: rest => (Text.digits? 10 rest).map fun n => -(n : Int)
  | '+' :: rest => (Text.digits? 10 rest).map fun n => (n : Int)
  | rest => (Text.digits? 10 rest).map fun n => (n : Int)

/-- The value of an unsigned decimal with a point, an exponent or neither. -/
def decimal? (negative : Bool) (text : List Char) : Option Binary64 := do
  let whole := text.takeWhile Char.isDigit
  let rest := text.dropWhile Char.isDigit
  let (fraction, rest) :=
    match rest with
    | '.' :: after => (after.takeWhile Char.isDigit, after.dropWhile Char.isDigit)
    | _ => ([], rest)
  let exponent ←
    match rest with
    | [] => some 0
    | c :: after => if c = 'e' ∨ c = 'E' then signedExponent? after else none
  let digits ← Text.digits? 10 (whole ++ fraction)
  Binary64.ofDecimal? negative digits (exponent - fraction.length)

/-- A floating point number: a finite one, or one that is none of them. -/
inductive Floating where
  | finite (value : Binary64)
  | infinite
  | notANumber
deriving DecidableEq, Repr

def floating? (text : List Char) : Option Floating :=
  let word := String.ofList text
  if [".nan", ".NaN", ".NAN"].contains word then some .notANumber
  else
    match text with
    | '+' :: rest =>
      if [".inf", ".Inf", ".INF"].contains (String.ofList rest) then some .infinite
      else (decimal? false rest).map .finite
    | '-' :: rest =>
      if [".inf", ".Inf", ".INF"].contains (String.ofList rest) then some .infinite
      else (decimal? true rest).map .finite
    | rest =>
      if [".inf", ".Inf", ".INF"].contains word then some .infinite
      else (decimal? false rest).map .finite

/-- The value of a floating point number; infinities and what is no number become null. -/
def Floating.document : Floating → Document
  | .finite value => .float value
  | .infinite | .notANumber => .null

def Whole.document? : Whole → Option Document
  | .exact value => some (.int value)
  | .tooWide => none

/-- What a plain scalar means. -/
inductive PlainMeaning where
  | null
  | bool (value : Bool)
  | whole (value : Whole)
  | floating (value : Floating)
  | text
deriving DecidableEq, Repr

def plainMeaning (text : String) : PlainMeaning :=
  let chars := text.toList
  if text.isEmpty || isNullWord text then .null
  else
    match boolWord? text, whole? chars with
    | some value, _ => .bool value
    | none, some value => .whole value
    | none, none =>
      if isZeroLed chars then .text
      else
        match floating? chars with
        | some value => .floating value
        | none => .text

def plainDocument? (text : String) : Option Document :=
  match plainMeaning text with
  | .null => some .null
  | .bool value => some (.bool value)
  | .whole value => value.document?
  | .floating value => some value.document
  | .text => some (.str text)

/-- The start of the tags of the standard types. -/
def standardTag (name : String) : String := "tag:yaml.org,2002:" ++ name

/-- Whether a tag is a local one, which no document can express. -/
def isLocalTag (tag : String) : Bool :=
  tag.toList.head? = some '!'

/-- The value of a scalar: by its tag, else by its text if it is plain. -/
def scalarDocument? (tag : Option String) (plain : Bool) (text : String) : Option Document :=
  match tag with
  | none => if plain then plainDocument? text else some (.str text)
  | some tag =>
    if isLocalTag tag then none
    else if tag = standardTag "bool" then (boolWord? text).map .bool
    else if tag = standardTag "int" then (whole? text.toList).bind Whole.document?
    else if tag = standardTag "float" then (floating? text.toList).map Floating.document
    else if tag = standardTag "null" then if isNullWord text then some .null else none
    else some (.str text)

end QuerySynth.Yaml
