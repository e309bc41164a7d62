import QuerySynth.Code.Basic
import QuerySynth.Code.Identifier
import QuerySynth.Text.Blank
import QuerySynth.Text.CodeSet
import QuerySynth.Text.IdentifierTable

/-! # Module paths

The settings name modules of the generated code's surroundings by paths such as `crate::pb`. A
path is read as tokens: names, separators and single marks; blanks and comments between tokens
do not count. Type arguments are legal in a path, but such a path cannot be imported.
-/

namespace QuerySynth.Code

/-- A token of a path. -/
inductive PathToken where
  /-- A name, with its raw mark if it has one. -/
  | name (text : String)
  | separator
  | lifetime
  | number
  | mark (mark : Char)
deriving DecidableEq, Repr

namespace PathToken

/-- Whether a character may start a name. -/
def startsName (c : Char) : Bool :=
  if c.toNat < 128 then c.isAlpha || c == '_' else Text.identifierStartSet.holds c.toNat

/-- Whether a character may continue a name. -/
def continuesName (c : Char) : Bool :=
  if c.toNat < 128 then isWordChar c else Text.identifierContinueSet.holds c.toNat

/-- Blanks between tokens; the marks of writing direction count as blanks. -/
def isSpace (c : Char) : Bool :=
  Text.isBlank c || c == '\u200e' || c == '\u200f'

/-- What follows a block comment that is open `depth` deep. -/
def afterComment? (depth : Nat) : List Char → Option (List Char)
  | '*' :: '/' :: rest =>
    match depth with
    | 0 | 1 => some rest
    | depth + 1 => afterComment? depth rest
  | '/' :: '*' :: rest => afterComment? (depth + 1) rest
  | _ :: rest => afterComment? depth rest
  | [] => none

/-- Whether a line comment, given without its two slashes, documents something. -/
def isDocLine (rest : List Char) : Bool :=
  match rest with
  | '/' :: '/' :: _ => false
  | '/' :: _ | '!' :: _ => true
  | _ => false

/-- Whether a block comment, given without its opening, documents something. -/
def isDocBlock (rest : List Char) : Bool :=
  match rest with
  | '*' :: '*' :: _ | '*' :: '/' :: _ => false
  | '*' :: _ | '!' :: _ => true
  | _ => false

/-- What follows a comment that the text starts with; documentation is no comment. -/
def skipComment? : List Char → Option (List Char)
  | '/' :: '/' :: rest => if isDocLine rest then none else some (rest.dropWhile (· != '\n'))
  | '/' :: '*' :: rest => if isDocBlock rest then none else afterComment? 1 rest
  | _ => none

/-- One token and what follows it. Raw names of path keywords are refused. -/
def next? : List Char → Option (PathToken × List Char)
  | 'r' :: '#' :: c :: rest =>
    let text := String.ofList (c :: rest.takeWhile continuesName)
    if startsName c && !pathKeywords.contains text && text != "_" then
      some (.name ("r#" ++ text), rest.dropWhile continuesName)
    else none
  | ':' :: ':' :: rest => some (.separator, rest)
  | '\'' :: c :: rest =>
    if startsName c && (rest.dropWhile continuesName).head? != some '\'' then
      some (.lifetime, rest.dropWhile continuesName)
    else none
  | c :: rest =>
    if startsName c then
      some (.name (String.ofList (c :: rest.takeWhile continuesName)), rest.dropWhile continuesName)
    else if c.isDigit then some (.number, rest.dropWhile continuesName)
    else if "&*!<>()[];,=+-".toList.contains c then some (.mark c, rest)
    else none
  | [] => none

/-- The tokens of a text; every step takes at least one character of at most `fuel`. -/
def read? : (fuel : Nat) → List Char → Option (List PathToken)
  | _, [] => some []
  | 0, _ :: _ => none
  | fuel + 1, c :: rest =>
    if isSpace c then read? fuel rest
    else
      match skipComment? (c :: rest) with
      | some rest => read? fuel rest
      | none => do
        let (token, rest) ← next? (c :: rest)
        return token :: (← read? fuel rest)

/-- Whether a name is legal at any place, not only in a path. -/
def isPlainName (text : String) : Bool :=
  text != "_" && !keywords.contains text

end PathToken

/-- A path to a module. -/
structure ModulePath where
  /-- Whether the path starts at the root of all packages. -/
  rooted : Bool
  names : Path
  /-- Whether a name has type arguments. -/
  applied : Bool
deriving DecidableEq, Repr

namespace ModulePath

open PathToken

/-- Names that are a segment of a path although they are keywords and take no arguments. -/
def placeNames : List String := ["super", "self", "crate", "try"]

mutual

/-- What follows a type. `fuel` bounds the tokens that are read. -/
def afterType? (fuel : Nat) (tokens : List PathToken) : Option (List PathToken) :=
  match fuel with
  | 0 => none
  | fuel + 1 =>
    match tokens with
    | .mark '&' :: .lifetime :: .name "mut" :: rest => afterType? fuel rest
    | .mark '&' :: .lifetime :: rest => afterType? fuel rest
    | .mark '&' :: .name "mut" :: rest => afterType? fuel rest
    | .mark '&' :: rest => afterType? fuel rest
    | .mark '*' :: .name "const" :: rest => afterType? fuel rest
    | .mark '*' :: .name "mut" :: rest => afterType? fuel rest
    | .mark '!' :: rest => some rest
    | .name "_" :: rest => some rest
    | .name "dyn" :: rest => afterType? fuel rest
    | .name "impl" :: rest => afterType? fuel rest
    | .mark '(' :: .mark ')' :: rest => some rest
    | .mark '(' :: rest => afterList? fuel ')' rest
    | .mark '[' :: rest =>
      match afterType? fuel rest with
      | some (.mark ']' :: rest) => some rest
      | some (.mark ';' :: .number :: .mark ']' :: rest) => some rest
      | _ => none
    | .separator :: rest => (segments? fuel rest).map (·.2.2)
    | _ => (segments? fuel tokens).map (·.2.2)

/-- What follows types with commas between them and the mark that ends them. -/
def afterList? (fuel : Nat) (ending : Char) (tokens : List PathToken) :
    Option (List PathToken) :=
  match fuel with
  | 0 => none
  | fuel + 1 =>
    match afterArgument? fuel tokens with
    | some (.mark ',' :: .mark c :: rest) =>
      if c = ending then some rest else afterList? fuel ending (.mark c :: rest)
    | some (.mark ',' :: rest) => afterList? fuel ending rest
    | some (.mark c :: rest) => if c = ending then some rest else none
    | _ => none

/-- What follows an argument: a lifetime, a number, a type, or a named type. -/
def afterArgument? (fuel : Nat) (tokens : List PathToken) : Option (List PathToken) :=
  match fuel with
  | 0 => none
  | fuel + 1 =>
    match tokens with
    | .lifetime :: rest | .number :: rest | .mark '-' :: .number :: rest => some rest
    | .name "true" :: rest | .name "false" :: rest => some rest
    | .name text :: .mark '=' :: rest => if isPlainName text then afterType? fuel rest else none
    | _ => afterType? fuel tokens

/-- What follows the arguments of a name after their opening mark. -/
def afterArguments? (fuel : Nat) (tokens : List PathToken) : Option (List PathToken) :=
  match fuel with
  | 0 => none
  | fuel + 1 =>
    match tokens with
    | .mark '>' :: rest => some rest
    | _ => afterList? fuel '>' tokens

/-- The names of a path, whether one has arguments, and what follows. -/
def segments? (fuel : Nat) (tokens : List PathToken) : Option (Path × Bool × List PathToken) :=
  match fuel with
  | 0 => none
  | fuel + 1 =>
    match tokens with
    | .name text :: rest => do
      let place := placeNames.contains text
      if !place && text != "Self" && !isPlainName text then none
      else
        let (applied, rest) ←
          if place then some (false, rest)
          else
            match rest with
            | .mark '<' :: rest | .separator :: .mark '<' :: rest =>
              (afterArguments? fuel rest).map (true, ·)
            | _ => some (false, rest)
        match rest with
        | .separator :: rest =>
          let (names, more, rest) ← segments? fuel rest
          return (text :: names, applied || more, rest)
        | _ => return ([text], applied, rest)
    | _ => none

end

/-- The path that tokens form. -/
def ofTokens? (tokens : List PathToken) : Option ModulePath :=
  let (rooted, tokens) :=
    match tokens with
    | .separator :: rest => (true, rest)
    | _ => (false, tokens)
  match segments? (4 * tokens.length + 4) tokens with
  | some (names, applied, []) => some ⟨rooted, names, applied⟩
  | _ => none

/-- The path that a text names. A byte order mark at its start does not count. -/
def ofText? (text : String) : Option ModulePath :=
  let chars := (Text.dropStem? ['\ufeff'] text.toList).getD text.toList
  (PathToken.read? chars.length chars).bind ofTokens?

/-- Whether an import of the path is legal code. -/
def isImportable (path : ModulePath) : Bool :=
  !path.applied && !path.names.contains "Self"

/-- The import that brings the module under a name of its own. -/
def bring (path : ModulePath) (name : String) : Item :=
  .bring path.rooted path.names (if path.names.getLast? = some name then none else some name)

end ModulePath

end QuerySynth.Code
