import QuerySynth.Text.Pieces

/-! # Paths

A path is kept as it was written, because messages show it so. Following it, only the names
between its slashes count.
-/

namespace QuerySynth

/-- The written form of a place in the storage. -/
structure Path where
  text : String
deriving DecidableEq, Repr

namespace Path

/-- The pieces between the slashes, empty ones included. -/
def pieces (path : Path) : List (List Char) :=
  Text.splitOn '/' path.text.toList

/-- The names to follow, one after the other. -/
def steps (path : Path) : List String :=
  (path.pieces.filter fun piece => piece ≠ []).map String.ofList

def isAbsolute (path : Path) : Bool :=
  path.text.toList.head? = some '/'

/-- Whether the path can only stand for a directory. -/
def endsInSlash (path : Path) : Bool :=
  Text.endsWith ['/'] path.text.toList

/-- The path of a name below a path. An absolute name stands for itself. -/
def join (path : Path) (name : String) : Path :=
  if (Path.mk name).isAbsolute then ⟨name⟩
  else if path.text = "" || path.endsInSlash then ⟨path.text ++ name⟩
  else ⟨path.text ++ "/" ++ name⟩

/-- A piece that leads nowhere else. -/
def isIdle (piece : List Char) : Bool :=
  piece = [] || piece = ['.']

/-- The first piece, and the others without the idle ones at the end. -/
def body (path : Path) : List Char × List (List Char) :=
  match path.pieces with
  | [] => ([], [])
  | first :: rest => (first, Text.trimRight isIdle rest)

/-- The path without its last name; none for the root and for the empty path. -/
def parent? (path : Path) : Option Path :=
  match path.body with
  | ([], []) => none
  | (_, []) => some ⟨""⟩
  | (first, names) =>
    match first, Text.trimRight isIdle names.dropLast with
    | [], [] => some ⟨"/"⟩
    | _, outer => some ⟨String.ofList (List.intercalate ['/'] (first :: outer))⟩

/-- The path with all its parents, the outermost last. -/
def withParents (path : Path) : List Path :=
  go (path.text.length + 1) path
where
  go : Nat → Path → List Path
    | 0, _ => []
    | fuel + 1, path =>
      if path.text = "" then [] else path :: (path.parent?.map (go fuel)).getD []

/-- The last name; none when the path ends in a dot or two. -/
def fileName? (path : Path) : Option (List Char) :=
  let last := path.body.2.getLast?.getD path.body.1
  if isIdle last || last = ['.', '.'] then none else some last

/-- What follows the last dot of the last name, unless that dot is the name's first character. -/
def extension? (path : Path) : Option String := do
  let name ← path.fileName?
  match (Text.splitOn '.' name).reverse with
  | _ :: [] | [] => none
  | [_, []] => none
  | ending :: _ => some (String.ofList ending)

end Path

end QuerySynth
