import QuerySynth.Document.Basic
import QuerySynth.Text.Pieces

/-! # Pointers into documents

A pointer is a path of member names and array positions, written with a slash before each step;
`~1` stands for a slash and `~0` for a tilde inside a step.
-/

namespace QuerySynth.Document

open Text

/-- Replace the pair `~mark` by one character, from left to right. -/
def unescapePair (mark by' : Char) : List Char → List Char
  | '~' :: c :: rest =>
    if c = mark then by' :: unescapePair mark by' rest else '~' :: unescapePair mark by' (c :: rest)
  | c :: rest => c :: unescapePair mark by' rest
  | [] => []

/-- The step that a written piece of a pointer stands for. -/
def stepText (piece : List Char) : String :=
  String.ofList (unescapePair '0' '~' (unescapePair '1' '/' piece))

/-- The array position that a step names: digits only, with no needless zero in front. -/
def position? (step : String) : Option Nat :=
  let digits := step.toList
  if digits.isEmpty || !digits.all Char.isDigit || (digits.head? == some '0' && digits.length != 1)
  then none
  else some (digits.foldl (fun n d => 10 * n + (d.toNat - '0'.toNat)) 0)

/-- One step into an object or an array. -/
def child? (document : Document) (step : String) : Option Document :=
  match document with
  | .obj members => Keyed.get? members step
  | .arr items => (position? step).bind (items[·]?)
  | _ => none

/-- The value that a pointer reaches. -/
def pointer? (document : Document) (pointer : String) : Option Document :=
  match pointer.toList with
  | [] => some document
  | '/' :: rest =>
    (splitOn '/' rest).foldlM (fun value piece => value.child? (stepText piece)) document
  | _ => none

/-- The value that a local reference (`#/…`) reaches. -/
def resolve? (document : Document) (reference : String) : Option Document :=
  match reference.toList with
  | '#' :: pointer => document.pointer? (String.ofList pointer)
  | _ => none

end QuerySynth.Document
