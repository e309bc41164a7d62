/-! # Cutting and joining lists

Pieces between separators, affixes, and trimming. Everything works on lists, so that texts are
reasoned about by induction on their characters.
-/

namespace QuerySynth.Text

variable {α : Type} [DecidableEq α]

/-- The pieces between the occurrences of a separator, empty ones included; never empty itself. -/
def splitOn (separator : α) : List α → List (List α)
  | [] => [[]]
  | x :: rest =>
    if x = separator then [] :: splitOn separator rest
    else
      match splitOn separator rest with
      | [] => [[x]]
      | piece :: pieces => (x :: piece) :: pieces

/-- What follows `stem`, when the list starts with it. -/
def dropStem? : (stem : List α) → List α → Option (List α)
  | [], rest => some rest
  | _ :: _, [] => none
  | s :: stem, x :: rest => if s = x then dropStem? stem rest else none

/-- What precedes `ending`, when the list ends with it. -/
def dropEnding? (ending xs : List α) : Option (List α) :=
  (dropStem? ending.reverse xs.reverse).map List.reverse

/-- Whether the list ends with `ending`. -/
def endsWith (ending xs : List α) : Bool :=
  (dropEnding? ending xs).isSome

/-- The parts before and after the first occurrence of `separator`. -/
def splitOnce? (separator : List α) : List α → Option (List α × List α)
  | [] => (dropStem? separator []).map ([], ·)
  | x :: rest =>
    match dropStem? separator (x :: rest) with
    | some after => some ([], after)
    | none => (splitOnce? separator rest).map fun (before, after) => (x :: before, after)

/-- Drop the leading elements that satisfy `drop`. -/
abbrev trimLeft (drop : α → Bool) (xs : List α) : List α :=
  xs.dropWhile drop

/-- Drop the trailing elements that satisfy `drop`. -/
def trimRight (drop : α → Bool) (xs : List α) : List α :=
  (xs.reverse.dropWhile drop).reverse

/-- Drop the elements that satisfy `drop` from both ends. -/
def trimEnds (drop : α → Bool) (xs : List α) : List α :=
  trimRight drop (trimLeft drop xs)

end QuerySynth.Text
