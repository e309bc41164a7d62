import QuerySynth.Text.Blank

/-! # Documented filter fields

A request documents a filter field by a line `Filter by <field> - <description>`. A group of
parentheses at the end of the description is a note for readers of the schema and is left out.
-/

namespace QuerySynth.Comment

open Text

/-- How the line of a filter field starts. -/
def lead : List Char := "Filter by ".toList

/-- What stands between the field and its description. -/
def dash : List Char := " - ".toList

/-- The rest of a reversed text before the group that is open `depth` deep. -/
def beforeGroup (depth : Nat) : List Char → Option (List Char)
  | [] => none
  | c :: rest =>
    if c = ')' then beforeGroup (depth + 1) rest
    else if c = '(' then
      match depth with
      | 0 => none
      | 1 => some rest
      | depth + 1 => beforeGroup depth rest
    else beforeGroup depth rest

/-- The text before the balanced group that it ends with. -/
def dropGroup? (text : List Char) : Option (List Char) :=
  match text.reverse with
  | ')' :: rest => (beforeGroup 1 rest).map List.reverse
  | _ => none

/-- The first line that documents a filter field, after its lead. -/
def filterLine? (comment : List Char) : Option (List Char) :=
  (splitOn '\n' comment).findSome? fun line => dropStem? lead (trim line)

/-- The description in a comment, if it documents a filter field. -/
def description? (comment : List Char) : Option (List Char) := do
  let (_, rest) ← splitOnce? dash (← filterLine? comment)
  let text := trim rest
  let kept := ((dropGroup? text).map (trimRight isBlank)).getD text
  if kept.isEmpty then none else some kept

end QuerySynth.Comment

namespace QuerySynth

/-- The description in a comment, if it documents a filter field. -/
def filterDescription? (comment : String) : Option String :=
  (Comment.description? comment.toList).map String.ofList

end QuerySynth
