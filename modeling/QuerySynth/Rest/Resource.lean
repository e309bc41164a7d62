import QuerySynth.Name

/-! # Resources of paths

The resource of a path is its first segment after the base path, in delimited form.
-/

namespace QuerySynth.Rest

open Text

/-- The path after the base path; a base path matches whole segments only. -/
def afterBase (path basePath : List Char) : List Char :=
  let base := trimRight (· == '/') basePath
  match dropStem? base path with
  | some rest => if !base.isEmpty && rest.head?.all (· == '/') then rest else path
  | none => path

/-- The first segment of a path after the base path. -/
def firstSegment (path basePath : List Char) : List Char :=
  (trimLeft (· == '/') (afterBase path basePath)).takeWhile (· != '/')

/-- The resource of a path; none when its first segment is empty or a placeholder. -/
def resource? (path basePath : String) : Option String :=
  let segment := firstSegment path.toList basePath.toList
  if segment.head?.all (· == '\x7b') then none
  else
    let resource := Name.snake (segment.map fun c => if c = '-' then '_' else c)
    if resource.isEmpty then none else some (String.ofList resource)

end QuerySynth.Rest
